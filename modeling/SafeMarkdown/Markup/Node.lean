/-!
# Markup

The output of rendering is a list of markup nodes: elements, with attributes in the order in which
they will be written, and texts. A text holds the characters that a reader shall see, so escaping
is left to the serialiser.
-/

namespace SafeMarkdown

/-- The name and the value of an attribute. -/
abbrev Attr := String × String

/-- A node of markup. -/
inductive Markup where
  | text (value : String)
  | element (tag : String) (attrs : List Attr) (children : List Markup)
deriving BEq, Repr, Inhabited

namespace Markup

/-- The value of the first attribute of that name; a text has none. -/
def attr? (name : String) : Markup → Option String
  | text _ => none
  | element _ attrs _ => attrs.lookup name

mutual

/-- The text of a node, that of its descendants in document order. -/
def innerText : Markup → String
  | text value => value
  | element _ _ children => innerTexts children

/-- The texts of a list of nodes, one after the other. -/
def innerTexts : List Markup → String
  | [] => ""
  | n :: ns => n.innerText ++ innerTexts ns

end

end Markup

end SafeMarkdown
