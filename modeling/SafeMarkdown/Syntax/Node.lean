/-!
# Syntax trees

Parsing Markdown gives a tree of nodes that all have the same fields; the kind says which of them
matter. Kinds without a constructor of their own are carried by name, so that a tree can hold what
the rest of the library has no use for.
-/

namespace SafeMarkdown.Syntax

/-- What a node of a syntax tree is. -/
inductive Kind where
  | paragraph
  | heading
  | blockquote
  | fence
  | codeBlock
  | bulletList
  | orderedList
  | listItem
  | hr
  | htmlBlock
  | inline
  | text
  | textSpecial
  | softBreak
  | hardBreak
  | codeInline
  | em
  | strong
  | link
  | image
  | htmlInline
  | other (name : String)
deriving DecidableEq, Repr, Inhabited

namespace Kind

/-- The name of a kind. -/
def name : Kind → String
  | paragraph => "paragraph"
  | heading => "heading"
  | blockquote => "blockquote"
  | fence => "fence"
  | codeBlock => "code_block"
  | bulletList => "bullet_list"
  | orderedList => "ordered_list"
  | listItem => "list_item"
  | hr => "hr"
  | htmlBlock => "html_block"
  | inline => "inline"
  | text => "text"
  | textSpecial => "text_special"
  | softBreak => "softbreak"
  | hardBreak => "hardbreak"
  | codeInline => "code_inline"
  | em => "em"
  | strong => "strong"
  | link => "link"
  | image => "image"
  | htmlInline => "html_inline"
  | other name => name

/-- The kinds with a constructor of their own. -/
def known : List Kind :=
  [paragraph, heading, blockquote, fence, codeBlock, bulletList, orderedList, listItem, hr,
    htmlBlock, inline, text, textSpecial, softBreak, hardBreak, codeInline, em, strong, link,
    image, htmlInline]

/-- The kind of that name. -/
def ofName (s : String) : Kind :=
  (known.find? fun k ↦ k.name == s).getD (other s)

theorem name_ofName (s : String) : (ofName s).name = s := by
  unfold ofName
  cases h : known.find? fun k ↦ k.name == s with
  | none => rfl
  | some k => simpa using List.find?_some h

end Kind

/-- The value of a node's attribute. -/
inductive AttrValue where
  | text (value : String)
  | integer (value : Int)
deriving DecidableEq, Repr

/-- The value as text. -/
def AttrValue.toText : AttrValue → String
  | text value => value
  | integer value => toString value

/-- A node of a syntax tree. -/
structure Node where
  kind : Kind
  /-- The text of a leaf, or the source of raw HTML. -/
  content : String := ""
  /-- The letter h and the level, for a heading. -/
  tag : String := ""
  /-- What follows the opening marks of a fence. -/
  info : String := ""
  /-- The paragraph is not to be wrapped. -/
  hidden : Bool := false
  attrs : List (String × AttrValue) := []
  children : List Node := []
deriving Repr, Inhabited

/-- The value of the last attribute of that name. -/
def Node.attr? (name : String) (n : Node) : Option AttrValue :=
  n.attrs.reverse.lookup name

end SafeMarkdown.Syntax
