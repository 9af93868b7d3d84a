import SafeMarkdown.Markup.Node

/-!
# Markup as HTML text

An element is written as its start tag, its children and its end tag. A void element without
children has no end tag. Text and attribute values are escaped, save for the text directly inside
`script` and `style`, which a reader does not decode and which therefore is written as it is.
-/

namespace SafeMarkdown.Markup

/-- The elements whose start tag stands alone. -/
def voidTags : List String :=
  ["area", "base", "br", "col", "embed", "hr", "img", "input", "link", "meta", "source", "track",
    "wbr"]

/-- The elements whose text is written unescaped. -/
def rawTextTags : List String :=
  ["script", "style"]

/-- One character with its meaning in HTML taken away. -/
def escapeChar (c : Char) : List Char :=
  match c with
  | '&' => ['&', 'a', 'm', 'p', ';']
  | '<' => ['&', 'l', 't', ';']
  | '>' => ['&', 'g', 't', ';']
  | '"' => ['&', '#', '3', '4', ';']
  | '\'' => ['&', '#', '3', '9', ';']
  | c => [c]

/-- A text with each character escaped that could end or begin markup. -/
def escape (s : List Char) : List Char :=
  s.flatMap escapeChar

/-- An attribute with the space before it. -/
def attrChars (a : Attr) : List Char :=
  ' ' :: a.1.toList ++ '=' :: '"' :: escape a.2.toList ++ ['"']

/-- The start tag of an element. -/
def startTag (tag : String) (attrs : List Attr) : List Char :=
  '<' :: tag.toList ++ attrs.flatMap attrChars ++ ['>']

/-- The end tag of an element. -/
def endTag (tag : String) : List Char :=
  '<' :: '/' :: tag.toList ++ ['>']

mutual

/-- The characters of a node. `raw` tells that the node stands directly in a raw text element. -/
def chars (raw : Bool) : Markup → List Char
  | text value => if raw then value.toList else escape value.toList
  | element tag attrs children =>
    if tag ∈ voidTags ∧ children = [] then startTag tag attrs
    else startTag tag attrs ++ listChars (tag ∈ rawTextTags) children ++ endTag tag

/-- The characters of a list of nodes, one after the other. -/
def listChars (raw : Bool) : List Markup → List Char
  | [] => []
  | n :: ns => chars raw n ++ listChars raw ns

end

/-- The HTML text of a list of nodes. -/
def toHtml (nodes : List Markup) : String :=
  .ofList (listChars false nodes)

end SafeMarkdown.Markup
