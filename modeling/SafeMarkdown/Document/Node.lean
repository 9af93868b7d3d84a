import SafeMarkdown.Markup.Node

/-!
# Documents

A document is a tree of blocks and inlines: the constructs of Markdown, and raw HTML in four
forms. Blocks and inlines share one type. `Node.isBlock` tells them apart, and `SortedBlocks` says
that every node stands where its sort belongs; rendering checks a node's sort only when it gets
there.

A raw HTML element found in running text keeps its tags as they were written, so that it can be
shown literally; the end tag is empty where there was none. An HTML block keeps its whole source
beside the nodes read from it. An HTML section is an element that one HTML block opens and a later
one closes: `leading` is what follows the start tag inside the opening block, and `children` are
the blocks in between.
-/

namespace SafeMarkdown.Document

/-- A block of code and the language it is written in. -/
structure CodeBlock where
  code : String
  language : Option String
deriving DecidableEq, Repr, Inhabited

/-- A bulleted list, or a numbered one with the number of its first item. -/
inductive ListKind where
  | unordered
  | ordered (start : Int)
deriving DecidableEq, Repr, Inhabited

/-- The target of a link. -/
structure Link where
  url : String
  title : Option String
deriving DecidableEq, Repr, Inhabited

/-- An image and the text that stands for it. -/
structure Image where
  alt : String
  src : String
  title : Option String
deriving DecidableEq, Repr, Inhabited

/-- A node of a document. -/
inductive Node where
  | heading (level : Int) (children : List Node)
  | paragraph (children : List Node)
  | blockQuote (children : List Node)
  | codeBlock (block : CodeBlock)
  | list (kind : ListKind) (items : List (List Node)) (tight : Bool)
  | thematicBreak
  | htmlBlock (source : String) (nodes : List Node)
  | htmlSection (tag : String) (attrs : List Attr) (leading children : List Node)
      (startSource endSource : String)
  | text (value : String)
  | softBreak
  | hardBreak
  | codeSpan (text : String)
  | emphasis (children : List Node)
  | strong (children : List Node)
  | link (link : Link) (children : List Node)
  | image (image : Image)
  | htmlElement (tag : String) (attrs : List Attr) (children : List Node)
      (startSource endSource : String) (void : Bool)
  | rawHtml (source : String)
deriving BEq, Repr, Inhabited

namespace Node

/-- The name of a node's kind in messages. -/
def kindName : Node → String
  | heading .. => "Heading"
  | paragraph .. => "Paragraph"
  | blockQuote .. => "BlockQuote"
  | codeBlock .. => "CodeBlock"
  | list .. => "ListBlock"
  | thematicBreak => "ThematicBreak"
  | htmlBlock .. => "HtmlBlock"
  | htmlSection .. => "HtmlSection"
  | text .. => "Text"
  | softBreak => "SoftBreak"
  | hardBreak => "HardBreak"
  | codeSpan .. => "CodeSpan"
  | emphasis .. => "Emphasis"
  | strong .. => "Strong"
  | link .. => "LinkSpan"
  | image .. => "ImageSpan"
  | htmlElement .. => "HtmlElement"
  | rawHtml .. => "RawHtml"

/-- The node is a block. -/
def isBlock : Node → Bool
  | heading .. | paragraph .. | blockQuote .. | codeBlock .. | list .. | thematicBreak
  | htmlBlock .. | htmlSection .. => true
  | _ => false

end Node

mutual

/-- The node is a block, and every node below it stands where its sort belongs. -/
def Node.SortedBlock : Node → Prop
  | .heading _ children | .paragraph children | .htmlBlock _ children => SortedInlines children
  | .blockQuote children => SortedBlocks children
  | .list _ items _ => SortedItems items
  | .htmlSection _ _ leading children _ _ => SortedInlines leading ∧ SortedBlocks children
  | .codeBlock _ | .thematicBreak => True
  | _ => False

/-- The node is an inline, and every node below it stands where its sort belongs. -/
def Node.SortedInline : Node → Prop
  | .emphasis children | .strong children | .link _ children => SortedInlines children
  | .htmlElement _ _ children _ _ _ => SortedInlines children
  | .text _ | .softBreak | .hardBreak | .codeSpan _ | .image _ | .rawHtml _ => True
  | _ => False

/-- Every node of the list is a well-sorted block. -/
def SortedBlocks : List Node → Prop
  | [] => True
  | n :: ns => n.SortedBlock ∧ SortedBlocks ns

/-- Every node of the list is a well-sorted inline. -/
def SortedInlines : List Node → Prop
  | [] => True
  | n :: ns => n.SortedInline ∧ SortedInlines ns

/-- Every item of the list holds well-sorted blocks. -/
def SortedItems : List (List Node) → Prop
  | [] => True
  | ns :: items => SortedBlocks ns ∧ SortedItems items

end

end SafeMarkdown.Document
