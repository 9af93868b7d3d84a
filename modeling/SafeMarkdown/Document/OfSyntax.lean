import SafeMarkdown.Commonmark.Unescape
import SafeMarkdown.Document.Depth
import SafeMarkdown.Document.Node
import SafeMarkdown.Html.Tree
import SafeMarkdown.Syntax.Pairing
import SafeMarkdown.Text.Integer

/-!
# Documents from syntax trees

A syntax tree holds raw HTML as bare source. In the document, start and end tags among siblings
become elements around what stands between them, HTML blocks are read into nodes, and two HTML
blocks that open and close an element become a section. The attributes of a tag come from reading
its source as HTML.

Conversion goes from left to right and stops at the first fault: a list deeper than the limit, a
kind of node without a place in documents, HTML text that is refused, or a number that cannot be
read. Each sibling brings its own conversion, as a function of the depth at which it will stand, so
the pairing of siblings does not look into them.
-/

namespace SafeMarkdown.Document

open Syntax (Kind Nest)

/-- Why a syntax tree is no document. -/
inductive ConversionError where
  | tooDeep
  | unsupportedBlock (kind : String)
  | unsupportedInline (kind : String)
  | refusedHtml (rejection : Html.Rejection)
  | badInteger (text : String)
deriving DecidableEq, Repr

/-- The text of the error. -/
def ConversionError.message : ConversionError → String
  | tooDeep => depthMessage
  | unsupportedBlock kind => "Unsupported block node: " ++ kind
  | unsupportedInline kind => "Unsupported inline node: " ++ kind
  | refusedHtml rejection => rejection.message
  | badInteger text =>
    "invalid literal for int() with base 10: " ++
      .ofList ((Text.Quoted.encode text.toList).take 200)

/-- A part of a document, or the first fault. -/
abbrev Converted (α : Type) := Except ConversionError α

/-- Refuses a depth beyond the limit. -/
def checkDepth (depth : Nat) : Converted Unit :=
  if depthLimit < depth then .error .tooDeep else .ok ()

/-- Reads HTML text. -/
def readHtml (source : String) : Converted (List Markup) :=
  (Html.parse source).mapError .refusedHtml

/-! ### Nodes from HTML text -/

mutual

/-- An HTML node as an inline; the list that it stands in is at `depth`. -/
def ofMarkup (depth : Nat) : Markup → Converted Node
  | .text value => .ok (.text value)
  | .element tag attrs children => do
    return .htmlElement tag attrs (← ofMarkups (depth + 1) children) "" "" (tag ∈ Html.voidTags)

/-- A list of HTML nodes as inlines at a depth. -/
def ofMarkups (depth : Nat) : List Markup → Converted (List Node)
  | [] => do
    checkDepth depth
    return []
  | n :: ns => do
    checkDepth depth
    return (← ofMarkup depth n) :: (← ofMarkups depth ns)

end

/-! ### Inlines -/

/-- A sibling and its own conversion, by the depth at which it stands. -/
structure Sibling where
  node : Syntax.Node
  convert : Nat → Converted Node

/-- Reading the source finds an element of the tag that it begins with. -/
def findsTag (source : String) : Bool :=
  match Syntax.startTagName? source.toList, Html.parse source with
  | some tag, .ok nodes => (Html.find tag nodes).isSome
  | _, _ => false

/-- A tag by itself: an element without children, or raw HTML where no element is found. -/
def ofLoneTag (source : String) : Converted Node :=
  match Syntax.startTagName? source.toList with
  | none => .ok (.rawHtml source)
  | some tag => do
    match Html.find tag (← readHtml source) with
    | none => return .rawHtml source
    | some (attrs, _) =>
      return .htmlElement tag attrs [] source "" (Syntax.isSelfClosing source.toList tag)

/-- The tag and the attributes of an element that `source` opens. -/
def openingTag (source : String) : Converted (String × List Attr) := do
  let tag := (Syntax.startTagName? source.toList).getD ""
  let found := Html.find tag (← readHtml source)
  return (tag, (found.map Prod.fst).getD [])

mutual

/-- A sibling, or a bracket of siblings, as an inline; the list that it stands in is at `depth`. -/
def ofInlineNest (depth : Nat) : Nest Sibling → Converted Node
  | .leaf s => if s.node.kind = .htmlInline then ofLoneTag s.node.content else s.convert depth
  | .pair opening inner closing => do
    let (tag, attrs) ← openingTag opening.node.content
    let children ← ofInlineNests (depth + 1) inner
    return .htmlElement tag attrs children opening.node.content closing.node.content false

/-- A bracketed list of siblings as inlines at a depth. -/
def ofInlineNests (depth : Nat) : List (Nest Sibling) → Converted (List Node)
  | [] => do
    checkDepth depth
    return []
  | n :: ns => do
    checkDepth depth
    return (← ofInlineNest depth n) :: (← ofInlineNests depth ns)

end

/-- The pairs of tags among inlines: those whose opening tag is found by reading it. -/
def inlinePairs (nodes : List Syntax.Node) : List (Nat × Nat) :=
  (Syntax.pairTags .htmlInline nodes).filter fun p ↦
    match nodes[p.1]? with
    | some n => findsTag n.content
    | none => false

/-- A list of siblings as inlines at a depth. -/
def ofInlines (siblings : List Sibling) (depth : Nat) : Converted (List Node) :=
  ofInlineNests depth (Nest.build (inlinePairs (siblings.map Sibling.node)) 0 siblings)

mutual

/-- The text that a node shows when it stands in the place of an image. -/
def plainText : Syntax.Node → String
  | ⟨kind, content, _, _, _, _, children⟩ =>
    match kind with
    | .text | .textSpecial | .codeInline => content
    | .softBreak | .hardBreak => "\n"
    | _ => plainTexts children

/-- The texts of a list of nodes, one after the other. -/
def plainTexts : List Syntax.Node → String
  | [] => ""
  | n :: ns => plainText n ++ plainTexts ns

end

/-- The address in an attribute; empty where it is missing. -/
def addressAttr (name : String) (n : Syntax.Node) : String :=
  ((n.attr? name).map Syntax.AttrValue.toText).getD ""

/-- The title of a link or an image. -/
def titleAttr (n : Syntax.Node) : Option String :=
  (n.attr? "title").map Syntax.AttrValue.toText

mutual

/-- A node of the syntax tree as an inline at a depth, its siblings not considered. -/
def ofInline : Syntax.Node → Nat → Converted Node
  | ⟨kind, content, tag, info, hidden, attrs, children⟩, depth =>
    let n : Syntax.Node := ⟨kind, content, tag, info, hidden, attrs, children⟩
    match kind with
    | .text | .textSpecial => .ok (.text content)
    | .softBreak => .ok .softBreak
    | .hardBreak => .ok .hardBreak
    | .codeInline => .ok (.codeSpan content)
    | .em => (ofInlines (inlineSiblings children) (depth + 1)).map .emphasis
    | .strong => (ofInlines (inlineSiblings children) (depth + 1)).map .strong
    | .link =>
      (ofInlines (inlineSiblings children) (depth + 1)).map
        (.link ⟨addressAttr "href" n, titleAttr n⟩)
    | .image => .ok (.image ⟨plainText n, addressAttr "src" n, titleAttr n⟩)
    | _ => .error (.unsupportedInline kind.name)

/-- The nodes of a list with their conversions. -/
def inlineSiblings : List Syntax.Node → List Sibling
  | [] => []
  | n :: ns => ⟨n, ofInline n⟩ :: inlineSiblings ns

end

/-! ### Blocks -/

/-- The inlines of a paragraph or a heading at a depth: those of its parts of kind `inline`. -/
def ofParts (parts : List Syntax.Node) (depth : Nat) : Converted (List Node) :=
  ofInlines
    (inlineSiblings ((parts.filter fun p ↦ p.kind = .inline).flatMap Syntax.Node.children)) depth

/-- The first word of what follows the opening marks of a fence. -/
def fenceLanguage? (info : String) : Option String :=
  (Text.firstWord? (Commonmark.unescape info.toList)).map String.ofList

/-- No paragraph directly in an item of the list is to be wrapped. -/
def isTight (items : List Syntax.Node) : Bool :=
  (items.flatMap Syntax.Node.children).all fun n ↦ n.kind != .paragraph || n.hidden

/-- An integer written in an attribute. -/
def integerAttr : Syntax.AttrValue → Converted Int
  | .integer n => .ok n
  | .text s =>
    match Text.readInt? s.toList with
    | some n => .ok n
    | none => .error (.badInteger s)

/-- The level of a heading, from its tag. -/
def headingLevel (tag : String) : Converted Int :=
  integerAttr (.text (.ofList (tag.toList.drop 1)))

/-- The number of the first item of a numbered list. -/
def listStart (n : Syntax.Node) : Converted Int :=
  ((n.attr? "start").map integerAttr).getD (.ok 1)

/-- What a section takes from its opening block: tag, attributes, and the content that follows the
start tag there, at a depth. -/
def sectionStart (source : String) (depth : Nat) : Converted (String × List Attr × List Node) := do
  let tag := (Syntax.startTagName? (Text.trim source.toList)).getD ""
  match Html.find tag (← readHtml source) with
  | none => return (tag, [], [])
  | some (attrs, children) => return (tag, attrs, ← ofMarkups depth children)

mutual

/-- A sibling, or a bracket of siblings, as a block; the list that it stands in is at `depth`. -/
def ofBlockNest (depth : Nat) : Nest Sibling → Converted Node
  | .leaf s => s.convert depth
  | .pair opening inner closing => do
    let (tag, attrs, leading) ← sectionStart opening.node.content (depth + 1)
    let children ← ofBlockNests (depth + 1) inner
    return .htmlSection tag attrs leading children opening.node.content closing.node.content

/-- A bracketed list of siblings as blocks at a depth. -/
def ofBlockNests (depth : Nat) : List (Nest Sibling) → Converted (List Node)
  | [] => do
    checkDepth depth
    return []
  | n :: ns => do
    checkDepth depth
    return (← ofBlockNest depth n) :: (← ofBlockNests depth ns)

end

/-- A list of siblings as blocks at a depth. -/
def ofBlocks (siblings : List Sibling) (depth : Nat) : Converted (List Node) :=
  ofBlockNests depth
    (Nest.build (Syntax.pairTags .htmlBlock (siblings.map Sibling.node)) 0 siblings)

mutual

/-- A node of the syntax tree as a block at a depth, its siblings not considered. -/
def ofBlock : Syntax.Node → Nat → Converted Node
  | ⟨kind, content, tag, info, hidden, attrs, children⟩, depth =>
    let n : Syntax.Node := ⟨kind, content, tag, info, hidden, attrs, children⟩
    match kind with
    | .paragraph => (ofParts children (depth + 1)).map .paragraph
    | .heading => do
      let level ← headingLevel tag
      (ofParts children (depth + 1)).map (.heading level)
    | .blockquote => (ofBlocks (blockSiblings children) (depth + 1)).map .blockQuote
    | .fence => .ok (.codeBlock ⟨content, fenceLanguage? info⟩)
    | .codeBlock => .ok (.codeBlock ⟨content, none⟩)
    | .bulletList => do
      let items ← (itemSiblings children).mapM fun item ↦ ofBlocks item (depth + 1)
      return .list .unordered items (isTight children)
    | .orderedList => do
      let start ← listStart n
      let items ← (itemSiblings children).mapM fun item ↦ ofBlocks item (depth + 1)
      return .list (.ordered start) items (isTight children)
    | .hr => .ok .thematicBreak
    | .htmlBlock => do
      return .htmlBlock content (← ofMarkups (depth + 1) (← readHtml content))
    | _ => .error (.unsupportedBlock kind.name)

/-- The nodes of a list with their conversions. -/
def blockSiblings : List Syntax.Node → List Sibling
  | [] => []
  | n :: ns => ⟨n, ofBlock n⟩ :: blockSiblings ns

/-- The children of each item of a list, with their conversions. -/
def itemSiblings : List Syntax.Node → List (List Sibling)
  | [] => []
  | ⟨_, _, _, _, _, _, children⟩ :: ns => blockSiblings children :: itemSiblings ns

end

/-- A syntax tree, given by the list of its outermost nodes, as a document. -/
def ofSyntax (nodes : List Syntax.Node) : Converted (List Node) :=
  ofBlocks (blockSiblings nodes) 0

end SafeMarkdown.Document
