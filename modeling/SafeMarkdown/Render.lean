import SafeMarkdown.Document.Depth
import SafeMarkdown.Document.Node
import SafeMarkdown.Options.Basic
import SafeMarkdown.Renderer.Basic

/-!
# Rendering documents

A document is rendered node by node into markup. The depth of a node counts the lists of nodes it
stands in, and a list deeper than the limit is refused, an empty one too. Each construct goes to
its renderer with its children rendered; a raw HTML element, section or block is kept, filtered or
shown as text, as the options say:

* unsafe, an element keeps its tag, attributes and children;
* under a policy, an element that is not allowed gives way to its children, and one that is allowed
  keeps the allowed attributes;
* as text, the tags are shown as they were written, around the children.

The paragraphs of a tight list are not wrapped. Tightness belongs to the blocks of the list's own
items and not to what is nested in them.
-/

namespace SafeMarkdown

open Document (Node depthLimit depthMessage)

/-- Why a document could not be rendered. -/
inductive RenderError where
  | tooDeep
  | blockExpected (found : String)
  | inlineExpected (found : String)
deriving DecidableEq, Repr

/-- The text of the error. -/
def RenderError.message : RenderError → String
  | tooDeep => depthMessage
  | blockExpected found => "Unsupported block node: " ++ found
  | inlineExpected found => "Unsupported inline node: " ++ found

/-- The markup of a part of a document. -/
abbrev Rendered := Except RenderError (List Markup)

/-- Refuses a depth beyond the limit. -/
def checkDepth (depth : Nat) : Except RenderError Unit :=
  if depthLimit < depth then .error .tooDeep else .ok ()

/-- A text node, unless the text is empty. -/
def textUnlessEmpty (s : String) : List Markup :=
  if s = "" then [] else [.text s]

mutual

/-- The markup of an inline at a depth. -/
def renderInline (o : Options) (r : Renderers) (depth : Nat) : Node → Rendered
  | .text value => .ok [.text value]
  | .softBreak => .ok [if o.softAsHardLineBreak then r.hardLineBreak else .text "\n"]
  | .hardBreak => .ok [r.hardLineBreak]
  | .codeSpan text => .ok [r.codeSpan text]
  | .emphasis children => do
    return [r.emphasis (← renderInlines o r (depth + 1) children)]
  | .strong children => do
    return [r.strongEmphasis (← renderInlines o r (depth + 1) children)]
  | .link link children => do
    return [r.link link (← renderInlines o r (depth + 1) children)]
  | .image image => .ok [r.image image]
  | .htmlElement tag attrs children startSource endSource void =>
    match o.html with
    | .parseUnsafe => do
      return [.element tag attrs (← renderInlines o r (depth + 1) children)]
    | .sanitize policy =>
      if policy.allowsElement tag then do
        let children ← renderInlines o r (depth + 1) children
        return [.element tag (policy.filterAttrs attrs) children]
      else if void || children.isEmpty then .ok []
      else renderInlines o r (depth + 1) children
    | .dontParse => do
      let children ← renderInlines o r (depth + 1) children
      return .text startSource :: children ++ textUnlessEmpty endSource
  | .rawHtml source =>
    match o.html with
    | .dontParse => .ok [.text source]
    | _ => .ok []
  | n => .error (.inlineExpected n.kindName)

/-- The markup of a list of inlines at a depth. -/
def renderInlines (o : Options) (r : Renderers) (depth : Nat) : List Node → Rendered
  | [] => do
    checkDepth depth
    return []
  | n :: ns => do
    checkDepth depth
    return (← renderInline o r depth n) ++ (← renderInlines o r depth ns)

end

mutual

/-- The markup of a block at a depth; `tight` tells that it stands in an item of a tight list. -/
def renderBlock (o : Options) (r : Renderers) (depth : Nat) (tight : Bool) : Node → Rendered
  | .paragraph children => do
    return r.paragraph (!tight) (← renderInlines o r (depth + 1) children)
  | .heading level children => do
    return [r.heading level (← renderInlines o r (depth + 1) children)]
  | .blockQuote children => do
    return [r.blockQuote (← renderBlocks o r (depth + 1) false children)]
  | .codeBlock block => .ok [r.code block]
  | .list kind items tight => do
    return [r.list kind (← renderItems o r (depth + 1) tight items)]
  | .thematicBreak => .ok [r.thematicBreak]
  | .htmlBlock source nodes =>
    match o.html with
    | .dontParse => .ok [.text source]
    | _ => renderInlines o r (depth + 1) nodes
  | .htmlSection tag attrs leading children startSource endSource =>
    match o.html with
    | .dontParse => do
      let content ← renderBlocks o r (depth + 1) false children
      return .text startSource :: content ++ textUnlessEmpty endSource
    | .parseUnsafe => do
      let leading ← renderInlines o r (depth + 1) leading
      let content ← renderBlocks o r (depth + 1) false children
      return [.element tag attrs (leading ++ content)]
    | .sanitize policy => do
      let leading ← renderInlines o r (depth + 1) leading
      let content ← renderBlocks o r (depth + 1) false children
      if policy.allowsElement tag then
        return [.element tag (policy.filterAttrs attrs) (leading ++ content)]
      else return leading ++ content
  | n => .error (.blockExpected n.kindName)

/-- The markup of a list of blocks at a depth. -/
def renderBlocks (o : Options) (r : Renderers) (depth : Nat) (tight : Bool) : List Node → Rendered
  | [] => do
    checkDepth depth
    return []
  | n :: ns => do
    checkDepth depth
    return (← renderBlock o r depth tight n) ++ (← renderBlocks o r depth tight ns)

/-- The list items of the items of a list, whose blocks stand at a depth. -/
def renderItems (o : Options) (r : Renderers) (depth : Nat) (tight : Bool) :
    List (List Node) → Rendered
  | [] => .ok []
  | item :: items => do
    let content ← renderBlocks o r depth tight item
    return .element "li" [] content :: (← renderItems o r depth tight items)

end

/-- The markup of a document. -/
def renderDocument (o : Options) (r : Renderers) (blocks : List Node) : Rendered :=
  renderBlocks o r 0 false blocks

end SafeMarkdown
