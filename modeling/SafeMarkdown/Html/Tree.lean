import SafeMarkdown.Html.Lexer

/-!
# Trees from HTML text

Tokens are put together with a stack of open elements. No end tag is implied: an element stays open
until an end tag of its name, which closes the elements inside it too, or until the text ends. A
slash at the end of a start tag closes the element at once. So does being void, and then an end tag
that follows for the element is spent on it and does nothing else.

Adjacent texts become one text node, which ends where a tag or hidden markup stands. A text node of
nothing but HTML space becomes one line feed if it has any, else one space, unless it stands in
`pre` or `textarea`.
-/

namespace SafeMarkdown.Html

/-- The elements that are closed as soon as they are opened. -/
def voidTags : List String :=
  ["area", "base", "basefont", "bgsound", "br", "col", "command", "embed", "frame", "hr", "image",
    "img", "input", "isindex", "keygen", "link", "menuitem", "meta", "nextid", "param", "source",
    "spacer", "track", "wbr"]

/-- The elements in which space is kept. -/
def spaceKeepingTags : List String :=
  ["pre", "textarea"]

/-- An element that is open, and the nodes that came before it in its parent, last first. -/
structure OpenElement where
  tag : String
  attrs : List Attr
  before : List Markup
deriving Repr

/-- A tree in the making. -/
structure Builder where
  /-- The open elements, innermost first. -/
  stack : List OpenElement
  /-- The nodes of the innermost open element so far, last first. -/
  nodes : List Markup
  /-- The text since the last tag. -/
  pending : List Char
  /-- The void elements whose end tag may still come. -/
  spent : List String
deriving Repr

namespace Builder

/-- Nothing read yet. -/
def empty : Builder := ⟨[], [], [], []⟩

/-- An element of that name is open. -/
def isOpen (b : Builder) (tag : String) : Bool :=
  b.stack.any fun e ↦ e.tag == tag

/-- The text as a node keeps it: mere space is shortened, unless `keep` says otherwise. -/
def normalSpace (keep : Bool) (s : List Char) : List Char :=
  if !keep && s.all Text.isHtmlSpace then
    if s.contains '\n' then ['\n'] else [' ']
  else s

/-- Makes the pending text a node. -/
def flush (b : Builder) : Builder :=
  if b.pending.isEmpty then b
  else
    let s := normalSpace (spaceKeepingTags.any b.isOpen) b.pending
    { b with nodes := .text (.ofList s) :: b.nodes, pending := [] }

/-- Opens an element. -/
def push (b : Builder) (tag : String) (attrs : List Attr) : Builder :=
  { b with stack := ⟨tag, attrs, b.nodes⟩ :: b.stack, nodes := [] }

/-- The nodes of the parent of the innermost open element `e`, once `e` is closed. -/
def closed (e : OpenElement) (nodes : List Markup) : List Markup :=
  .element e.tag e.attrs nodes.reverse :: e.before

/-- Closes open elements up to and with the innermost one of that name: the elements that stay open
and the nodes of the innermost of them. All are closed where none has the name. -/
def closeThrough (tag : String) : List OpenElement → List Markup → List OpenElement × List Markup
  | [], nodes => ([], nodes)
  | e :: es, nodes =>
    if e.tag = tag then (es, closed e nodes) else closeThrough tag es (closed e nodes)

/-- Closes the innermost open element of that name, and nothing where none is open. -/
def pop (b : Builder) (tag : String) : Builder :=
  if b.isOpen tag then
    let (stack, nodes) := closeThrough tag b.stack b.nodes
    { b with stack := stack, nodes := nodes }
  else b

/-- An end tag: spent on a void element if one waits for it. -/
def endTag (b : Builder) (tag : String) : Builder :=
  if tag ∈ b.spent then { b with spent := b.spent.erase tag } else b.flush.pop tag

/-- A start tag. -/
def startTag (b : Builder) (tag : String) (attrs : List Attr) (selfClosing : Bool) : Builder :=
  let b := b.flush.push tag attrs
  if selfClosing then b.pop tag
  else if tag ∈ voidTags then
    let b := b.pop tag
    { b with spent := tag :: b.spent }
  else b

/-- Takes one token in. -/
def add (b : Builder) : Token → Builder
  | .text s => { b with pending := b.pending ++ s }
  | .startTag tag attrs selfClosing => b.startTag tag attrs selfClosing
  | .endTag tag => b.endTag tag
  | .hidden => b.flush

/-- Closes all open elements: the nodes of the whole. -/
def closeAll : List OpenElement → List Markup → List Markup
  | [], nodes => nodes.reverse
  | e :: es, nodes => closeAll es (closed e nodes)

/-- Ends the text: the nodes at its top. -/
def finish (b : Builder) : List Markup :=
  closeAll b.flush.stack b.flush.nodes

end Builder

/-- The tree of a list of tokens. -/
def treeOfTokens (tokens : List Token) : List Markup :=
  (tokens.foldl Builder.add .empty).finish

/-- Reads HTML text. -/
def parse (source : String) : Except Rejection (List Markup) :=
  (tokens source.toList).map treeOfTokens

mutual

/-- The attributes and the children of the first element of that name in the node, in document
order. -/
def findIn (tag : String) : Markup → Option (List Attr × List Markup)
  | .text _ => none
  | .element name attrs children => if name = tag then some (attrs, children) else find tag children

/-- The attributes and the children of the first element of that name in the list, in document
order. -/
def find (tag : String) : List Markup → Option (List Attr × List Markup)
  | [] => none
  | n :: ns => (findIn tag n).or (find tag ns)

end

end SafeMarkdown.Html
