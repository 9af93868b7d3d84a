import SafeMarkdown.Commonmark.Inline.Emphasis
import SafeMarkdown.Commonmark.Inline.Piece

/-!
# Inline nodes from text

A text is read piece by piece. Characters that begin no piece are plain text. The spaces before a
line feed are no text; two of them, or more, make the line break hard. The text of a link is read
in place, that of an image by itself.
-/

namespace SafeMarkdown.Commonmark.Inline

open Syntax (Node)

/-- What was read so far. -/
structure Output where
  /-- The items, last first. -/
  items : List Item := []
  /-- The plain text after the last item, reversed. -/
  pending : List Char := []

namespace Output

/-- Adds plain text. -/
def addText (o : Output) (s : List Char) : Output :=
  { o with pending := s.reverse ++ o.pending }

/-- The items, last first, with the plain text after them. -/
def flushed (o : Output) : List Item :=
  if o.pending.isEmpty then o.items else .node (textNode o.pending.reverse) :: o.items

/-- Adds items, last first. -/
def add (o : Output) (items : List Item) : Output where
  items := items ++ o.flushed

/-- Adds a node. -/
def addNode (o : Output) (n : Node) : Output :=
  o.add [.node n]

/-- Adds a line break for a line feed. -/
def addLineFeed (o : Output) : Output :=
  let text := o.pending.dropWhile (· == ' ')
  let hard := 2 ≤ o.pending.length - text.length
  { o with pending := text }.addNode { kind := if hard then .hardBreak else .softBreak }

/-- All nodes, with emphasis. -/
def nodes (o : Output) : List Node :=
  nodesOfItems o.flushed.reverse

end Output

/-- The attributes of a link or an image whose address stands in the attribute `name`. -/
def targetAttrs (name : String) (t : Target) : List (String × Syntax.AttrValue) :=
  (name, .text (.ofList t.address)) ::
    if t.title.isEmpty then [] else [("title", .text (.ofList t.title))]

/-- How the text inside a piece is read: that of a link up to a stop, that of an image by
itself. -/
structure InnerReaders where
  linkText : Source → Nat → Scan (List Node)
  description : List Char → List Node

/-- The output with a piece added. -/
def addPiece (inner : InnerReaders) (s : Source) (o : Output) : Piece → Scan Output
  | .text t => return o.addText t
  | .lineFeed => return o.addLineFeed
  | .hardBreak => return o.addNode { kind := .hardBreak }
  | .special t => return o.addNode (textNode t)
  | .code t => return o.addNode { kind := .codeInline, content := .ofList t }
  | .html t => return o.addNode { kind := .htmlInline, content := .ofList t }
  | .address target shown =>
    return o.addNode
      { kind := .link, attrs := targetAttrs "href" ⟨target, []⟩, children := [textNode shown] }
  | .link target first stop => do
    let children ← inner.linkText { s with stop := stop } first
    return o.addNode { kind := .link, attrs := targetAttrs "href" target, children := children }
  | .image target first stop =>
    let text := s.slice first stop
    return o.addNode
      { kind := .image
        content := .ofList text
        attrs := targetAttrs "src" target
        children := inner.description text }

/-- A run of marks of emphasis at a position, and the position after it. -/
def marksAt? (s : Source) (i : Nat) : Option (List Item × Nat) :=
  match s.at? i with
  | none => none
  | some c =>
    if c == '*' || c == '_' then
      let j := s.skip (· == c) i
      let before := if i = 0 then ' ' else s.chars.getD (i - 1) ' '
      let mark := Mark.ofRun c before ((s.at? j).getD ' ') (j - i)
      some (List.replicate (j - i) (.mark mark), j)
    else none

/-- Reads one piece, one run of marks or one character, and gives the position after it. -/
def readAt (inner : InnerReaders) (room : Nat) (s : Source) (i : Nat) (o : Output) :
    Scan (Output × Nat) := do
  match marksAt? s i with
  | some (marks, j) => return (o.add marks, j)
  | none =>
    match ← pieceAt? (skipPiece room) s i with
    | some (piece, j) => return (← addPiece inner s o piece, j)
    | none => return (o.addText (s.slice i (i + 1)), i + 1)

/-- Reads from a position up to the stop. With no `room` left, all is plain text. -/
def readFrom (inner : InnerReaders) (room : Nat) (s : Source) :
    (fuel i : Nat) → Output → Scan Output
  | 0, _, o => return o
  | fuel + 1, i, o =>
    if s.stop ≤ i then return o
    else if room = 0 then return o.addText (s.slice i s.stop)
    else do
      let (o, j) ← readAt inner room s i o
      readFrom inner room s fuel j o

/-- The deepest level at which pieces are recognised. -/
def levelLimit : Nat := 20

mutual

/-- The nodes of a text from a position up to its stop; `room` more links may be entered. -/
def nodesFrom : (fuel room : Nat) → Source → Nat → Scan (List Node)
  | 0, _, _, _ => return []
  | fuel + 1, room, s, i => do
    let inner : InnerReaders :=
      { linkText := nodesFrom fuel (room - 1)
        description := fun t ↦ nodesOfText fuel s.definitions t }
    let o ← readFrom inner room s (s.stop - i) i {}
    return o.nodes

/-- The nodes of a whole text. -/
def nodesOfText : (fuel : Nat) → Definitions → List Char → List Node
  | 0, _, _ => []
  | fuel + 1, definitions, t =>
    ((nodesFrom fuel levelLimit (.ofChars definitions t) 0).run {}).1

end

/-- The inline nodes of a text. Every link and every image takes two characters at least off the
text that is read inside it. -/
def ofText (definitions : Definitions) (t : List Char) : List Node :=
  nodesOfText (t.length + 2) definitions t

end SafeMarkdown.Commonmark.Inline
