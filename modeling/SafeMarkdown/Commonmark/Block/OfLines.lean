import SafeMarkdown.Commonmark.Block
import SafeMarkdown.Commonmark.Block.Opening
import SafeMarkdown.Commonmark.Link

/-!
# Blocks from lines

Lines are read from the first on; the first rule that applies to a line says how many lines its
block takes. What a quote or a list item contains is read by the same rules from the lines as the
container sees them, one or two levels further in. Containers that open beyond the deepest level
are empty.

Link reference definitions are no blocks; they are collected in the order in which they stand.
-/

namespace SafeMarkdown.Commonmark

open Text (isSpaceOrTab trim)

/-- What reading has found. -/
structure Reading where
  blocks : List Block := []
  /-- The number of lines that were read. -/
  taken : Nat
  /-- No blank line stands before the last block that was read. -/
  tight : Bool := true
  definitions : Definitions := []
deriving Inhabited

/-- Reads the lines of a container. -/
abbrev Reader := Margin → List Line → Reading

/-- The `n`-th of the lines, counted from 1, is empty. -/
def isEmptyAt (lines : List Line) (n : Nat) : Bool :=
  ((lines[n - 1]?).map Line.isEmpty).getD false

/-! ### Leaf blocks -/

/-- An indented code block. Blank lines belong to it where more code follows. -/
def readCode? (m : Margin) : List Line → Option Reading
  | [] => none
  | l :: ls =>
    if m.isCode l then
      let run := ls.takeWhile fun l ↦ l.isEmpty || m.isCode l
      let lines := l :: (run.reverse.dropWhile Line.isEmpty).reverse
      some
        { blocks := [.code (Line.join (m.indent + 4) lines ++ ['\n'])]
          taken := lines.length }
    else none

/-- The number of lines inside a fenced block, and whether a line that closes it follows. -/
def fencedLines (m : Margin) (mark : FenceMark) : List Line → Nat × Bool
  | [] => (0, false)
  | l :: ls =>
    if l.isEmpty && !l.terminated || !l.isEmpty && l.indent < m.indent then (0, false)
    else if !m.isCode l && mark.closedBy l.text then (0, true)
    else
      let (n, closed) := fencedLines m mark ls
      (n + 1, closed)

/-- A fenced block. -/
def readFence? (m : Margin) : List Line → Option Reading
  | [] => none
  | l :: ls => do
    let mark ← m.fence? l
    let (n, closed) := fencedLines m mark ls
    return {
      blocks := [.fence mark.info (Line.joinAndEnd l.indent (ls.take n))]
      taken := n + if closed then 2 else 1 }

/-- A thematic break. -/
def readBreak? (m : Margin) : List Line → Option Reading
  | [] => none
  | l :: _ => if m.isBreak l then some { blocks := [.thematicBreak], taken := 1 } else none

/-- A link reference definition. -/
def readDefinition? (m : Margin) : List Line → Option Reading
  | [] => none
  | l :: ls =>
    if m.isCode l || l.text.head? != some '[' then none
    else do
      let more := ls.takeWhile fun l ↦ !l.isEmpty && (m.isContinuation l || !m.endsQuote l)
      let d ← ScannedDefinition.scan? ((l :: more).flatMap Line.textAndEnd)
      return { taken := d.lines, definitions := [(d.label, d.target)] }

/-- The number of lines after the first that an HTML block takes. -/
def htmlLines (m : Margin) (form : HtmlBlockForm) : List Line → Nat
  | [] => 0
  | l :: ls =>
    if l.indent < m.indent then 0
    else if form.endsAt l.text then (if l.isEmpty then 0 else 1)
    else htmlLines m form ls + 1

/-- An HTML block. -/
def readHtml? (m : Margin) : List Line → Option Reading
  | [] => none
  | l :: ls => do
    let form ← m.html? l
    let n := if form.endsAt l.text then 0 else htmlLines m form ls
    return { blocks := [.html (Line.joinAndEnd m.indent (l :: ls.take n))], taken := n + 1 }

/-- The text of a heading without the hash signs that close it. -/
def headingText (s : List Char) : List Char :=
  let s := Text.dropTailWhile isSpaceOrTab s
  let bare := Text.dropTailWhile (· == '#') s
  trim (if (bare.getLast?.map isSpaceOrTab).getD false then bare else s)

/-- A heading that begins with hash signs. -/
def readHeading? (m : Margin) : List Line → Option Reading
  | [] => none
  | l :: _ => do
    let (level, rest) ← m.heading? l
    return { blocks := [.heading level (headingText rest)], taken := 1 }

/-- The number of lines between the first line of a heading and the underline, and the level that
the underline gives. -/
def underlined? (m : Margin) : List Line → Option (Nat × Nat)
  | [] => none
  | l :: ls =>
    let further := (underlined? m ls).map fun (n, level) ↦ (n + 1, level)
    if l.isEmpty then none
    else if m.isCode l then further
    else
      match if m.indent ≤ l.indent then underlineLevel? l.text else none with
      | some level => some (0, level)
      | none => if l.indent < 0 || !m.endsParagraph l then further else none

/-- A heading of several lines that is underlined. -/
def readUnderlined? (m : Margin) : List Line → Option Reading
  | [] => none
  | l :: ls =>
    if m.isCode l then none
    else do
      let (n, level) ← underlined? m ls
      return {
        blocks := [.heading level (trim (Line.join m.indent (l :: ls.take n)))]
        taken := n + 2 }

/-- A paragraph, which takes all lines up to an empty one or one that interrupts it. -/
def readParagraph (m : Margin) : List Line → Reading
  | [] => { taken := 0 }
  | l :: ls =>
    let lines := l :: ls.takeWhile fun l ↦
      !l.isEmpty && (m.isContinuation l || !m.endsParagraph l)
    { blocks := [.paragraph (trim (Line.join m.indent lines))], taken := lines.length }

/-! ### Containers -/

/-- The lines of a quote after one that was empty or not, as the quote sees them. -/
def quotedLines (m : Margin) (afterEmpty : Bool) : List Line → List Line
  | [] => []
  | l :: ls =>
    if l.isEmpty then []
    else
      match if m.indent ≤ l.indent then l.quoted? else none with
      | some q => q :: quotedLines m q.isEmpty ls
      | none =>
        if afterEmpty || m.endsQuote l then [] else l.unmarked :: quotedLines m false ls

/-- A quote. -/
def readQuote? (inner : Reader) (m : Margin) : List Line → Option Reading
  | [] => none
  | l :: ls => do
    let q ← m.quote? l
    let r := inner { m with indent := 0 } (q :: quotedLines m q.isEmpty ls)
    return { r with blocks := [.quote r.blocks], tight := true }

/-- The items of a list. -/
structure ItemsReading where
  items : List (List Block) := []
  taken : Nat := 0
  tight : Bool := true
  definitions : Definitions := []

/-- Puts an item before the items that follow it. -/
def ItemsReading.cons (item : Reading) (tight : Bool) (rest : ItemsReading) : ItemsReading where
  items := item.blocks :: rest.items
  taken := item.taken + rest.taken
  tight := tight && rest.tight
  definitions := item.definitions ++ rest.definitions

/-- One item of a list. An item without text ends at the next line if that is empty. -/
def readItem (inner : Reader) (m : Margin) (width : Nat) : List Line → Reading
  | [] => { taken := 0 }
  | l :: ls =>
    let (first, indent) := l.inItem width
    if first.isEmpty && (ls.head?.map Line.isEmpty).getD true then
      { taken := min 2 (ls.length + 1) }
    else inner ⟨indent, some m.indent⟩ (first :: ls)

/-- The marker of the item that goes on with a list, where the lines after an item begin with
one. -/
def nextMarker? (m : Margin) (char : Char) : List Line → Option ListMarker
  | [] => none
  | l :: _ =>
    if l.indent < m.indent || m.isCode l || m.endsList l then none
    else (ListMarker.scan? l.text).filter fun marker ↦ marker.char == char

/-- The items of a list from the one with the given marker on; `blankEnd` tells that the item before
it ended in a blank line. -/
def readItems (inner : Reader) (m : Margin) : (fuel : Nat) → ListMarker → (blankEnd : Bool) →
    List Line → ItemsReading
  | 0, _, _, _ => {}
  | fuel + 1, marker, blankEnd, lines =>
    let item := readItem inner m marker.width lines
    let tight := item.tight && !blankEnd
    let rest := lines.drop item.taken
    .cons item tight <|
      match nextMarker? m marker.char rest with
      | some next =>
        readItems inner m fuel next (1 < item.taken && isEmptyAt lines item.taken) rest
      | none => {}

/-- A list. -/
def readList? (inner : Reader) (m : Margin) : List Line → Option Reading
  | [] => none
  | l :: ls => do
    let marker ← m.list? l
    let r := readItems inner m (ls.length + 1) marker false (l :: ls)
    return {
      blocks := [.list marker.number r.tight r.items]
      taken := r.taken
      definitions := r.definitions }

/-! ### All blocks -/

/-- The block that begins the lines, by the first rule that applies. -/
def readBlock (inQuote inItem : Reader) (m : Margin) (lines : List Line) : Reading :=
  let reading? :=
    readCode? m lines
    <|> readFence? m lines
    <|> readQuote? inQuote m lines
    <|> readBreak? m lines
    <|> readList? inItem m lines
    <|> readDefinition? m lines
    <|> readHtml? m lines
    <|> readHeading? m lines
    <|> readUnderlined? m lines
  reading?.getD (readParagraph m lines)

/-- The blocks of a container, up to the first line that is not indented enough for it. `blank`
tells that a blank line was met, and `tight` that none stood before the last block. -/
def readBlocks (inQuote inItem : Reader) (m : Margin) : (fuel : Nat) → (blank tight : Bool) →
    List Line → Reading
  | 0, _, tight, _ => { taken := 0, tight := tight }
  | fuel + 1, blank, tight, lines =>
    let empty := (lines.takeWhile Line.isEmpty).length
    match lines.drop empty with
    | [] => { taken := empty, tight := tight }
    | l :: ls =>
      if l.indent < m.indent then { taken := empty, tight := tight }
      else
        let r := readBlock inQuote inItem m (l :: ls)
        let nearBlank := isEmptyAt (l :: ls) r.taken || isEmptyAt (l :: ls) (r.taken + 1)
        let rest := readBlocks inQuote inItem m fuel (blank || nearBlank) (!blank)
          ((l :: ls).drop r.taken)
        { blocks := r.blocks ++ rest.blocks
          taken := empty + r.taken + rest.taken
          tight := rest.tight
          definitions := r.definitions ++ rest.definitions }

/-- Passes over the lines of a container that is too deep to have content. -/
def skipBlocks (m : Margin) (lines : List Line) : Reading :=
  let empty := (lines.takeWhile Line.isEmpty).length
  match lines.drop empty with
  | [] => { taken := empty }
  | l :: _ => { taken := if l.indent < m.indent then empty else lines.length }

/-- The reader of a container in which `room` more levels may be opened. A quote is one level, and a
list and its item are two. -/
def reader : (room : Nat) → Reader
  | 0 => skipBlocks
  | 1 => fun m lines ↦ readBlocks skipBlocks skipBlocks m (lines.length + 1) false true lines
  | room + 2 => fun m lines ↦
    readBlocks (reader (room + 1)) (reader room) m (lines.length + 1) false true lines

/-- The number of levels that may be open at a time. -/
def levelLimit : Nat := 20

/-- The blocks and the definitions of a text. -/
def readText (s : List Char) : List Block × Definitions :=
  let lines := Line.ofText s
  let r := reader levelLimit {} lines
  (r.blocks, r.definitions)

end SafeMarkdown.Commonmark
