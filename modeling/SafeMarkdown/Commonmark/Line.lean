import SafeMarkdown.Text.Blank

/-!
# Lines

Blocks are made of whole lines. A line is seen from the container that it stands in: its characters
begin at the left edge of the innermost quote, and its indentation is counted from there. Tabs
reach to the next multiple of four columns, counted from a column that belongs to the edge.

A container gives its lines on to what it contains with another edge (`quoted?`) or another text
(`inItem`); the lines themselves stay as they are for what follows the container.
-/

namespace SafeMarkdown.Commonmark

open Text (isSpaceOrTab)

/-- A line as its container sees it. -/
structure Line where
  /-- The characters from the left edge on, without the line feed. -/
  chars : List Char
  /-- How many of the characters stand before the text of the line. -/
  shift : Nat
  /-- The column of the text, counted from the left edge; below 0 for a line of a quote that lacks
  the mark of the quote. -/
  indent : Int
  /-- The column of the left edge, as far as tabs depend on it. -/
  edge : Int
  /-- A line feed follows the line. -/
  terminated : Bool
deriving Repr, Inhabited

/-- The offset after a space or a tab at `offset` columns from the edge. -/
def advance (edge offset : Int) (c : Char) : Int :=
  if c == '\t' then offset + 4 - (offset + edge) % 4 else offset + 1

/-- The offset after the spaces and tabs at the head of `s`, which stands at `offset`. -/
def offsetAfterSpace (edge offset : Int) (s : List Char) : Int :=
  (s.takeWhile isSpaceOrTab).foldl (advance edge) offset

/-- The number of spaces and tabs at the head of `s`. -/
def countSpace (s : List Char) : Nat :=
  (s.takeWhile isSpaceOrTab).length

namespace Line

/-- The text of a line, from after its indentation. -/
def text (l : Line) : List Char :=
  l.chars.drop l.shift

/-- The line has no text. -/
def isEmpty (l : Line) : Bool :=
  l.text.isEmpty

/-- The text of a line with its line feed. -/
def textAndEnd (l : Line) : List Char :=
  if l.terminated then l.text ++ ['\n'] else l.text

/-- A line of the outermost container. -/
def ofChars (chars : List Char) (terminated : Bool) : Line where
  chars := chars
  shift := countSpace chars
  indent := offsetAfterSpace 0 0 chars
  edge := 0
  terminated := terminated

/-! ### The lines of a text -/

/-- Splits a text at its line feeds, `before` being the reversed beginning of the first line. A last
line without a line feed counts only if it has text. -/
def splitFrom (before : List Char) : List Char → List Line
  | [] => if before.all isSpaceOrTab then [] else [ofChars before.reverse false]
  | c :: r =>
    if c == '\n' then ofChars before.reverse true :: splitFrom [] r else splitFrom (c :: before) r

/-- Every line end becomes a line feed, and the null character the replacement character. -/
def normalizeEnds : List Char → List Char
  | [] => []
  | '\r' :: '\n' :: r => '\n' :: normalizeEnds r
  | c :: r =>
    (if c == '\r' then '\n' else if c == '\x00' then '\uFFFD' else c) :: normalizeEnds r

/-- The lines of a text. -/
def ofText (s : List Char) : List Line :=
  splitFrom [] (normalizeEnds s)

/-! ### Cutting off indentation -/

/-- Drops characters up to the column `indent`, from `offset` on: spaces and tabs, and the first
`shift` characters whatever they are. A tab that reaches beyond the column leaves spaces. -/
def cutFrom (edge indent : Int) : (shift : Nat) → (offset : Int) → List Char → List Char
  | _, offset, [] => List.replicate (offset - indent).toNat ' '
  | shift, offset, c :: r =>
    if offset < indent && (isSpaceOrTab c || shift != 0) then
      cutFrom edge indent (shift - 1) (advance edge offset c) r
    else List.replicate (offset - indent).toNat ' ' ++ c :: r

/-- The characters of a line from the column `indent` on. -/
def cut (indent : Int) (l : Line) : List Char :=
  cutFrom l.edge indent l.shift 0 l.chars

/-- The characters of a line from the column `indent` on, with its line feed. -/
def cutAndEnd (indent : Int) (l : Line) : List Char :=
  if l.terminated then l.cut indent ++ ['\n'] else l.cut indent

/-- The lines from the column `indent` on, without the last line feed. -/
def join (indent : Int) (lines : List Line) : List Char :=
  ['\n'].intercalate (lines.map (cut indent))

/-- The lines from the column `indent` on, each with its line feed. -/
def joinAndEnd (indent : Int) (lines : List Line) : List Char :=
  lines.flatMap (cutAndEnd indent)

/-! ### The view from inside a container -/

/-- The line after `marked` columns of its text, the mark of a quote, where `chars` follow. Up to
`tab` more columns belong to the mark, though a tab covers them that is among `chars`. -/
def fromEdge (l : Line) (chars : List Char) (marked tab : Int) (spaced : Bool) : Line where
  chars := chars
  shift := countSpace chars
  indent := offsetAfterSpace (l.edge + tab) (l.indent + marked) chars - (l.indent + marked)
  edge := l.indent + if spaced then 2 else 1
  terminated := l.terminated

/-- The line from after the mark of a quote and one column of space that may follow it. -/
def quoted? (l : Line) : Option Line :=
  match l.text with
  | '>' :: ' ' :: r => some (l.fromEdge r 2 0 true)
  | '>' :: '\t' :: r =>
    if (l.edge + l.indent + 1) % 4 = 3 then some (l.fromEdge r 2 0 true)
    else some (l.fromEdge ('\t' :: r) 1 1 true)
  | '>' :: r => some (l.fromEdge r 1 0 false)
  | _ => none

/-- The line goes on with a paragraph of a quote though it lacks the mark of the quote. -/
def unmarked (l : Line) : Line :=
  { l with indent := -1 }

/-- The first line of a list item whose marker is `width` characters wide, and the column of the
item's content. Five columns of space after the marker, or more, are indentation of the content. -/
def inItem (width : Nat) (l : Line) : Line × Int :=
  let start := l.indent + width
  let content := l.text.drop width
  let offset := offsetAfterSpace l.edge start content
  let inner :=
    { l with shift := l.shift + width + countSpace content, indent := offset }
  (inner, start + if inner.isEmpty || 4 < offset - start then 1 else offset - start)

end Line

end SafeMarkdown.Commonmark
