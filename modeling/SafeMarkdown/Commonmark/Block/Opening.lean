import SafeMarkdown.Commonmark.Line
import SafeMarkdown.Commonmark.RawHtml
import SafeMarkdown.Text.Ascii

/-!
# How blocks begin

Whether a line begins a block can be told from the line and from where the content of its container
begins. The same tests tell where the lines before it end: what interrupts a paragraph, and what
ends the lines of a quote that lack its mark. A line indented by four columns or more begins nothing
but a code block.
-/

namespace SafeMarkdown.Commonmark

open Text (isSpaceOrTab)

/-- Where the content of the innermost list item begins, counted from the left edge of the innermost
quote. -/
structure Margin where
  indent : Int := 0
  /-- The margin around the list. -/
  outer : Option Int := none
deriving Repr, Inhabited

/-! ### Marks -/

/-- The mark that opens a fenced block: a run of one character, and what follows it. -/
structure FenceMark where
  char : Char
  length : Nat
  info : List Char
deriving Repr

/-- The opening mark of a fence: three tildes or backticks at least. What follows backticks holds
none. -/
def FenceMark.scan? : List Char → Option FenceMark
  | [] => none
  | c :: r =>
    let length := 1 + (r.takeWhile (· == c)).length
    let info := r.dropWhile (· == c)
    if (c == '~' || (c == '\x60' && !info.contains c)) && 3 ≤ length then some ⟨c, length, info⟩
    else none

/-- The text closes a block that the mark opens. -/
def FenceMark.closedBy (m : FenceMark) (text : List Char) : Bool :=
  m.length ≤ (text.takeWhile (· == m.char)).length &&
    (text.dropWhile (· == m.char)).all isSpaceOrTab

/-- The marker of a list item. -/
structure ListMarker where
  /-- The number of a numbered item. -/
  number : Option Nat
  /-- The bullet, or the mark after the number. It is the same throughout a list. -/
  char : Char
  width : Nat
deriving Repr

/-- A marker is followed by space, or by nothing. -/
def endsMarker : List Char → Bool
  | [] => true
  | c :: _ => isSpaceOrTab c

/-- The marker at the head of a text: a bullet, or a number of nine digits at most with a dot or a
parenthesis. -/
def ListMarker.scan? (text : List Char) : Option ListMarker :=
  let digits := text.takeWhile Char.isDigit
  match text.drop digits.length with
  | [] => none
  | c :: r =>
    if !endsMarker r then none
    else if digits.isEmpty then
      if c == '*' || c == '-' || c == '+' then some ⟨none, c, 1⟩ else none
    else if digits.length ≤ 9 && (c == '.' || c == ')') then
      some ⟨some (Text.decimalValue digits), c, digits.length + 1⟩
    else none

/-- The line is a thematic break: three stars, hyphens or underscores at least, with nothing but
space between and after them. -/
def isThematicBreak : List Char → Bool
  | [] => false
  | c :: r =>
    (c == '*' || c == '-' || c == '_') && 2 ≤ r.count c && r.all fun d ↦ d == c || isSpaceOrTab d

/-- The level of a heading and the text after its hash signs. -/
def headingMark? (text : List Char) : Option (Nat × List Char) :=
  let level := (text.takeWhile (· == '#')).length
  let rest := text.dropWhile (· == '#')
  if 1 ≤ level && level ≤ 6 && endsMarker rest then some (level, rest) else none

/-- The level of the heading that the text underlines. -/
def underlineLevel? : List Char → Option Nat
  | [] => none
  | c :: r =>
    if (r.dropWhile (· == c)).all isSpaceOrTab then
      if c == '=' then some 1 else if c == '-' then some 2 else none
    else none

/-! ### Openings within a margin -/

namespace Margin

/-- The line belongs to a code block, as far as its indentation goes. -/
def isCode (m : Margin) (l : Line) : Bool :=
  4 ≤ l.indent - m.indent

/-- The opening mark of a fence that begins the line. -/
def fence? (m : Margin) (l : Line) : Option FenceMark :=
  if m.isCode l then none else FenceMark.scan? l.text

/-- The line as a quote sees it that it begins. -/
def quote? (m : Margin) (l : Line) : Option Line :=
  if m.isCode l then none else l.quoted?

/-- The line is a thematic break. -/
def isBreak (m : Margin) (l : Line) : Bool :=
  !m.isCode l && isThematicBreak l.text

/-- The line is indented too far to be an item of the list around the margin, and not far enough to
be content of the margin's own item. -/
def isBetweenItems (m : Margin) (l : Line) : Bool :=
  match m.outer with
  | some outer => 4 ≤ l.indent - outer && l.indent < m.indent
  | none => false

/-- The marker of the list that the line begins. -/
def list? (m : Margin) (l : Line) : Option ListMarker :=
  if m.isCode l || m.isBetweenItems l then none else ListMarker.scan? l.text

/-- The line begins a list that may interrupt a paragraph: one with content, and with the number 1
if it is numbered. An item of the list around the margin always may. -/
def interruptsAsList (m : Margin) (l : Line) : Bool :=
  match m.list? l with
  | some marker =>
    l.indent < m.indent ||
      (marker.number.getD 1 == 1 && !(l.text.drop marker.width).all isSpaceOrTab)
  | none => false

/-- The form of the HTML block that the line begins. -/
def html? (m : Margin) (l : Line) : Option HtmlBlockForm :=
  if m.isCode l then none else HtmlBlockForm.ofLine? l.text

/-- The heading that the line is. -/
def heading? (m : Margin) (l : Line) : Option (Nat × List Char) :=
  if m.isCode l then none else headingMark? l.text

/-- The line begins a block other than a list, and the block may interrupt a paragraph. -/
def interruptsAsOther (m : Margin) (l : Line) : Bool :=
  (m.fence? l).isSome || (m.quote? l).isSome || m.isBreak l ||
    ((m.html? l).map HtmlBlockForm.interrupts).getD false || (m.heading? l).isSome

/-- The line ends the lines of a paragraph. -/
def endsParagraph (m : Margin) (l : Line) : Bool :=
  m.interruptsAsOther l || m.interruptsAsList l

/-- The line ends the lines of a quote, or of a link reference definition. -/
def endsQuote (m : Margin) (l : Line) : Bool :=
  m.interruptsAsOther l || (m.list? l).isSome

/-- The line ends a list, whatever marker it may begin with. -/
def endsList (m : Margin) (l : Line) : Bool :=
  (m.fence? l).isSome || (m.quote? l).isSome || m.isBreak l

/-- The line goes on with what came before it, whatever it looks like. -/
def isContinuation (m : Margin) (l : Line) : Bool :=
  m.isCode l || l.indent < 0

end Margin

end SafeMarkdown.Commonmark
