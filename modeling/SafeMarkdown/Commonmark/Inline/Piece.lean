import SafeMarkdown.Commonmark.Inline.Source
import SafeMarkdown.Commonmark.RawHtml

/-!
# Pieces of inline content

A piece is what one rule reads at a position: a run of plain text, a line break, an escape, a code
span, a link, an image, an address in angle brackets, a piece of raw HTML or a character reference.
The character at the position tells which rule applies. Marks of emphasis are no pieces; they are
paired when all pieces are known.

The text of a link is found by skipping from piece to piece up to the closing bracket, so that a
bracket in a code span or in an inner link does not close it. Skipping counts the links that it is
inside of, and stops at a limit.
-/

namespace SafeMarkdown.Commonmark.Inline

open Text (isSpaceOrTab trim)

/-- A piece of inline content. The text of a link and the description of an image are given by
their ends. -/
inductive Piece where
  | text (s : List Char)
  /-- A line feed; the text before it tells what break it is. -/
  | lineFeed
  | hardBreak
  /-- Characters that were written in another way, as an escape or a reference. -/
  | special (s : List Char)
  | code (s : List Char)
  | link (target : Target) (first stop : Nat)
  | image (target : Target) (first stop : Nat)
  /-- An address in angle brackets and what it looks like. -/
  | address (target shown : List Char)
  | html (source : List Char)

/-- A piece and the position after it. -/
abbrev Found := Option (Piece × Nat)

/-! ### Pieces that hold no others -/

/-- The characters at which a run of plain text ends. -/
def isTextEnd (c : Char) : Bool :=
  ['\n', '$', '%', '&', '*', '+', '-', ':', '<', '=', '>', '@', '[', '\\', ']', '^', '_', '\x60',
    '\x7b', '\x7d', '~', '!', '#'].contains c

/-- A run of plain text. -/
def text? (s : Source) (i : Nat) : Found :=
  let j := s.skip (fun c ↦ !isTextEnd c) i
  if i < j then some (.text (s.slice i j), j) else none

/-- A line feed and the space after it. -/
def lineFeed (s : Source) (i : Nat) : Found :=
  some (.lineFeed, s.skip isSpaceOrTab (i + 1))

/-- A backslash and the character after it. -/
def escape? (s : Source) (i : Nat) : Found :=
  match s.at? (i + 1) with
  | none => none
  | some c =>
    if c == '\n' then some (.hardBreak, s.skip isSpaceOrTab (i + 2))
    else some (.special (if Text.isAsciiPunctuation c then [c] else ['\\', c]), i + 2)

/-- The content of a code span, without one space at each end where it is not all blank. -/
def codeContent (s : List Char) : List Char :=
  let s := s.map fun c ↦ if c == '\n' then ' ' else c
  if s.head? == some ' ' && s.getLast? == some ' ' && !(trim s).isEmpty then (s.drop 1).dropLast
  else s

/-- The position of the first backtick from `i` on. -/
def nextTick? (s : Source) (i : Nat) : Option Nat :=
  let n := ((s.tail i).takeWhile (· != '\x60')).length
  if i + n < s.chars.size then some (i + n) else none

/-- Looks from `i` on for a run of `length` backticks: where it begins and where it ends. -/
def closingTicks? (s : Source) (length : Nat) : (fuel : Nat) → (i : Nat) → Scan (Option (Nat × Nat))
  | 0, _ => return none
  | fuel + 1, i =>
    match nextTick? s i with
    | none => do
      modify fun m ↦ { m with allTicks := true }
      return none
    | some first => do
      let stop := s.skip (· == '\x60') (first + 1)
      if stop - first = length then return some (first, stop)
      modify fun m ↦ { m with ticks := m.ticks.insert (stop - first) first }
      closingTicks? s length fuel stop

/-- A code span, or a run of backticks that begins none. -/
def code? (s : Source) (i : Nat) : Scan Found := do
  let j := s.skip (· == '\x60') i
  let ticks : Found := some (.text (s.slice i j), j)
  let m ← get
  if m.allTicks && m.ticks.getD (j - i) 0 ≤ i then return ticks
  match ← closingTicks? s (j - i) (s.chars.size - j + 1) j with
  | some (first, stop) => return some (.code (codeContent (s.slice j first)), stop)
  | none => return ticks

/-- The character may stand in a scheme. -/
def isSchemeChar (c : Char) : Bool :=
  c.isAlphanum || c == '+' || c == '.' || c == '-'

/-- The text without a line feed at its end. -/
def dropLineEnd (s : List Char) : List Char :=
  if s.getLast? = some '\n' then s.dropLast else s

/-- The text is an address with a scheme of 2 to 32 characters. -/
def isAbsolute (s : List Char) : Bool :=
  let scheme := s.takeWhile isSchemeChar
  match s.drop scheme.length with
  | ':' :: rest =>
    (scheme.head?.map Char.isAlpha).getD false && 2 ≤ scheme.length && scheme.length ≤ 32 &&
      (dropLineEnd rest).all fun c ↦ 32 < c.toNat && c != '<' && c != '>'
  | _ => false

/-- The character may stand in the name of a mailbox. -/
def isMailboxChar (c : Char) : Bool :=
  c.isAlphanum || ['.', '!', '#', '$', '%', '&', '\'', '*', '+', '/', '=', '?', '^', '_', '\x60',
    '\x7b', '|', '\x7d', '~', '-'].contains c

/-- The text is a label of a domain name. -/
def isDomainLabel (s : List Char) : Bool :=
  (s.head?.map Char.isAlphanum).getD false && (s.getLast?.map Char.isAlphanum).getD false &&
    s.length ≤ 63 && s.all fun c ↦ c.isAlphanum || c == '-'

/-- The text is an address of electronic mail. -/
def isMailbox (s : List Char) : Bool :=
  let mailbox := s.takeWhile isMailboxChar
  match s.drop mailbox.length with
  | '@' :: domain =>
    !mailbox.isEmpty && ((dropLineEnd domain).splitOnP (· == '.')).all isDomainLabel
  | _ => false

/-- The target of the address that stands in angle brackets. -/
def addressTarget? (s : List Char) : Option (List Char) :=
  if isAbsolute s then some (normalizeAddress s)
  else if isMailbox s then some (normalizeAddress ("mailto:".toList ++ s))
  else none

/-- An address in angle brackets. -/
def address? (s : Source) (i : Nat) : Found := do
  let j := s.skip (fun c ↦ c != '<' && c != '>') (i + 1)
  if s.at? j != some '>' then none
  else
    let shown := s.slice (i + 1) j
    let target ← addressTarget? shown
    if isSafeAddress target then some (.address target (displayAddress shown), j + 1) else none

/-- A piece of raw HTML. -/
def html? (s : Source) (i : Nat) : Found := do
  if s.stop ≤ i + 2 then none
  else
    let source := s.tail i
    let rest ← rawHtml? source
    let n := source.length - rest.length
    some (.html (source.take n), i + n)

/-- The characters that a reference stands for, from after its `&`, and the text after it. A number
that no reference may give stands for the replacement character. -/
def referenceAt? (s : List Char) : Option (List Char × List Char) :=
  let isNumber := s.head? == some '#'
  let inside := (if isNumber then s.drop 1 else s).takeWhile Char.isAlphanum
  match s.drop (inside.length + if isNumber then 1 else 0) with
  | ';' :: rest =>
    if isNumber then
      (Commonmark.code? 7 6 inside).map fun n ↦
        ([if isReferenceCode n then Char.ofNat n else '\uFFFD'], rest)
    else if (inside.head?.map Char.isAlpha).getD false && 2 ≤ inside.length &&
        inside.length ≤ 32 then
      (Entity.characters? (.ofList inside)).map fun characters ↦ (characters.toList, rest)
    else none
  | _ => none

/-- A character reference. -/
def reference? (s : Source) (i : Nat) : Found := do
  if s.stop ≤ i + 1 then none
  else
    let (characters, rest) ← referenceAt? (s.tail (i + 1))
    some (.special characters, s.chars.size - rest.length)

/-! ### Links and images -/

/-- Skips the piece at a position, and gives the position after it. -/
abbrev Skip := Source → Nat → Scan Nat

/-- Looks from `i` on for the bracket that closes the text of a link, where `depth` brackets are
open. With `plain` the text may not hold a link. -/
def closingBracket? (skip : Skip) (s : Source) (plain : Bool) :
    (fuel depth i : Nat) → Scan (Option Nat)
  | 0, _, _ => return none
  | fuel + 1, depth, i => do
    match s.at? i with
    | none => return none
    | some c =>
      if c == ']' && depth ≤ 1 then return some i
      let depth := if c == ']' then depth - 1 else depth
      let j ← skip s i
      if c == '[' && j = i + 1 then closingBracket? skip s plain fuel (depth + 1) j
      else if c == '[' && plain then return none
      else closingBracket? skip s plain fuel depth j

/-- The position of the bracket that closes the text of a link, which begins at `i`. -/
def labelEnd? (skip : Skip) (s : Source) (plain : Bool) (i : Nat) : Scan (Option Nat) :=
  closingBracket? skip s plain (s.stop - i + 1) 1 i

/-- The definition that a link refers to whose text has the given ends, and the position after the
link. A label may follow at `i`; the link ends at `i` or at the end of its text where none does. -/
def definition? (skip : Skip) (s : Source) (first stop i : Nat) : Scan (Option (Target × Nat)) := do
  if s.definitions.isEmpty then return none
  let labelStop ← if s.at? i == some '[' then labelEnd? skip s false (i + 1) else pure none
  let (label, after) := match labelStop with
    | some j => (s.slice (i + 1) j, j + 1)
    | none => ([], stop + 1)
  let label := if label.isEmpty then s.slice first stop else label
  return (s.definitions.lookup (normalizeLabel label)).map (·, after)

/-- The target of the link whose text has the given ends, and the position after the link. Where
parentheses follow that hold no target, the link may still refer to a definition. -/
def linkTarget? (skip : Skip) (s : Source) (first stop : Nat) : Scan (Option (Target × Nat)) :=
  if s.at? (stop + 1) == some '(' then
    match InlineTarget.scan (s.slice (stop + 2) s.stop) with
    | .found target rest => return some (target, s.stop - rest.length)
    | .unclosed rest => definition? skip s first stop (s.stop - rest.length + 1)
    | .blank => return none
  else definition? skip s first stop (stop + 1)

/-- The target of the image whose description has the given ends, and the position after it. -/
def imageTarget? (skip : Skip) (s : Source) (first stop : Nat) : Scan (Option (Target × Nat)) :=
  if s.at? (stop + 1) == some '(' then
    match InlineTarget.scan (s.slice (stop + 2) s.stop) with
    | .found target rest => return some (target, s.stop - rest.length)
    | _ => return none
  else definition? skip s first stop (stop + 1)

/-- A link. -/
def link? (skip : Skip) (s : Source) (i : Nat) : Scan Found := do
  match ← labelEnd? skip s true (i + 1) with
  | none => return none
  | some stop =>
    return (← linkTarget? skip s (i + 1) stop).map fun (t, j) ↦ (.link t (i + 1) stop, j)

/-- An image. -/
def image? (skip : Skip) (s : Source) (i : Nat) : Scan Found := do
  if s.at? (i + 1) != some '[' then return none
  match ← labelEnd? skip s false (i + 2) with
  | none => return none
  | some stop =>
    return (← imageTarget? skip s (i + 2) stop).map fun (t, j) ↦ (.image t (i + 2) stop, j)

/-- The piece at a position. -/
def pieceAt? (skip : Skip) (s : Source) (i : Nat) : Scan Found :=
  match s.at? i with
  | none => return none
  | some c =>
    if c == '\n' then return lineFeed s i
    else if c == '\\' then return escape? s i
    else if c == '\x60' then code? s i
    else if c == '[' then link? skip s i
    else if c == '!' then image? skip s i
    else if c == '<' then return (address? s i).or (html? s i)
    else if c == '&' then return reference? s i
    else return text? s i

/-- Skips the piece at a position, or one character where none begins. With no `room` left, the
rest of the text is skipped. -/
def skipPiece : (room : Nat) → Skip
  | 0, s, i => do
    match (← get).ends[i]? with
    | some j => return j
    | none =>
      modify fun m ↦ { m with ends := m.ends.insert i (s.stop + 1) }
      return s.stop + 1
  | room + 1, s, i => do
    match (← get).ends[i]? with
    | some j => return j
    | none =>
      let j := match ← pieceAt? (skipPiece room) s i with
        | some (_, j) => j
        | none => i + 1
      modify fun m ↦ { m with ends := m.ends.insert i j }
      return j

end SafeMarkdown.Commonmark.Inline
