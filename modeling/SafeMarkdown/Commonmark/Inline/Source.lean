import SafeMarkdown.Commonmark.Link
import Std.Data.HashMap

/-!
# Inline content as it is read

Inline content is read by position, up to a stop: the text of a link is read in its place, with the
closing bracket for its stop. `Memory` keeps what the search for closing marks has found, so that
no search is made twice.
-/

namespace SafeMarkdown.Commonmark.Inline

/-- A text, where reading stops in it, and the definitions that its links refer to. -/
structure Source where
  chars : Array Char
  stop : Nat
  definitions : Definitions

namespace Source

/-- A whole text. -/
def ofChars (definitions : Definitions) (s : List Char) : Source where
  chars := s.toArray
  stop := s.length
  definitions := definitions

/-- The character at a position before the stop. -/
def at? (s : Source) (i : Nat) : Option Char :=
  if i < s.stop then s.chars[i]? else none

/-- The character at a position before the stop satisfies `p`. -/
def holdsAt (s : Source) (p : Char → Bool) (i : Nat) : Bool :=
  ((s.at? i).map p).getD false

/-- The text between two positions. -/
def slice (s : Source) (i j : Nat) : List Char :=
  (s.chars.extract i j).toList

/-- The text from a position on, the stop not heeded. -/
def tail (s : Source) (i : Nat) : List Char :=
  s.slice i s.chars.size

/-- The first of `n` positions from `i` on whose character does not satisfy `p`, or the one after
them. -/
def skipAtMost (s : Source) (p : Char → Bool) : (n i : Nat) → Nat
  | 0, i => i
  | n + 1, i => if s.holdsAt p i then skipAtMost s p n (i + 1) else i

/-- The first position from `i` on, and not beyond the stop, whose character does not satisfy
`p`. -/
def skip (s : Source) (p : Char → Bool) (i : Nat) : Nat :=
  s.skipAtMost p (s.stop - i) i

end Source

/-- What was found out about a text while it was read. -/
structure Memory where
  /-- Where the piece ends that begins at a position. -/
  ends : Std.HashMap Nat Nat := ∅
  /-- Where the last run of backticks of a length begins that was met in a search. -/
  ticks : Std.HashMap Nat Nat := ∅
  /-- A search for backticks has come to the end of the text. -/
  allTicks : Bool := false

/-- Reading with memory. -/
abbrev Scan := StateM Memory

end SafeMarkdown.Commonmark.Inline
