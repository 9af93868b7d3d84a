/-!
# Digits and numbers of ASCII

The values of hexadecimal digits in either case, and of runs of digits in base ten and sixteen. The
digits of other scripts have no part in these; `Text.readInt?` reads them.
-/

namespace SafeMarkdown.Text

/-- The value of a hexadecimal digit. -/
def hexDigit? (c : Char) : Option Nat :=
  if '0' ≤ c && c ≤ '9' then some (c.toNat - '0'.toNat)
  else if 'a' ≤ c && c ≤ 'f' then some (c.toNat - 'a'.toNat + 10)
  else if 'A' ≤ c && c ≤ 'F' then some (c.toNat - 'A'.toNat + 10)
  else none

/-- The character is a hexadecimal digit. -/
def isHexDigit (c : Char) : Bool :=
  (hexDigit? c).isSome

/-- The value of a run of decimal digits. -/
def decimalValue (s : List Char) : Nat :=
  s.foldl (fun n c ↦ n * 10 + (c.toNat - '0'.toNat)) 0

/-- The value of a run of hexadecimal digits. -/
def hexValue (s : List Char) : Nat :=
  s.foldl (fun n c ↦ n * 16 + (hexDigit? c).getD 0) 0

end SafeMarkdown.Text
