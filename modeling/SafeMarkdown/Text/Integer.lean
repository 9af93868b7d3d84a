import SafeMarkdown.Text.Blank
import SafeMarkdown.Text.DigitTable

/-!
# Reading integers

A decimal integer is written with an optional sign and digits of any script; one underscore may
stand between two digits, and blanks may stand around the whole. The information separators of
ASCII do not count as blanks here.
-/

namespace SafeMarkdown.Text

/-- The value of a decimal digit of any script. -/
def digitValue? (c : Char) : Option Nat :=
  if c.toNat < 128 then
    if c.isDigit then some (c.toNat - '0'.toNat) else none
  else
    (decimalZeros.find? fun z ↦ z ≤ c.toNat && c.toNat ≤ z + 9).map (c.toNat - ·)

/-- The digits of `s` read after the value `acc`; an underscore has to stand between digits. -/
def readDigits (acc : Nat) : List Char → Option Nat
  | [] => some acc
  | '_' :: c :: r => do
    let d ← digitValue? c
    readDigits (acc * 10 + d) r
  | c :: r => do
    let d ← digitValue? c
    readDigits (acc * 10 + d) r

/-- A nonempty run of digits. -/
def readNat? : List Char → Option Nat
  | [] => none
  | c :: r => do
    let d ← digitValue? c
    readDigits d r

/-- The integer that a text writes. -/
def readInt? (s : List Char) : Option Int :=
  match trimBy (fun c ↦ isBlank c && !(28 ≤ c.toNat && c.toNat ≤ 31)) s with
  | '-' :: r => (readNat? r).map fun n ↦ -(n : Int)
  | '+' :: r => (readNat? r).map fun n ↦ (n : Int)
  | r => (readNat? r).map fun n ↦ (n : Int)

end SafeMarkdown.Text
