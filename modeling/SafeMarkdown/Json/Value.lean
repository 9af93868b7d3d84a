import SafeMarkdown.Text.Ascii

/-!
# JSON values

Options and requests arrive as JSON. An object keeps its fields as they were written, and looking
a field up finds its last occurrence. A number that has a fraction or an exponent keeps its
literal, and so do the three literals for numbers that are not finite. A string whose escapes
leave half of a surrogate pair is no text, and has a constructor of its own.
-/

namespace SafeMarkdown.Json

/-- A number: an integer of any size, or the literal of a real number. -/
inductive Number where
  | integer (value : Int)
  | real (literal : String)
deriving DecidableEq, Repr, Inhabited

/-- A JSON value. -/
inductive Value where
  | null
  | bool (value : Bool)
  | number (value : Number)
  | string (value : String)
  | brokenString
  | array (items : List Value)
  | object (fields : List (String × Value))
deriving BEq, Repr, Inhabited

/-- The value of the last field of that name. -/
def lastField? (name : String) (fields : List (String × Value)) : Option Value :=
  (fields.reverse.find? fun f ↦ f.1 == name).map Prod.snd

/-- The fields of an object, none for any other value. -/
def Value.fields? : Value → Option (List (String × Value))
  | .object fields => some fields
  | _ => none

namespace Number

/-- The integer written after the exponent mark, zero where there is none. -/
def exponentValue : List Char → Int
  | _ :: '-' :: r => -(Text.decimalValue r : Int)
  | _ :: '+' :: r => Text.decimalValue r
  | _ :: r => Text.decimalValue r
  | [] => 0

/-- The double nearest to `mantissa * 10 ^ exponent`. Exponents beyond every double are cut short
before the power is computed. -/
def scientific (mantissa : Nat) (digits : Nat) (exponent : Int) : Float :=
  if mantissa = 0 then 0.0
  else if exponent > 400 then 1.0 / 0.0
  else if exponent + digits < -400 then 0.0
  else Float.ofScientific mantissa (exponent < 0) exponent.natAbs

/-- The double that the literal of a real number stands for. -/
def floatOfLiteral (s : List Char) : Float :=
  match s with
  | '-' :: 'I' :: _ => -1.0 / 0.0
  | 'I' :: _ => 1.0 / 0.0
  | 'N' :: _ => 0.0 / 0.0
  | _ =>
    let (negative, s) := match s with
      | '-' :: r => (true, r)
      | r => (false, r)
    let whole := s.takeWhile Char.isDigit
    let rest := s.dropWhile Char.isDigit
    let (places, rest) := match rest with
      | '.' :: r => (r.takeWhile Char.isDigit, r.dropWhile Char.isDigit)
      | r => ([], r)
    let digits := whole ++ places
    let exponent := exponentValue rest - places.length
    let x := scientific (Text.decimalValue digits) digits.length exponent
    if negative then -x else x

/-- The number as a message shows it: an integer in decimal, a real number as it was written. -/
def text : Number → String
  | .integer n => toString n
  | .real literal => literal

end Number

end SafeMarkdown.Json
