import SafeMarkdown.Entity.Basic
import SafeMarkdown.Text.Ascii

/-!
# Character references

A numeric reference gives the code of a character. The codes 0x80 to 0x9F are read in the encoding
windows-1252, and a code that is no character gives the replacement character. `unescape` decodes
the references of an attribute value: there a name may end without a semicolon and be followed at
once by more text, and codes that no text should hold vanish.

A decimal of more than `digitLimit` digits is not read at all. `longReference?` finds the first
reference of a value that is written with one, and such a value is refused as a whole.
-/

namespace SafeMarkdown.Html

open Text (decimalValue hexValue isHexDigit)

/-- What windows-1252 has in the places of the controls 0x80 to 0x9F; zero where it has nothing. -/
def windowsCodes : List Nat :=
  [0x20AC, 0, 0x201A, 0x192, 0x201E, 0x2026, 0x2020, 0x2021, 0x2C6, 0x2030, 0x160, 0x2039, 0x152,
    0, 0x17D, 0, 0, 0x2018, 0x2019, 0x201C, 0x201D, 0x2022, 0x2013, 0x2014, 0x2DC, 0x2122, 0x161,
    0x203A, 0x153, 0, 0x17E, 0x178]

/-- The character that a reference by code stands for. -/
def charOfCode (n : Nat) : Char :=
  if n = 0 ∨ 0x10FFFF < n ∨ (0xD800 ≤ n ∧ n ≤ 0xDFFF) then '\uFFFD'
  else if 0x80 ≤ n ∧ n ≤ 0x9F then
    match windowsCodes[n - 0x80]? with
    | some 0 => Char.ofNat n
    | some m => Char.ofNat m
    | none => Char.ofNat n
  else Char.ofNat n

/-- Codes that an attribute value drops: controls and the codes set apart as no characters. -/
def isDroppedCode (n : Nat) : Bool :=
  (1 ≤ n && n ≤ 8) || n == 0xB || (0xE ≤ n && n ≤ 0x1F) || n == 0x7F ||
    (0xFDD0 ≤ n && n ≤ 0xFDEF) || (n % 0x10000 == 0xFFFE) || (n % 0x10000 == 0xFFFF)

/-- The code written after `&#`, and what follows its digits. -/
def scanCode? (s : List Char) : Option (Nat × List Char) :=
  match s with
  | [] => none
  | c :: r =>
    if c == 'x' || c == 'X' then
      match r.takeWhile isHexDigit with
      | [] => none
      | ds => some (hexValue ds, r.dropWhile isHexDigit)
    else
      match s.takeWhile Char.isDigit with
      | [] => none
      | ds => some (decimalValue ds, s.dropWhile Char.isDigit)

/-- The most digits that a decimal is read with. -/
def digitLimit : Nat := 4300

/-- The number of decimal digits that the text begins with, if a decimal may not have so many. -/
def longDecimal? (s : List Char) : Option Nat :=
  let digits := (s.takeWhile Char.isDigit).length
  if digitLimit < digits then some digits else none

/-- The number of digits after `&#`, from after the `&`, if a decimal may not have so many. -/
def longCode? : List Char → Option Nat
  | '#' :: r => longDecimal? r
  | _ => none

/-- The number of digits of the first reference by code in the text that has too many. -/
def longReference? : List Char → Option Nat
  | [] => none
  | c :: r => (if c == '&' then longCode? r else none).or (longReference? r)

/-- The text without the semicolon that it may begin with. -/
def dropSemicolon : List Char → List Char
  | ';' :: r => r
  | r => r

/-- The characters that a reference by code gives in an attribute value. -/
def attrCharsOfCode (n : Nat) : List Char :=
  if n ≤ 0x10FFFF && isDroppedCode n then [] else [charOfCode n]

/-- The characters that may stand in a name in an attribute value. -/
def isAttrNameChar (c : Char) : Bool :=
  !(c == '\t' || c == '\n' || c == '\x0c' || c == ' ' || c == '<' || c == '&' || c == '#' ||
    c == ';')

/-- Decodes the longest beginning of a name that needs no semicolon, of at most `n` characters. -/
def decodeBeginning? (name : List Char) : (n : Nat) → Option (List Char)
  | 0 | 1 => none
  | n + 2 =>
    let beginning := String.ofList (name.take (n + 2))
    if Entity.isSemicolonFree beginning then
      (Entity.characters? beginning).map fun s ↦ s.toList ++ name.drop (n + 2)
    else decodeBeginning? name (n + 1)

/-- Decodes a name and the semicolon after it, if it has one. -/
def decodeName (name : List Char) (semicolon : Bool) : List Char :=
  let whole := String.ofList name
  let written := if semicolon then name ++ [';'] else name
  let exact := if semicolon || Entity.isSemicolonFree whole then Entity.characters? whole else none
  match exact with
  | some s => s.toList
  | none => (decodeBeginning? written (written.length - 1)).getD ('&' :: written)

theorem dropSemicolon_suffix (s : List Char) : dropSemicolon s <:+ s := by
  unfold dropSemicolon
  split
  · exact List.suffix_cons _ _
  · exact List.suffix_refl _

theorem suffix_of_scanCode? {s r : List Char} {n : Nat} (h : scanCode? s = some (n, r)) :
    r <:+ s := by
  unfold scanCode? at h
  split at h
  · simp at h
  · rename_i c t
    split at h
    · split at h
      · simp at h
      · simp only [Option.some.injEq, Prod.mk.injEq] at h
        rw [← h.2]
        exact (List.dropWhile_suffix _).trans (List.suffix_cons c t)
    · split at h
      · simp at h
      · simp only [Option.some.injEq, Prod.mk.injEq] at h
        rw [← h.2]
        exact List.dropWhile_suffix _

/-- Decodes the character references of an attribute value. -/
def unescape (s : List Char) : List Char :=
  match s with
  | [] => []
  | '&' :: '#' :: r =>
    match _ : scanCode? r with
    | some (n, rest) => attrCharsOfCode n ++ unescape (dropSemicolon rest)
    | none => '&' :: unescape ('#' :: r)
  | '&' :: r =>
    match (r.takeWhile isAttrNameChar).take 32 with
    | [] => '&' :: unescape r
    | c :: cs =>
      let rest := r.drop (cs.length + 1)
      decodeName (c :: cs) (rest.head? == some ';') ++ unescape (dropSemicolon rest)
  | c :: r => c :: unescape r
termination_by s.length
decreasing_by
  · have := (suffix_of_scanCode? ‹_›).length_le
    have := (dropSemicolon_suffix rest).length_le
    simp only [List.length_cons]
    omega
  · simp
  · simp
  · have := (dropSemicolon_suffix rest).length_le
    simp only [List.length_cons, rest, List.length_drop] at *
    omega
  · simp

end SafeMarkdown.Html
