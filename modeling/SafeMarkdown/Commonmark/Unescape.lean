import SafeMarkdown.Entity.Basic
import SafeMarkdown.Text.Ascii
import SafeMarkdown.Text.Punctuation

/-!
# Escapes in Markdown

Punctuation is escaped by a backslash, and a character reference stands for its characters. In
addresses, titles and info strings both are decoded at once, by `unescape`; a reference that stands
for nothing is left as it was written.
-/

namespace SafeMarkdown.Commonmark

/-- The code is one that a reference may give: it is a character, no control, and not set apart. -/
def isReferenceCode (n : Nat) : Bool :=
  !((0xD800 ≤ n && n ≤ 0xDFFF) || (0xFDD0 ≤ n && n ≤ 0xFDEF) || n % 0x10000 == 0xFFFF ||
    n % 0x10000 == 0xFFFE || n ≤ 8 || n == 0xB || (0xE ≤ n && n ≤ 0x1F) ||
    (0x7F ≤ n && n ≤ 0x9F) || 0x10FFFF < n)

/-- The code written between `&#` and the semicolon, where it has no more digits than the limit
for its base. -/
def code? (decimalLimit hexLimit : Nat) (s : List Char) : Option Nat :=
  match s with
  | [] => none
  | c :: digits =>
    if c == 'x' || c == 'X' then
      if !digits.isEmpty && digits.length ≤ hexLimit && digits.all Text.isHexDigit then
        some (Text.hexValue digits)
      else none
    else if s.length ≤ decimalLimit && s.all Char.isDigit then some (Text.decimalValue s)
    else none

/-- The text of the reference whose inside, between `&` and the semicolon, is given. -/
def reference? (inside : List Char) : Option (List Char) :=
  match inside with
  | '#' :: s =>
    match code? 8 8 s with
    | some n => if isReferenceCode n then some [Char.ofNat n] else none
    | none => none
  | s => (Entity.characters? (.ofList s)).map String.toList

/-- The character may stand in a reference after its first one, when case is ignored. -/
def isReferenceChar (c : Char) : Bool :=
  c.isAlphanum || c == 'ſ' || c == 'ı' || c == 'İ' || c.toNat == 0x212A

/-- The inside of a reference, from after its `&`, and the text after its semicolon. -/
def referenceInside? (s : List Char) : Option (List Char × List Char) :=
  match s with
  | [] => none
  | c :: r =>
    let more := r.takeWhile isReferenceChar
    if (c == '#' || (isReferenceChar c && !c.isDigit)) && 1 ≤ more.length && more.length ≤ 31 then
      match r.dropWhile isReferenceChar with
      | ';' :: rest => some (c :: more, rest)
      | _ => none
    else none

theorem length_referenceInside? {s inside rest : List Char}
    (h : referenceInside? s = some (inside, rest)) : rest.length < s.length := by
  unfold referenceInside? at h
  split at h
  · simp at h
  · rename_i c r
    have hr := (List.dropWhile_suffix (l := r) isReferenceChar).length_le
    dsimp only at h
    split at h
    · split at h
      · rename_i hd
        simp only [Option.some.injEq, Prod.mk.injEq] at h
        rw [hd, h.2, List.length_cons] at hr
        simp only [List.length_cons]
        omega
      · simp at h
    · simp at h

/-- Decodes backslash escapes and references. -/
def unescape (s : List Char) : List Char :=
  match s with
  | [] => []
  | '\\' :: c :: r =>
    if Text.isAsciiPunctuation c then c :: unescape r else '\\' :: unescape (c :: r)
  | '&' :: r =>
    match _ : referenceInside? r with
    | some (inside, rest) =>
      (reference? inside).getD ('&' :: inside ++ [';']) ++ unescape rest
    | none => '&' :: unescape r
  | c :: r => c :: unescape r
termination_by s.length
decreasing_by
  · simp only [List.length_cons]
    omega
  · simp
  · have := length_referenceInside? ‹_›
    simp only [List.length_cons]
    omega
  · simp
  · simp

end SafeMarkdown.Commonmark
