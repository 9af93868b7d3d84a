import SafeMarkdown.Text.CaseTable
import SafeMarkdown.Text.Span

/-!
# Upper and lower case

Case mappings of text in all scripts. A character may map to several, and a capital sigma at the
end of a word maps to the final small sigma. ASCII has a mapping of its own, and a relation that
tells which characters match an ASCII letter when case is ignored.
-/

namespace SafeMarkdown.Text

/-- The image of a code point under the runs of a table; itself where no run holds it. -/
def applyRuns (table : Array CaseRun) (n : Nat) : Nat :=
  match table.find? fun r ↦ r.first ≤ n && n ≤ r.last && (n - r.first) % r.step == 0 with
  | some r => (n + r.offset).toNat
  | none => n

/-- The image of a character under a table of runs and a table of expansions. -/
def mapCase (runs : Array CaseRun) (expansions : Array (Nat × List Nat)) (c : Char) : List Char :=
  match expansions.find? fun e ↦ e.1 == c.toNat with
  | some e => e.2.map Char.ofNat
  | none => [Char.ofNat (applyRuns runs c.toNat)]

/-- Lower case of one character, whatever stands around it. -/
def lowerChar (c : Char) : List Char :=
  if c.toNat < 128 then [c.toLower] else mapCase lowerRuns lowerExpansions c

/-- Upper case of one character. -/
def upperChar (c : Char) : List Char :=
  if c.toNat < 128 then [c.toUpper] else mapCase upperRuns upperExpansions c

/-- Read outward from a letter, the next character that is not ignorable for case is a cased
letter. -/
def meetsCased (s : List Char) : Bool :=
  match s.dropWhile (inSpans caseIgnorableSpans) with
  | c :: _ => inSpans casedSpans c
  | [] => false

/-- Lower case of a text whose reversed beginning `before` has been read already. A capital sigma
with a letter before it and none after it becomes the final sigma. -/
def lowerFrom (before : List Char) : List Char → List Char
  | [] => []
  | c :: r =>
    if c == 'Σ' then
      (if meetsCased before && !meetsCased r then 'ς' else 'σ') :: lowerFrom (c :: before) r
    else lowerChar c ++ lowerFrom (c :: before) r

/-- Lower case of a text. -/
def lower (s : List Char) : List Char :=
  lowerFrom [] s

/-- Upper case of a text. -/
def upper (s : List Char) : List Char :=
  s.flatMap upperChar

/-- Lower case of ASCII letters, all else unchanged. -/
def asciiLower (s : List Char) : List Char :=
  s.map Char.toLower

/-- The character matches the lower-case ASCII character `p` when case is ignored: besides the two
cases of a letter, the long s matches s, the Kelvin sign matches k, and the dotless and the dotted
i match i. -/
def matchesIgnoringCase (p c : Char) : Bool :=
  c.toLower == p || (p == 's' && c == 'ſ') || (p == 'k' && c.toNat == 0x212A) ||
    (p == 'i' && (c == 'ı' || c == 'İ'))

/-- The rest of `s` after `word`, when `s` begins with the lower-case ASCII `word`, case
ignored. -/
def dropWordIgnoringCase? : (word s : List Char) → Option (List Char)
  | [], s => some s
  | _ :: _, [] => none
  | p :: ps, c :: r => if matchesIgnoringCase p c then dropWordIgnoringCase? ps r else none

end SafeMarkdown.Text
