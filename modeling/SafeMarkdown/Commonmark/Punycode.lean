import SafeMarkdown.Text.Case

/-!
# Punycode

The encoding of text by ASCII letters, digits and hyphens that domain names use. The ASCII
characters of a label come first; each other character is an insertion, written as a number of
variable length whose base adapts to the numbers before it.
-/

namespace SafeMarkdown.Commonmark.Punycode

/-- The threshold of the digit at place `j`. -/
def threshold (j bias : Nat) : Nat :=
  max 1 (min 26 (36 * (j + 1) - bias))

/-- Scales a number down until the next thresholds fit it. -/
def scale : (fuel : Nat) → (delta divisions : Nat) → Nat
  | 0, delta, divisions => divisions + 36 * delta / (delta + 38)
  | fuel + 1, delta, divisions =>
    if 455 < delta then scale fuel (delta / 35) (divisions + 36)
    else divisions + 36 * delta / (delta + 38)

/-- The bias after the number `delta`, when the text has `count` characters by then. -/
def adapt (delta : Nat) (first : Bool) (count : Nat) : Nat :=
  let delta := if first then delta / 700 else delta / 2
  scale delta (delta + delta / count) 0

/-- The digit of that value. -/
def digit (n : Nat) : Char :=
  if n < 26 then Char.ofNat (n + 97) else Char.ofNat (n - 26 + 48)

/-- The digits of a number, from place `j` on. -/
def encodeNumber (bias : Nat) : (fuel : Nat) → (j n : Nat) → List Char
  | 0, _, _ => []
  | fuel + 1, j, n =>
    let t := threshold j bias
    if n < t then [digit n]
    else digit (t + (n - t) % (36 - t)) :: encodeNumber bias fuel (j + 1) ((n - t) / (36 - t))

/-- What encoding has come to. -/
structure Encoder where
  /-- The characters inserted so far, those of ASCII included. -/
  count : Nat
  /-- The steps since the last insertion. -/
  delta : Nat
  bias : Nat
  output : List Char

/-- Passes one character while the characters of code `m` are inserted; `basic` of them are
ASCII. -/
def Encoder.pass (basic m : Nat) (e : Encoder) (c : Char) : Encoder :=
  if c.toNat < m then { e with delta := e.delta + 1 }
  else if c.toNat = m then
    { count := e.count + 1
      delta := 0
      bias := adapt e.delta (e.count == basic) (e.count + 1)
      output := e.output ++ encodeNumber e.bias (e.delta + 2) 0 e.delta }
  else e

/-- Inserts all characters of code `m`, after those of lower code than `n`. -/
def Encoder.insert (s : List Char) (basic n m : Nat) (e : Encoder) : Encoder :=
  let e := { e with delta := e.delta + (m - n) * (e.count + 1) }
  let e := s.foldl (Encoder.pass basic m) e
  { e with delta := e.delta + 1 }

/-- The codes beyond ASCII in a text, in increasing order. -/
def extendedCodes (s : List Char) : List Nat :=
  ((s.map Char.toNat).filter (128 ≤ ·)).mergeSort.eraseDups

/-- Encodes a text. -/
def encode (s : List Char) : List Char :=
  let basic := s.filter fun c ↦ c.toNat < 128
  let start : Encoder := ⟨basic.length, 0, 72, []⟩
  let (e, _) := (extendedCodes s).foldl
    (fun (e, n) m ↦ (e.insert s basic.length n m, m + 1)) (start, 128)
  if basic.isEmpty then e.output else basic ++ '-' :: e.output

/-- The value of a digit, in either case. -/
def digitValue? (c : Char) : Option Nat :=
  if 'a' ≤ c && c ≤ 'z' then some (c.toNat - 97)
  else if 'A' ≤ c && c ≤ 'Z' then some (c.toNat - 65)
  else if c.isDigit then some (c.toNat - 48 + 26)
  else none

/-- Reads a number from place `j` on: its value and the text after it. -/
def decodeNumber? (bias : Nat) (j weight value : Nat) : List Char → Option (Nat × List Char)
  | [] => none
  | c :: r => do
    let d ← digitValue? c
    let value := value + d * weight
    let t := threshold j bias
    if d < t then some (value, r)
    else decodeNumber? bias (j + 1) (weight * (36 - t)) value r

/-- Decodes the insertions into `text`. `place` counts the places passed since code 128. -/
def decodeInsertions? : (fuel : Nat) → (text : List Char) → (code place bias : Nat) →
    (first : Bool) → List Char → Option (List Char)
  | 0, text, _, _, _, _, _ => some text
  | _ + 1, text, _, _, _, _, [] => some text
  | fuel + 1, text, code, place, bias, first, s => do
    let (delta, rest) ← decodeNumber? bias 0 1 0 s
    let place := place + delta
    let code := code + place / (text.length + 1)
    let place := place % (text.length + 1)
    if 0x10FFFF < code || (0xD800 ≤ code && code ≤ 0xDFFF) then none
    else
      let text := text.take place ++ Char.ofNat code :: text.drop place
      decodeInsertions? fuel text code (place + 1) (adapt delta first text.length) false rest

/-- Decodes a text, where it is the encoding of one. -/
def decode? (s : List Char) : Option (List Char) :=
  if s.any fun c ↦ 128 ≤ c.toNat then none
  else
    let tail := (s.reverse.takeWhile (· != '-')).reverse
    let basic := if tail.length = s.length then [] else s.take (s.length - tail.length - 1)
    decodeInsertions? (s.length + 1) basic 128 0 72 true tail

/-- The characters that separate the labels of a domain name. -/
def isLabelSeparator (c : Char) : Bool :=
  c == '.' || c.toNat == 0x3002 || c.toNat == 0xFF0E || c.toNat == 0xFF61

/-- The labels of a domain name. -/
def labels (host : List Char) : List (List Char) :=
  host.splitOnP isLabelSeparator

/-- A domain name with each label in ASCII. -/
def hostToAscii (host : List Char) : List Char :=
  ['.'].intercalate <| (labels host).map fun label ↦
    if label.any fun c ↦ 0x7E < c.toNat then 'x' :: 'n' :: '-' :: '-' :: encode label else label

/-- A domain name with each label decoded, where all of them can be. -/
def hostToUnicode? (host : List Char) : Option (List Char) := do
  let decoded ← (labels host).mapM fun label ↦
    if ['x', 'n', '-', '-'].isPrefixOf label then decode? (Text.lower (label.drop 4))
    else some label
  return ['.'].intercalate decoded

end SafeMarkdown.Commonmark.Punycode
