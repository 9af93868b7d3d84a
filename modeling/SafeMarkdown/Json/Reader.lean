import SafeMarkdown.Json.Value

/-!
# Reading JSON

A text is read as one value with blanks around it. A text that is no value is refused at a
position, counted in characters: the place where a value, a name, a colon or a comma was missing,
the control character inside a string, the bad escape, or the start of the string without an end.
-/

namespace SafeMarkdown.Json

/-- What a part of the reader answers: a result and the rest of the text, or the rest that begins
at the fault. -/
abbrev Answer (α : Type) := Except (List Char) (α × List Char)

/-- The blanks that may stand between tokens. -/
def isSpace (c : Char) : Bool :=
  c == ' ' || c == '\t' || c == '\n' || c == '\r'

/-- Drops blanks. -/
def skipSpaces (s : List Char) : List Char :=
  s.dropWhile isSpace

/-- The value of the first four characters as hexadecimal digits. -/
def hexQuad? : List Char → Option Nat
  | a :: b :: c :: d :: _ =>
    if [a, b, c, d].all Text.isHexDigit then some (Text.hexValue [a, b, c, d]) else none
  | _ => none

/-- The unit is the first half of a surrogate pair. -/
def isHighSurrogate (n : Nat) : Bool := 0xD800 ≤ n && n ≤ 0xDBFF

/-- The unit is the second half of a surrogate pair. -/
def isLowSurrogate (n : Nat) : Bool := 0xDC00 ≤ n && n ≤ 0xDFFF

/-- Reads the body of a string whose opening quote stood at `start`. The characters read so far
are in `acc`, last first; `whole` tells that no half of a surrogate pair was among them. -/
def readString (start : List Char) : (fuel : Nat) → (acc : List Char) → (whole : Bool) →
    List Char → Answer Value
  | 0, _, _, _ => .error start
  | _ + 1, _, _, [] => .error start
  | fuel + 1, acc, whole, s@(c :: r) =>
    if c == '"' then
      .ok (if whole then .string (.ofList acc.reverse) else .brokenString, r)
    else if c.toNat ≤ 0x1F then .error s
    else if c == '\\' then
      match r with
      | [] => .error start
      | 'u' :: r =>
        if r.length ≤ 4 then .error ('u' :: r)
        else match hexQuad? r with
          | none => .error ('u' :: r)
          | some unit =>
            let rest := r.drop 4
            if isHighSurrogate unit then
              match rest with
              | '\\' :: 'u' :: r₂ =>
                if r₂.length ≤ 4 then readString start fuel acc false rest
                else match hexQuad? r₂ with
                  | none => .error ('u' :: r₂)
                  | some unit₂ =>
                    if isLowSurrogate unit₂ then
                      let code := 0x10000 + (unit - 0xD800) * 0x400 + (unit₂ - 0xDC00)
                      readString start fuel (Char.ofNat code :: acc) whole (r₂.drop 4)
                    else readString start fuel acc false rest
              | _ => readString start fuel acc false rest
            else if isLowSurrogate unit then readString start fuel acc false rest
            else readString start fuel (Char.ofNat unit :: acc) whole rest
      | e :: r' =>
        match e with
        | '"' | '\\' | '/' => readString start fuel (e :: acc) whole r'
        | 'b' => readString start fuel ('\x08' :: acc) whole r'
        | 'f' => readString start fuel ('\x0c' :: acc) whole r'
        | 'n' => readString start fuel ('\n' :: acc) whole r'
        | 'r' => readString start fuel ('\r' :: acc) whole r'
        | 't' => readString start fuel ('\t' :: acc) whole r'
        | _ => .error s
    else readString start fuel (c :: acc) whole r

/-- The fraction at the head of the text, its point included. -/
def takeFraction : List Char → List Char
  | '.' :: r =>
    match r.takeWhile Char.isDigit with
    | [] => []
    | ds => '.' :: ds
  | _ => []

/-- The exponent at the head of the text, its mark and sign included. -/
def takeExponent : List Char → List Char
  | e :: r =>
    if e == 'e' || e == 'E' then
      let sign := match r with
        | '-' :: _ => ['-']
        | '+' :: _ => ['+']
        | _ => []
      match (r.drop sign.length).takeWhile Char.isDigit with
      | [] => []
      | ds => e :: sign ++ ds
    else []
  | [] => []

/-- Reads a number: a sign, an integer without leading zeros, a fraction and an exponent. -/
def readNumber (s : List Char) : Answer Value :=
  let sign := match s with
    | '-' :: _ => ['-']
    | _ => []
  let body := s.drop sign.length
  let whole := match body with
    | '0' :: _ => ['0']
    | r => r.takeWhile Char.isDigit
  if whole.isEmpty then .error s
  else
    let rest := body.drop whole.length
    let fraction := takeFraction rest
    let rest := rest.drop fraction.length
    let exponent := takeExponent rest
    let rest := rest.drop exponent.length
    if fraction.isEmpty && exponent.isEmpty then
      let n : Int := Text.decimalValue whole
      .ok (.number (.integer (if sign.isEmpty then n else -n)), rest)
    else .ok (.number (.real (.ofList (sign ++ whole ++ fraction ++ exponent))), rest)

/-- The words that stand for a value, with their values. -/
def words : List (List Char × Value) :=
  [("null".toList, .null), ("true".toList, .bool true), ("false".toList, .bool false),
    ("NaN".toList, .number (.real "NaN")), ("Infinity".toList, .number (.real "Infinity")),
    ("-Infinity".toList, .number (.real "-Infinity"))]

/-- Reads a word or a number. -/
def readWordOrNumber (s : List Char) : Answer Value :=
  match words.find? fun w ↦ w.1.isPrefixOf s with
  | some w => .ok (w.2, s.drop w.1.length)
  | none => readNumber s

mutual

/-- Reads one value at the head of the text. -/
def readValue : (fuel : Nat) → List Char → Except (List Char) (Value × List Char)
  | 0, s => .error s
  | fuel + 1, s =>
    match s with
    | '"' :: r => readString s (r.length + 1) [] true r
    | '[' :: r =>
      match skipSpaces r with
      | ']' :: r' => .ok (.array [], r')
      | r' => do
        let (items, rest) ← readItems fuel r'
        return (.array items, rest)
    | '\x7b' :: r =>
      match skipSpaces r with
      | '\x7d' :: r' => .ok (.object [], r')
      | r' => do
        let (fields, rest) ← readFields fuel r'
        return (.object fields, rest)
    | s => readWordOrNumber s

/-- Reads the items of an array that has at least one, and its closing bracket. -/
def readItems : (fuel : Nat) → List Char → Except (List Char) (List Value × List Char)
  | 0, s => .error s
  | fuel + 1, s => do
    let (item, rest) ← readValue fuel s
    match skipSpaces rest with
    | ']' :: r => return ([item], r)
    | ',' :: r =>
      let (items, rest) ← readItems fuel (skipSpaces r)
      return (item :: items, rest)
    | r => .error r

/-- Reads the fields of an object that has at least one, and its closing brace. -/
def readFields : (fuel : Nat) → List Char → Except (List Char) (List (String × Value) × List Char)
  | 0, s => .error s
  | fuel + 1, s => do
    match s with
    | '"' :: r =>
      let (name, rest) ← readString s (r.length + 1) [] true r
      let name := match name with
        | .string name => name
        | _ => "\uFFFD"
      match skipSpaces rest with
      | ':' :: r =>
        let (value, rest) ← readValue fuel (skipSpaces r)
        match skipSpaces rest with
        | '\x7d' :: r => return ([(name, value)], r)
        | ',' :: r =>
          let (fields, rest) ← readFields fuel (skipSpaces r)
          return ((name, value) :: fields, rest)
        | r => .error r
      | r => .error r
    | s => .error s

end

/-- Reads a text as one JSON value; a text that is none is refused at a position. -/
def read (text : String) : Except Nat Value :=
  let s := text.toList
  let position (rest : List Char) : Nat := s.length - rest.length
  match readValue (2 * s.length + 2) (skipSpaces s) with
  | .error rest => .error (position rest)
  | .ok (value, rest) =>
    match skipSpaces rest with
    | [] => .ok value
    | rest => .error (position rest)

end SafeMarkdown.Json
