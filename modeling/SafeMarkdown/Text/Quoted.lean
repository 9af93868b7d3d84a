import SafeMarkdown.Text.Span
import SafeMarkdown.Text.UnprintableTable

/-!
# Quoted literals

Messages quote the text they speak of. A literal stands in single quotes, or in double quotes when
the text holds a single quote and no double quote. The quote in use and the backslash are escaped
by a backslash, line feed, carriage return and tab have letters of their own, and any other
character that is not printable is written by its code in two, four or eight hexadecimal digits.
-/

namespace SafeMarkdown.Text.Quoted

/-- The character can be shown as it is. -/
def isPrintable (c : Char) : Bool :=
  if c.toNat < 127 then 32 ≤ c.toNat else !inSpans unprintableSpans c

/-- The number in hexadecimal with exactly `width` lower-case digits, the low ones. -/
def hex : (width : Nat) → Nat → List Char
  | 0, _ => []
  | w + 1, n => hex w (n / 16) ++ [Nat.digitChar (n % 16)]

/-- The quote that a literal of the text stands in. -/
def quoteFor (s : List Char) : Char :=
  if s.contains '\'' && !s.contains '"' then '"' else '\''

/-- One character inside a literal that stands in the quote `q`. -/
def encodeChar (q c : Char) : List Char :=
  if c == q || c == '\\' then ['\\', c]
  else if c == '\n' then ['\\', 'n']
  else if c == '\r' then ['\\', 'r']
  else if c == '\t' then ['\\', 't']
  else if isPrintable c then [c]
  else if c.toNat < 0x100 then '\\' :: 'x' :: hex 2 c.toNat
  else if c.toNat < 0x10000 then '\\' :: 'u' :: hex 4 c.toNat
  else '\\' :: 'U' :: hex 8 c.toNat

/-- The literal of a text. -/
def encode (s : List Char) : List Char :=
  let q := quoteFor s
  q :: s.flatMap (encodeChar q) ++ [q]

/-- The literal of a string. -/
def quoted (s : String) : String :=
  .ofList (encode s.toList)

end SafeMarkdown.Text.Quoted
