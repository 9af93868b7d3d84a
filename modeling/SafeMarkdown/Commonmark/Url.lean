import SafeMarkdown.Commonmark.Punycode
import SafeMarkdown.Text.Ascii
import SafeMarkdown.Text.Blank

/-!
# Addresses

An address is split into its parts, so that its host can be written in ASCII, and put together
again with every character percent-encoded that may not stand in an address. For display, the host
is decoded and percent-encoded text is read back, save for the characters that have a meaning in
addresses. `isSafe` refuses the schemes that can run scripts or read files; among addresses that
carry data only some images are safe.
-/

namespace SafeMarkdown.Commonmark

open Text (hexValue isHexDigit)

/-- The parts of an address, each with the marks that belong to it as noted. -/
structure Url where
  /-- The scheme with its colon. -/
  protocol : List Char := []
  /-- Two slashes follow the scheme. -/
  slashes : Bool := false
  auth : List Char := []
  hostname : List Char := []
  port : List Char := []
  pathname : List Char := []
  /-- The query with its question mark. -/
  search : List Char := []
  /-- The fragment with its hash sign. -/
  hash : List Char := []

namespace Url

/-- The characters of a scheme. -/
def isSchemeChar (c : Char) : Bool :=
  c.isAlphanum || c == '.' || c == '+' || c == '-'

/-- Characters that match those of a scheme when case is ignored. -/
def isSchemeCharAnyCase (c : Char) : Bool :=
  isSchemeChar c || c == 'ſ' || c == 'ı' || c == 'İ' || c.toNat == 0x212A

/-- The scheme with its colon, and the text after it. -/
def splitScheme (s : List Char) : List Char × List Char :=
  match s.dropWhile isSchemeCharAnyCase with
  | ':' :: rest =>
    match s.takeWhile isSchemeCharAnyCase with
    | [] => ([], s)
    | scheme => (scheme ++ [':'], rest)
  | _ => ([], s)

/-- Schemes that are followed by two slashes and a host. -/
def slashedSchemes : List String :=
  ["http:", "https:", "ftp:", "gopher:", "file:"]

/-- Schemes that never have a host. -/
def hostlessSchemes : List String :=
  ["javascript:"]

/-- Characters that end the part with a user name. -/
def endsAuth (c : Char) : Bool :=
  c == '/' || c == '?' || c == '#'

/-- Characters that end a host. -/
def endsHost (c : Char) : Bool :=
  ['%', '/', '?', ';', '#', '\'', '\x7b', '\x7d', '|', '\\', '^', '\x60', '<', '>', '"', ' ', '\r',
    '\n', '\t'].contains c

/-- The text before the last `@`, and the text after it. -/
def splitAtLastAt? (s : List Char) : Option (List Char × List Char) :=
  let tail := (s.reverse.takeWhile (· != '@')).reverse
  if tail.length = s.length then none
  else some (s.take (s.length - tail.length - 1), tail)

/-- The host and the port at its end, which may be empty after its colon. -/
def splitPort (host : List Char) : List Char × List Char :=
  let digits := (host.reverse.takeWhile Char.isDigit).reverse
  let before := host.take (host.length - digits.length)
  if before.getLast? = some ':' then (before.dropLast, digits) else (host, [])

/-- The characters of a part of a host name. -/
def isHostChar (c : Char) : Bool :=
  c.isAlphanum || c == '+' || c == '_' || c == '-'

/-- A part of a host name is good: at most 63 characters, those beyond ASCII taken for letters. -/
def isHostPart (part : List Char) : Bool :=
  part.length ≤ 63 && part.all fun c ↦ isHostChar c || 127 < c.toNat

/-- The beginning of a bad part that still belongs to the host, and what does not. -/
def splitHostPart (part : List Char) : List Char × List Char :=
  let good := (part.takeWhile isHostChar).take 63
  (good, part.drop good.length)

/-- Splits the parts of a host name at the first bad part: the host, and what does not belong to
it. -/
def splitHostParts : List (List Char) → List (List Char) × List (List Char)
  | [] => ([], [])
  | part :: parts =>
    if isHostPart part then
      let (good, bad) := splitHostParts parts
      (part :: good, bad)
    else
      let (good, bad) := splitHostPart part
      ([good], bad :: parts)

/-- The host name without the brackets of a numeric address, or else cut before its first bad part,
and the text that was cut off. -/
def checkHost (hostname : List Char) : List Char × List Char :=
  if hostname.head? = some '[' && hostname.getLast? = some ']' then
    (if 255 < hostname.length then [] else (hostname.drop 1).dropLast, [])
  else
    let (good, bad) := splitHostParts (hostname.splitOnP (· == '.'))
    let host := ['.'].intercalate good
    (if 255 < host.length then [] else host, ['.'].intercalate bad)

/-- Takes the user name and the host off the head of an address, whose scheme is in `url`. -/
def takeHost (url : Url) (s : List Char) : Url × List Char :=
  let authArea := s.takeWhile fun c ↦ !endsAuth c
  let (auth, s) := match splitAtLastAt? authArea with
    | some (auth, host) => (auth, host ++ s.drop authArea.length)
    | none => ([], s)
  let host := s.takeWhile fun c ↦ !endsHost c
  let host := if host.getLast? = some ':' then host.dropLast else host
  let rest := s.drop host.length
  let (hostname, port) := splitPort host
  let (hostname, cut) := checkHost hostname
  ({ url with auth := auth, hostname := hostname, port := port }, cut ++ rest)

/-- Splits an address into its parts. -/
def parse (source : List Char) : Url :=
  let (scheme, rest) := splitScheme (Text.trim source)
  let name := String.ofList scheme
  let hostless := name ∈ hostlessSchemes
  let slashes := ['/', '/'].isPrefixOf rest
  let rest := if slashes && !hostless then rest.drop 2 else rest
  let url : Url := { protocol := scheme, slashes := slashes && !hostless }
  let hasHost := !hostless && (slashes || (!scheme.isEmpty && !(name ∈ slashedSchemes)))
  let (url, rest) := if hasHost then takeHost url rest else (url, rest)
  let beforeHash := rest.takeWhile (· != '#')
  let path := beforeHash.takeWhile (· != '?')
  { url with
    pathname := path
    search := beforeHash.drop path.length
    hash := rest.drop beforeHash.length }

/-- Puts an address together. -/
def format (u : Url) : List Char :=
  let host := if u.hostname.contains ':' then '[' :: u.hostname ++ [']'] else u.hostname
  u.protocol ++ (if u.slashes then ['/', '/'] else []) ++
    (if u.auth.isEmpty then [] else u.auth ++ ['@']) ++ host ++
    (if u.port.isEmpty then [] else ':' :: u.port) ++ u.pathname ++ u.search ++ u.hash

/-- The host of such an address is a domain name, as far as one can tell. -/
def hasDomain (u : Url) : Bool :=
  !u.hostname.isEmpty &&
    (u.protocol.isEmpty || ["http:", "https:", "mailto:"].contains (String.ofList u.protocol))

/-! ### Percent-encoding -/

/-- A hexadecimal digit in upper case. -/
def upperHexDigit (n : Nat) : Char :=
  (Nat.digitChar n).toUpper

/-- A byte after a percent sign. -/
def percent (byte : Nat) : List Char :=
  ['%', upperHexDigit (byte / 16), upperHexDigit (byte % 16)]

/-- The bytes of a character in UTF-8. -/
def utf8 (c : Char) : List Nat :=
  let n := c.toNat
  if n < 0x80 then [n]
  else if n < 0x800 then [0xC0 + n / 0x40, 0x80 + n % 0x40]
  else if n < 0x10000 then [0xE0 + n / 0x1000, 0x80 + n / 0x40 % 0x40, 0x80 + n % 0x40]
  else [0xF0 + n / 0x40000, 0x80 + n / 0x1000 % 0x40, 0x80 + n / 0x40 % 0x40, 0x80 + n % 0x40]

/-- Punctuation that an address may hold as it is. -/
def addressMarks : List Char :=
  [';', '/', '?', ':', '@', '&', '=', '+', '$', ',', '-', '_', '.', '!', '~', '*', '\'', '(', ')',
    '#']

/-- A character as an address holds it. -/
def encodeChar (c : Char) : List Char :=
  if c.isAlphanum || addressMarks.contains c then [c] else (utf8 c).flatMap percent

/-- Percent-encodes an address; what is percent-encoded already stays. -/
def encode : List Char → List Char
  | '%' :: a :: b :: r =>
    if isHexDigit a && isHexDigit b then '%' :: a :: b :: encode r
    else percent 0x25 ++ encode (a :: b :: r)
  | c :: r => encodeChar c ++ encode r
  | [] => []

/-- The characters that keep their percent-encoding when an address is displayed. -/
def keepsEncoding (c : Char) : Bool :=
  [';', '/', '?', ':', '@', '&', '=', '+', '$', ',', '#', '%'].contains c

/-- The byte is one that goes on with a character of UTF-8. -/
def isContinuation (b : Nat) : Bool :=
  0x80 ≤ b && b < 0xC0

/-- The character of that code, in the place of `size` bytes: one replacement character for each
byte where the code needs fewer bytes, or is none. -/
def decodedChar (size code least : Nat) : List Char :=
  if code < least || 0x10FFFF < code || (0xD800 ≤ code && code ≤ 0xDFFF) then
    List.replicate size '\uFFFD'
  else [Char.ofNat code]

/-- The character of ASCII that a byte stands for, as it is displayed. -/
def asciiChar (b : Nat) : List Char :=
  let c := Char.ofNat b
  if keepsEncoding c then percent b else [c]

/-- The number of bytes in the character that the byte begins, 0 where it begins none. -/
def leadSize (b : Nat) : Nat :=
  if b / 0x20 == 6 then 2 else if b / 0x10 == 14 then 3 else if b / 8 == 30 then 4 else 0

/-- The least code that needs that number of bytes. -/
def leastCode (size : Nat) : Nat :=
  if size = 2 then 0x80 else if size = 3 then 0x800 else 0x10000

/-- The code of the character of `size` bytes that `b` begins and `more` go on. -/
def codeOfBytes (size b : Nat) (more : List Nat) : Nat :=
  more.foldl (fun n m ↦ n * 0x40 + m % 0x40) (b % (0x80 >>> size))

/-- The text of a run of bytes. A byte that begins no character becomes a replacement character. -/
def decodeBytes (bytes : List Nat) : List Char :=
  match bytes with
  | [] => []
  | b :: r =>
    let size := leadSize b
    let more := r.take (size - 1)
    if b < 0x80 then asciiChar b ++ decodeBytes r
    else if size != 0 && more.length == size - 1 && more.all isContinuation then
      decodedChar size (codeOfBytes size b more) (leastCode size) ++ decodeBytes (r.drop (size - 1))
    else '\uFFFD' :: decodeBytes r
termination_by bytes.length

/-- Reads percent-encoded text back, `bytes` being the run of bytes just read, last first. -/
def decodeFrom (bytes : List Nat) : List Char → List Char
  | '%' :: a :: b :: r =>
    if isHexDigit a && isHexDigit b then
      decodeFrom (hexValue [a, b] :: bytes) r
    else decodeBytes bytes.reverse ++ '%' :: decodeFrom [] (a :: b :: r)
  | c :: r => decodeBytes bytes.reverse ++ c :: decodeFrom [] r
  | [] => decodeBytes bytes.reverse

/-- Reads percent-encoded text back. -/
def decode (s : List Char) : List Char :=
  decodeFrom [] s

end Url

/-- The address of a link as it is written out. -/
def normalizeAddress (s : List Char) : List Char :=
  let u := Url.parse s
  let u := if u.hasDomain then { u with hostname := Punycode.hostToAscii u.hostname } else u
  Url.encode u.format

/-- An address as a link shows it that has no other text. -/
def displayAddress (s : List Char) : List Char :=
  let u := Url.parse s
  let u := if u.hasDomain then
      { u with hostname := (Punycode.hostToUnicode? u.hostname).getD u.hostname }
    else u
  Url.decode u.format

/-- The address does not run a script, read a file, or carry data other than an image. -/
def isSafeAddress (s : List Char) : Bool :=
  let s := Text.asciiLower (Text.trim s)
  let begins (word : String) : Bool := word.toList.isPrefixOf s
  if ["vbscript:", "javascript:", "file:", "data:"].any begins then
    ["data:image/gif;", "data:image/png;", "data:image/jpeg;", "data:image/webp;"].any begins
  else true

end SafeMarkdown.Commonmark
