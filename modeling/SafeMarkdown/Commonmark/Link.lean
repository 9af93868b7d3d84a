import SafeMarkdown.Commonmark.Unescape
import SafeMarkdown.Commonmark.Url

/-!
# Link destinations, titles and definitions

A destination stands in angle brackets, or runs to the first space or control character with its
parentheses balanced. A title stands in quotes or parentheses. Both are part of links and images
and of link reference definitions. A definition is looked up by its label, in which case and the
width of blanks do not matter; the first definition of a label counts.
-/

namespace SafeMarkdown.Commonmark

/-- The target of a link: its address and its title, which is empty where there is none. -/
structure Target where
  address : List Char
  title : List Char
deriving Repr, Inhabited

/-- Spaces, tabs and line feeds, which may stand between the parts of a link. -/
def isLinkSpace (c : Char) : Bool :=
  Text.isSpaceOrTab c || c == '\n'

/-- The text up to the closing angle bracket of a destination, and the text after it. -/
def bracketed? : List Char → Option (List Char × List Char)
  | [] => none
  | '>' :: r => some ([], r)
  | '\\' :: c :: r => (bracketed? r).map fun (a, b) ↦ ('\\' :: c :: a, b)
  | c :: r =>
    if c == '\n' || c == '<' then none else (bracketed? r).map fun (a, b) ↦ (c :: a, b)

/-- The length of a destination without brackets, with `level` parentheses open before it. -/
def bareLength? (level : Nat) : List Char → Option Nat
  | [] => if level = 0 then some 0 else none
  | '\\' :: ' ' :: _ => if level = 0 then some 0 else none
  | '\\' :: _ :: r => (bareLength? level r).map (· + 2)
  | c :: r =>
    if c.toNat ≤ 32 || c.toNat = 0x7F then
      if level = 0 then some 0 else none
    else if c == '(' then
      if level < 32 then (bareLength? (level + 1) r).map (· + 1) else none
    else if c == ')' then
      match level with
      | 0 => some 0
      | n + 1 => (bareLength? n r).map (· + 1)
    else (bareLength? level r).map (· + 1)

/-- The destination at the head of the text, decoded, and the text after it. -/
def destination? (s : List Char) : Option (List Char × List Char) :=
  match s with
  | '<' :: r => (bracketed? r).map fun (a, b) ↦ (unescape a, b)
  | _ =>
    match bareLength? 0 s with
    | none | some 0 => none
    | some n => some (unescape (s.take n), s.drop n)

/-- The text up to the end of a title, whose closing mark is `close`, and the text after it. -/
def titleBody? (close : Char) : List Char → Option (List Char × List Char)
  | [] => none
  | '\\' :: c :: r => (titleBody? close r).map fun (a, b) ↦ ('\\' :: c :: a, b)
  | c :: r =>
    if c == close then some ([], r)
    else if c == '(' && close == ')' then none
    else (titleBody? close r).map fun (a, b) ↦ (c :: a, b)

/-- The title at the head of the text, decoded, and the text after it. -/
def title? : List Char → Option (List Char × List Char)
  | [] => none
  | c :: r =>
    if c == '"' || c == '\'' || c == '(' then
      (titleBody? (if c == '(' then ')' else c) r).map fun (a, b) ↦ (unescape a, b)
    else none

/-- What the parentheses of an inline link hold. -/
inductive InlineTarget where
  /-- A target, and the text after the closing parenthesis. -/
  | found (target : Target) (rest : List Char)
  /-- No target; `rest` is where the closing parenthesis was missing. -/
  | unclosed (rest : List Char)
  /-- Nothing but space. -/
  | blank

/-- Reads the target of an inline link, from after its opening parenthesis. A destination that is
not safe is no part of the target. -/
def InlineTarget.scan (s : List Char) : InlineTarget :=
  match s.dropWhile isLinkSpace with
  | [] => blank
  | s =>
    let (address, rest) := match destination? s with
      | none => ([], s)
      | some (d, rest) =>
        let address := normalizeAddress d
        if isSafeAddress address then (address, rest) else ([], s)
    let spaced := rest.dropWhile isLinkSpace
    let (title, rest) :=
      match if spaced.length < rest.length then title? spaced else none with
      | some (title, rest) => (title, rest.dropWhile isLinkSpace)
      | none => ([], spaced)
    match rest with
    | ')' :: r => found ⟨address, title⟩ r
    | _ => unclosed rest

/-! ### Definitions -/

/-- The form of a label under which definitions are looked up. -/
def normalizeLabel (label : List Char) : List Char :=
  Text.upper (Text.lower (Text.collapseBlanks (Text.trim label)))

/-- The link reference definitions of a text, by label. -/
abbrev Definitions := List (List Char × Target)

/-- The label of a definition, from after its opening bracket, and the text after the closing
one. -/
def definitionLabel? : List Char → Option (List Char × List Char)
  | [] => none
  | ']' :: r => some ([], r)
  | '[' :: _ => none
  | '\\' :: c :: r => (definitionLabel? r).map fun (a, b) ↦ ('\\' :: c :: a, b)
  | c :: r => (definitionLabel? r).map fun (a, b) ↦ (c :: a, b)

/-- Nothing but spaces and tabs stands before the end of the line. -/
def endsLine (s : List Char) : Bool :=
  match s.dropWhile Text.isSpaceOrTab with
  | [] => true
  | c :: _ => c == '\n'

/-- A definition as it was read: its label, its target, and how many lines it takes. -/
structure ScannedDefinition where
  label : List Char
  target : Target
  lines : Nat

/-- The text up to its first line feed, which belongs to it, and the text after that. -/
def splitLine (s : List Char) : List Char × List Char :=
  let line := s.takeWhile (· != '\n')
  (line ++ (s.drop line.length).take 1, s.drop (line.length + 1))

/-- The number of lines that a part from the beginning of a text touches. -/
def countLines (s : List Char) : Nat :=
  s.count '\n' + if s.getLast? = some '\n' then 0 else 1

/-- The title of a definition and the text after it, where space parts it from the destination or
it has several lines. -/
def definitionTitle? (afterDestination : List Char) : Option (List Char × List Char) := do
  let s := afterDestination.dropWhile isLinkSpace
  let (title, rest) ← title? s
  let hasLines := (s.take (s.length - rest.length)).contains '\n'
  if s.length < afterDestination.length || hasLines then some (title, rest) else none

/-- Reads the definition at the head of a text of several lines. The destination stands on one line.
A title that is followed by more on its line is no part of the definition, and an empty one spoils
it. -/
def ScannedDefinition.scan? (s : List Char) : Option ScannedDefinition :=
  match s with
  | '[' :: r => do
    let (label, r) ← definitionLabel? r
    let r ← match r with
      | ':' :: r => some r
      | _ => none
    let (line, more) := splitLine (r.dropWhile isLinkSpace)
    let (destination, afterDestination) ← destination? line
    let address := normalizeAddress destination
    let withoutTitle := (([] : List Char), afterDestination ++ more)
    let (title, rest) := match
        if afterDestination.isEmpty then none else definitionTitle? (afterDestination ++ more) with
      | some (title, rest) =>
        if endsLine rest || title.isEmpty then (title, rest) else withoutTitle
      | none => withoutTitle
    let ends := afterDestination.isEmpty || endsLine rest
    let label := normalizeLabel label
    if isSafeAddress address && ends && !label.isEmpty then
      some ⟨label, ⟨address, title⟩, countLines (s.take (s.length - rest.length))⟩
    else none
  | _ => none

end SafeMarkdown.Commonmark
