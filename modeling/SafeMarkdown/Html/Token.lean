import SafeMarkdown.Html.StartTag
import SafeMarkdown.Text.Quoted

/-!
# Tokens of HTML

HTML text is cut into tokens: text, start tags, end tags, and markup that is not shown (comments,
declarations, processing instructions, marked sections). Reading is tolerant of almost anything,
and has two phases. In the first, a construct that the end of the text cuts off, or a reference
that is not well formed, stops reading; the second phase goes on from there and takes such a
construct for text. Where the second phase stops, all that is left is text.

After a `script` or `style` start tag everything is raw text up to the end tag of that name; what
follows the last end tag that looks like it is dropped when the real one is missing.

Two things can be refused: a marked section whose keyword is unknown or missing, and a reference by
code with a number that is too long to be read.
-/

namespace SafeMarkdown.Html

open Text (isBlank)

/-- A token of HTML. -/
inductive Token where
  | text (s : List Char)
  | startTag (name : String) (attrs : List Attr) (selfClosing : Bool)
  | endTag (name : String)
  /-- Markup that is not shown. -/
  | hidden
deriving DecidableEq, Repr

/-- Why HTML text is refused. -/
inductive Rejection where
  /-- A marked section begins with a keyword, written here, that is not known. -/
  | unknownKeyword (written : List Char)
  /-- A marked section, whose first characters are these, has no keyword. -/
  | nameExpected (context : List Char)
  /-- A reference has a number of so many digits. -/
  | longNumber (digits : Nat)
deriving DecidableEq, Repr

/-- The text of the error at a marked section, for what is wrong with it. -/
def Rejection.sectionMessage (fault : String) : String :=
  "The markup you provided was rejected by the parser. Trying a different parser or a different " ++
    "encoding may help.\n\nOriginal exception(s) from parser:\n AssertionError: " ++ fault

/-- The text of the error. -/
def Rejection.message : Rejection → String
  | unknownKeyword written =>
    sectionMessage ("unknown status keyword " ++ .ofList (Text.Quoted.encode written) ++
      " in marked section")
  | nameExpected context =>
    sectionMessage ("expected name token at " ++ .ofList (Text.Quoted.encode context))
  | longNumber digits =>
    "Exceeds the limit (" ++ toString digitLimit ++ " digits) for integer string conversion: " ++
      "value has " ++ toString digits ++
      " digits; use sys.set_int_max_str_digits() to increase the limit"

/-- The elements whose content is raw text. -/
def rawTextTags : List String :=
  ["script", "style"]

/-! ### Finding the end of a construct -/

/-- The text after the first suffix that `m` accepts, where `m` gives the text after what it
matched. -/
def afterFirst? (m : List Char → Option (List Char)) : List Char → Option (List Char)
  | [] => none
  | c :: r =>
    match m (c :: r) with
    | some rest => some rest
    | none => afterFirst? m r

/-- Matches the characters of `word`, blanks being allowed after each but the last. -/
def matchSpaced? : (word : List Char) → List Char → Option (List Char)
  | [], s => some s
  | [p], c :: r => if c == p then some r else none
  | p :: ps, c :: r => if c == p then matchSpaced? ps (r.dropWhile isBlank) else none
  | _ :: _, [] => none

/-- Matches the end of a comment: two hyphens, blanks, and a closing bracket. -/
def matchCommentEnd? : List Char → Option (List Char)
  | '-' :: s => matchSpaced? ['-', '>'] s
  | _ => none

/-- The text after the first closing bracket. -/
def afterBracket? : List Char → Option (List Char) :=
  afterFirst? (matchSpaced? ['>'])

/-! ### End tags -/

/-- The characters that may follow the first letter of a plain end tag's name. -/
def isPlainNameChar (c : Char) : Bool :=
  c.isAlphanum || c == '-' || c == '.' || c == '_' || c == ':'

/-- Reads an end tag without anything but a name and blanks, from after its `</`. -/
def plainEndTag? (s : List Char) : Option (String × List Char) :=
  match s.dropWhile isBlank with
  | [] => none
  | c :: r =>
    if c.isAlpha then
      match (r.dropWhile isPlainNameChar).dropWhile isBlank with
      | [] => none
      | d :: rest =>
        if d == '>' then
          some (.ofList (Text.asciiLower (c :: r.takeWhile isPlainNameChar)), rest)
        else none
    else none

/-- The end tag after `</`, given the text `rest` after its closing bracket: its token, none for
an end tag without a name. -/
def endTagTokens (s : List Char) : List Token :=
  match plainEndTag? s, s with
  | some (name, _), _ => [.endTag name]
  | none, [] => []
  | none, c :: _ =>
    if c.isAlpha then [.endTag (.ofList (Text.lower (s.takeWhile isTagNameChar)))]
    else if c == '>' then []
    else [.hidden]

/-! ### Marked sections -/

/-- The characters that may follow the first letter of a keyword. -/
def isKeywordChar (c : Char) : Bool :=
  c.isAlphanum || c == '-' || c == '_' || c == '.'

/-- Keywords of the sections that end in two closing brackets. -/
def sectionKeywords : List String :=
  ["temp", "cdata", "ignore", "include", "rcdata"]

/-- Keywords of the sections that end in one closing bracket. -/
def conditionKeywords : List String :=
  ["if", "else", "endif"]

/-- Finds the end of a marked section, from after its `<![`: the text after it, or nothing where
the section is cut off. -/
def markedSection (s : List Char) : Except Rejection (Option (List Char)) :=
  match s with
  | [] => .ok none
  | c :: r =>
    if !c.isAlpha then .error (.nameExpected (('<' :: '!' :: '[' :: s).take 20))
    else
      let name := c :: r.takeWhile isKeywordChar
      let afterName := r.dropWhile isKeywordChar
      let blanks := afterName.takeWhile isBlank
      if (afterName.dropWhile isBlank).isEmpty then .ok none
      else
        let keyword := String.ofList (Text.asciiLower name)
        if keyword ∈ sectionKeywords then .ok (afterFirst? (matchSpaced? [']', ']', '>']) s)
        else if keyword ∈ conditionKeywords then .ok (afterFirst? (matchSpaced? [']', '>']) s)
        else .error (.unknownKeyword (name ++ blanks))

/-- The text begins with a document type declaration, from after its `<!`. -/
def isDoctype (s : List Char) : Bool :=
  Text.asciiLower (s.take 7) == ['d', 'o', 'c', 't', 'y', 'p', 'e']

/-- Finds the end of a declaration or comment, from after its `<!`. -/
def declaration (s : List Char) : Except Rejection (Option (List Char)) :=
  match s with
  | '-' :: '-' :: r => .ok (afterFirst? matchCommentEnd? r)
  | '[' :: r => markedSection r
  | s => .ok (afterBracket? (if isDoctype s then s.drop 7 else s))

/-! ### References in text -/

/-- The character given by code, from after `&#`, and the text after the reference. A reference
that ends the text, or runs into a hexadecimal digit, is none. -/
def codeReference? (s : List Char) : Option (Char × List Char) := do
  let (n, rest) ← scanCode? s
  match rest with
  | [] => none
  | c :: _ => if Text.isHexDigit c then none else some (charOfCode n, dropSemicolon rest)

/-- The characters that may follow the first letter of a name in text. -/
def isNamePart (c : Char) : Bool :=
  c.isAlphanum || c == '-' || c == '.'

/-- The longest beginning of `s` that a hyphen or a full stop follows, and the rest from there. -/
def splitAtLastMark? : List Char → Option (List Char × List Char)
  | [] => none
  | c :: r =>
    match splitAtLastMark? r with
    | some (a, b) => some (c :: a, b)
    | none => if c == '-' || c == '.' then some ([], c :: r) else none

/-- The name of a reference, from after `&`, and the text after the reference. A name that ends
the text is cut at its last hyphen or full stop, and is none where it has none. -/
def nameReference? (s : List Char) : Option (List Char × List Char) :=
  match s with
  | [] => none
  | c :: r =>
    if c.isAlpha then
      match r.dropWhile isNamePart with
      | [] => (splitAtLastMark? r).map fun (a, b) ↦ (c :: a, b)
      | rest => some (c :: r.takeWhile isNamePart, dropSemicolon rest)
    else none

/-- The text that a name stands for; an unknown name stands for itself, its semicolon lost. -/
def textOfName (name : List Char) : List Char :=
  match Entity.characters? (.ofList name) with
  | some s => s.toList
  | none => '&' :: name

/-! ### Raw text -/

/-- Matches an end tag of `name` in any case, where case is understood widely: gives the part after
`</` and the text after the tag. -/
def matchRawEnd? (name : List Char) : List Char → Option (List Char × List Char)
  | '<' :: '/' :: s => do
    let rest ← Text.dropWordIgnoringCase? name (s.dropWhile isBlank)
    match rest.dropWhile isBlank with
    | [] => none
    | c :: r => if c == '>' then some (s, r) else none
  | _ => none

/-- The first end tag of `name` in any case: the text before it, the part after its `</`, and the
text after it. -/
def splitAtRawEnd? (name : List Char) : List Char → Option (List Char × List Char × List Char)
  | [] => none
  | c :: r =>
    match matchRawEnd? name (c :: r) with
    | some (tag, rest) => some ([], tag, rest)
    | none => (splitAtRawEnd? name r).map fun (a, b) ↦ (c :: a, b)

/-- Reads the raw text of an element: its tokens, and the text after its end tag where it has
one. An end tag that only looks like the right one is text. -/
def rawText (name : List Char) : (fuel : Nat) → List Char → List Token × Option (List Char)
  | 0, _ => ([], none)
  | fuel + 1, s =>
    match splitAtRawEnd? name s with
    | none => ([], none)
    | some (before, tag, rest) =>
      if (plainEndTag? tag).isSome then
        ([.text before, .endTag (.ofList name)], some rest)
      else
        let whole := s.take (s.length - rest.length)
        let (tokens, rest) := rawText name fuel rest
        (.text whole :: tokens, rest)

end SafeMarkdown.Html
