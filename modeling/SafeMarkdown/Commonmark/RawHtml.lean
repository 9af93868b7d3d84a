import SafeMarkdown.Text.Blank
import SafeMarkdown.Text.Case

/-!
# Raw HTML in Markdown

A piece of raw HTML in running text is one tag, comment, processing instruction, declaration or
CDATA section, written strictly. An HTML block begins with a line of one of seven forms; each form
has an end of its own, and all but the last form can interrupt a paragraph.
-/

namespace SafeMarkdown.Commonmark

open Text (isBlank)

/-- The text after `word`, where the text begins with it. -/
def dropExact? (word s : List Char) : Option (List Char) :=
  if word.isPrefixOf s then some (s.drop word.length) else none

/-- The text after the first occurrence of `word`. -/
def afterWord? (word : List Char) : List Char → Option (List Char)
  | [] => none
  | c :: r =>
    match dropExact? word (c :: r) with
    | some rest => some rest
    | none => afterWord? word r

/-- The text after the first occurrence of `c`. -/
def afterChar? (c : Char) (s : List Char) : Option (List Char) :=
  match s.dropWhile (· != c) with
  | [] => none
  | _ :: rest => some rest

/-! ### Tags -/

/-- The characters of a tag name after its first letter. -/
def isTagNamePart (c : Char) : Bool :=
  c.isAlphanum || c == '-'

/-- The first character of an attribute name. -/
def isAttrNameStart (c : Char) : Bool :=
  c.isAlpha || c == '_' || c == ':'

/-- The characters of an attribute name after its first one. -/
def isAttrNamePart (c : Char) : Bool :=
  c.isAlphanum || c == '_' || c == ':' || c == '.' || c == '-'

/-- The characters of a value without quotes. -/
def isBareValueChar (c : Char) : Bool :=
  32 < c.toNat && ['"', '\'', '=', '<', '>', '\x60'].all (· != c)

/-- The texts after a value without quotes, the longest value first. The value may also end before
any blank that it holds. -/
def bareValueEnds : List Char → List (List Char)
  | [] => [[]]
  | c :: r =>
    if isBareValueChar c then
      if isBlank c then bareValueEnds r ++ [c :: r] else bareValueEnds r
    else [c :: r]

/-- The texts after an attribute value. -/
def valueEnds : List Char → List (List Char)
  | [] => []
  | q :: r =>
    if q == '"' || q == '\'' then (afterChar? q r).toList
    else if isBareValueChar q then bareValueEnds r
    else []

/-- The texts after an attribute value that blanks may stand before, the most blanks first. A blank
beyond ASCII may also be part of the value. -/
def spacedValueEnds : List Char → List (List Char)
  | [] => []
  | c :: r =>
    if isBlank c then spacedValueEnds r ++ valueEnds (c :: r) else valueEnds (c :: r)

/-- The text after a start tag, from after its name. -/
def startTagTail? : (fuel : Nat) → List Char → Option (List Char)
  | 0, _ => none
  | fuel + 1, s =>
    match s.dropWhile isBlank with
    | [] => none
    | '>' :: r => some r
    | '/' :: '>' :: r => some r
    | c :: r =>
      if (s.head?.map isBlank).getD false && isAttrNameStart c then
        let afterName := r.dropWhile isAttrNamePart
        match afterName.dropWhile isBlank with
        | '=' :: v => (spacedValueEnds v).findSome? (startTagTail? fuel)
        | _ => startTagTail? fuel afterName
      else none

/-- The text after a tag name and the part after it, where the text begins with a name. -/
def afterTagName? : List Char → Option (List Char)
  | [] => none
  | c :: r => if c.isAlpha then some (r.dropWhile isTagNamePart) else none

/-- The text after a start tag, from after its `<`. -/
def startTag? (s : List Char) : Option (List Char) := do
  startTagTail? (s.length + 1) (← afterTagName? s)

/-- The text after an end tag, from after its `<`. -/
def endTag? : List Char → Option (List Char)
  | '/' :: s => do
    match (← afterTagName? s).dropWhile isBlank with
    | '>' :: r => some r
    | _ => none
  | _ => none

/-! ### Other raw HTML -/

/-- The text after a comment, from after its `<!--`. Two hyphens may stand in a comment where no
closing bracket follows them. -/
def commentTail? : List Char → Option (List Char)
  | '-' :: '-' :: '>' :: r => some r
  | '-' :: '-' :: _ :: r => commentTail? r
  | ['-', '-'] => none
  | '-' :: _ :: r => commentTail? r
  | ['-'] => none
  | _ :: r => commentTail? r
  | [] => none

/-- The text after a comment, from after its `<!--`, where one or two hyphens fewer may close an
empty one. -/
def comment? : List Char → Option (List Char)
  | '>' :: r => some r
  | '-' :: '>' :: r => some r
  | s => commentTail? s

/-- The text after a piece of raw HTML. -/
def rawHtml? : List Char → Option (List Char)
  | '<' :: s =>
    match s with
    | '/' :: _ => endTag? s
    | '?' :: r => afterWord? ['?', '>'] r
    | '!' :: '-' :: '-' :: r => comment? r
    | '!' :: r =>
      if (r.head?.map Char.isAlpha).getD false then afterChar? '>' r
      else (dropExact? "[CDATA[".toList r).bind (afterWord? [']', ']', '>'])
    | _ => startTag? s
  | _ => none

/-! ### HTML blocks -/

/-- How an HTML block begins. -/
inductive HtmlBlockForm where
  /-- An element whose content is text of its own. -/
  | verbatim
  | comment
  | instruction
  | declaration
  | cdata
  /-- A tag of an element that structures a page. -/
  | structural
  /-- Any other tag, alone on its line. -/
  | loneTag
deriving DecidableEq, Repr

namespace HtmlBlockForm

/-- The elements of the first form. -/
def verbatimTags : List String :=
  ["script", "pre", "style", "textarea"]

/-- The elements of the sixth form. -/
def structuralTags : List String :=
  ["address", "article", "aside", "base", "basefont", "blockquote", "body", "caption", "center",
    "col", "colgroup", "dd", "details", "dialog", "dir", "div", "dl", "dt", "fieldset",
    "figcaption", "figure", "footer", "form", "frame", "frameset", "h1", "h2", "h3", "h4", "h5",
    "h6", "head", "header", "hr", "html", "iframe", "legend", "li", "link", "main", "menu",
    "menuitem", "nav", "noframes", "ol", "optgroup", "option", "p", "param", "search", "section",
    "summary", "table", "tbody", "td", "tfoot", "th", "thead", "title", "tr", "track", "ul"]

/-- A tag name ends where the text begins: at its end, at a blank or at a closing bracket. -/
def endsName : List Char → Bool
  | [] => true
  | c :: _ => isBlank c || c == '>'

/-- A tag name ends where the text begins, or a slash and a closing bracket follow. -/
def endsNameOrTag (s : List Char) : Bool :=
  endsName s || ['/', '>'].isPrefixOf s

/-- The text begins with one of the names in any case, and the name ends there. -/
def beginsName (names : List String) (ends : List Char → Bool) (s : List Char) : Bool :=
  names.any fun name ↦
    match Text.dropWordIgnoringCase? name.toList s with
    | some rest => ends rest
    | none => false

/-- A line is nothing but one tag. -/
def isLoneTag (s : List Char) : Bool :=
  match (startTag? s).or (endTag? s) with
  | some rest => rest.all isBlank
  | none => false

/-- The form of the block that a line begins. -/
def ofLine? : List Char → Option HtmlBlockForm
  | '<' :: s =>
    if beginsName verbatimTags endsName s then some verbatim
    else match s with
      | '!' :: '-' :: '-' :: _ => some comment
      | '?' :: _ => some instruction
      | _ =>
        if isDeclaration s then some declaration
        else if "![CDATA[".toList.isPrefixOf s then some cdata
        else if beginsName structuralTags endsNameOrTag (dropSlash s) then some structural
        else if isLoneTag s then some loneTag
        else none
  | _ => none
where
  isDeclaration : List Char → Bool
    | '!' :: c :: _ => c.isAlpha
    | _ => false
  dropSlash : List Char → List Char
    | '/' :: r => r
    | r => r

/-- A block of this form can interrupt a paragraph. -/
def interrupts (form : HtmlBlockForm) : Bool :=
  form != loneTag

/-- An end tag of an element of the first form begins the text. -/
def beginsVerbatimEnd : List Char → Bool
  | '<' :: '/' :: s => beginsName verbatimTags (fun rest ↦ rest.head? == some '>') s
  | _ => false

/-- A suffix of the text satisfies `p`. -/
def anySuffix (p : List Char → Bool) : List Char → Bool
  | [] => p []
  | c :: r => p (c :: r) || anySuffix p r

/-- The line ends a block of this form. -/
def endsAt (form : HtmlBlockForm) (line : List Char) : Bool :=
  match form with
  | verbatim => anySuffix beginsVerbatimEnd line
  | comment => (afterWord? ['-', '-', '>'] line).isSome
  | instruction => (afterWord? ['?', '>'] line).isSome
  | declaration => line.contains '>'
  | cdata => (afterWord? [']', ']', '>'] line).isSome
  | structural | loneTag => line.isEmpty

end HtmlBlockForm

end SafeMarkdown.Commonmark
