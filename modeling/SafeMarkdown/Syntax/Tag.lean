import SafeMarkdown.Markup.Html
import SafeMarkdown.Syntax.Node
import SafeMarkdown.Text.Blank
import SafeMarkdown.Text.Case

/-!
# Tags in raw HTML

Raw HTML in running text comes tag by tag, and in blocks it comes as lines. Either way, a piece of
it may open an element or close one. `roleInline` and `roleBlock` say what a piece does, judged by
its source alone: an inline piece opens an element with a start tag that is not closed at once, and
a block does so when it begins with a start tag and has more start tags of that name than end tags.
-/

namespace SafeMarkdown.Syntax

open Text (isBlank)

/-- The characters of a tag name after its first letter. -/
def isTagNamePart (c : Char) : Bool :=
  c.isAlphanum || c == '-'

/-- A tag name at the head of the text, in lower case, and the text after it. -/
def tagName? : List Char → Option (String × List Char)
  | [] => none
  | c :: r =>
    if c.isAlpha then
      some (.ofList (Text.asciiLower (c :: r.takeWhile isTagNamePart)), r.dropWhile isTagNamePart)
    else none

/-- The name of the start tag that the text begins with. -/
def startTagName? : List Char → Option String
  | '<' :: r => (tagName? r).map Prod.fst
  | _ => none

/-- The name of the end tag that the text is, blanks around it left aside. -/
def endTagName? (s : List Char) : Option String :=
  match Text.trim s with
  | '<' :: '/' :: r =>
    match tagName? r with
    | some (name, rest) => if rest.dropWhile isBlank = ['>'] then some name else none
    | none => none
  | _ => none

/-- The start tag of that name closes its element at once: it ends in a slash, or the element is
void. -/
def isSelfClosing (s : List Char) (name : String) : Bool :=
  ['/', '>'].isSuffixOf (Text.trimRight s) || name ∈ Markup.voidTags

/-- The text before its first closing bracket ends in a slash. -/
def beginsSelfClosed (s : List Char) : Bool :=
  s.contains '>' && (s.takeWhile (· != '>')).getLast? == some '/'

/-- How many suffixes of the text satisfy `p`. -/
def countSuffixes (p : List Char → Bool) : List Char → Nat
  | [] => 0
  | c :: r => (if p (c :: r) then 1 else 0) + countSuffixes p r

/-- The text begins with a start tag of that name in any case. -/
def beginsStartTag (name : List Char) : List Char → Bool
  | '<' :: r =>
    match Text.dropWordIgnoringCase? name r with
    | some (c :: _) => isBlank c || c == '/' || c == '>'
    | _ => false
  | _ => false

/-- The text begins with an end tag of that name in any case. -/
def beginsEndTag (name : List Char) : List Char → Bool
  | '<' :: '/' :: r =>
    match Text.dropWordIgnoringCase? name r with
    | some s => (s.dropWhile isBlank).head? == some '>'
    | none => false
  | _ => false

/-- The name of the element that an HTML block opens and does not close. -/
def unclosedTag? (s : List Char) : Option String :=
  let s := Text.trim s
  match startTagName? s with
  | none => none
  | some name =>
    if name ∈ Markup.voidTags || beginsSelfClosed s then none
    else if countSuffixes (beginsEndTag name.toList) s <
        countSuffixes (beginsStartTag name.toList) s then some name
    else none

/-- What a piece of raw HTML does to the elements that are open. -/
inductive TagRole where
  | opening (name : String)
  | closing (name : String)
  | neither
deriving DecidableEq, Repr

/-- An opening role where there is a name. -/
def TagRole.ofOpening? : Option String → TagRole
  | some name => opening name
  | none => neither

/-- The role of a tag in running text. -/
def roleInline (source : String) : TagRole :=
  let s := source.toList
  match endTagName? s with
  | some name => .closing name
  | none => .ofOpening? ((startTagName? s).filter fun name ↦ !isSelfClosing s name)

/-- The role of an HTML block. -/
def roleBlock (source : String) : TagRole :=
  let s := source.toList
  match endTagName? s with
  | some name => .closing name
  | none => .ofOpening? (unclosedTag? s)

/-- The role of a node among siblings where only nodes of `kind` have one. -/
def Node.role (kind : Kind) (n : Node) : TagRole :=
  if n.kind = kind then
    if kind = .htmlBlock then roleBlock n.content else roleInline n.content
  else .neither

end SafeMarkdown.Syntax
