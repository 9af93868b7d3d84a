import SafeMarkdown.Html.Reference
import SafeMarkdown.KeyedList
import SafeMarkdown.Markup.Node
import SafeMarkdown.Text.Blank
import SafeMarkdown.Text.Case

/-!
# Start tags

A start tag is read tolerantly. Its name runs to the first HTML space, slash, closing bracket or
NUL. An attribute may begin after a blank, a slash or a quote; its value is quoted or runs to the
next blank or closing bracket, and several equals signs count as one. An opening quote without a
closing one is no value. Whatever cannot be read this way ends the tag: as an incomplete one where
more text could complete it, and as plain text otherwise.

The values are decoded once the end of the tag is found, and also when it turns out to be plain
text. A number in a value that is too long to be read is an error in both cases.
-/

namespace SafeMarkdown.Html

open Text (isBlank)

/-- The characters that may follow the first letter of a tag name. -/
def isTagNameChar (c : Char) : Bool :=
  !(Text.isHtmlSpace c || c == '/' || c == '>' || c == '\x00')

/-- The first character of an attribute name. -/
def isAttrStart (c : Char) : Bool :=
  !(isBlank c || c == '/' || c == '>')

/-- The characters that may follow the first one of an attribute name. -/
def isAttrPart (c : Char) : Bool :=
  isAttrStart c && c != '='

/-- The characters of a value without quotes. -/
def isBareValueChar (c : Char) : Bool :=
  !(c == '>' || isBlank c)

/-- The character is a quote. -/
def isQuote (c : Char) : Bool :=
  c == '"' || c == '\''

/-- An attribute may begin right after this character. -/
def allowsAttrAfter (c : Char) : Bool :=
  isQuote c || isBlank c || c == '/'

/-- Drops blanks and slashes, save for a slash that ends the tag. -/
def skipTagSpace : List Char → List Char
  | [] => []
  | c :: r => if isBlank c || (c == '/' && r.head? != some '>') then skipTagSpace r else c :: r

theorem skipTagSpace_suffix (s : List Char) : skipTagSpace s <:+ s := by
  induction s with
  | nil => exact List.suffix_refl _
  | cons c r ih =>
    rw [skipTagSpace]
    split
    · exact ih.trans (List.suffix_cons c r)
    · exact List.suffix_refl _

/-- The text up to the first occurrence of `q`, and the text after it. -/
def splitAtChar? (q : Char) : List Char → Option (List Char × List Char)
  | [] => none
  | c :: r => if c == q then some ([], r) else (splitAtChar? q r).map fun (a, b) ↦ (c :: a, b)

theorem suffix_of_splitAtChar? {q : Char} {s a b : List Char}
    (h : splitAtChar? q s = some (a, b)) : b <:+ s := by
  induction s generalizing a with
  | nil => simp [splitAtChar?] at h
  | cons c r ih =>
    unfold splitAtChar? at h
    split at h
    · simp only [Option.some.injEq, Prod.mk.injEq] at h
      rw [← h.2]
      exact List.suffix_cons c r
    · simp only [Option.map_eq_some_iff, Prod.exists, Prod.mk.injEq] at h
      obtain ⟨a', b', hr, -, rfl⟩ := h
      exact (ih hr).trans (List.suffix_cons c r)

/-- The value of an attribute, with the quotes taken off; `next` tells that another attribute may
begin at once. -/
structure AttrValue where
  value : Option (List Char)
  next : Bool
  rest : List Char

/-- The value that begins the text after the equals signs. `spaced` tells that blanks stood before
it, and `several` that there were several signs; `missing` is the answer where no value begins. -/
def AttrValue.scanBody (missing : AttrValue) (spaced several : Bool) (body : List Char) :
    AttrValue :=
  match body with
  | [] => ⟨some [], true, []⟩
  | q :: t =>
    if isQuote q then
      match splitAtChar? q t with
      | some (value, rest) => ⟨some value, true, rest⟩
      | none =>
        if spaced then ⟨some [], true, body⟩
        else if several then
          ⟨some ('=' :: body.takeWhile isBareValueChar), false, body.dropWhile isBareValueChar⟩
        else missing
    else ⟨some (body.takeWhile isBareValueChar), false, body.dropWhile isBareValueChar⟩

/-- The value that follows the name of an attribute, whose last character is `last`. -/
def AttrValue.scan (last : Char) (s : List Char) : AttrValue :=
  let missing : AttrValue := ⟨none, allowsAttrAfter last, s⟩
  match s.dropWhile isBlank with
  | [] => missing
  | c :: r =>
    if c == '=' then
      let afterSigns := r.dropWhile (· == '=')
      let body := afterSigns.dropWhile isBlank
      scanBody missing (body.length < afterSigns.length) (afterSigns.length < r.length) body
    else missing

theorem AttrValue.suffix_scanBody {missing : AttrValue} {body s : List Char}
    (hm : missing.rest <:+ s) (hb : body <:+ s) (spaced several : Bool) :
    (scanBody missing spaced several body).rest <:+ s := by
  have bare := (List.dropWhile_suffix isBareValueChar).trans hb
  unfold scanBody
  split
  · exact List.nil_suffix
  · rename_i q t
    split
    · split
      · rename_i h
        exact (suffix_of_splitAtChar? h).trans ((List.suffix_cons q t).trans hb)
      · split
        · exact hb
        · split
          · exact bare
          · exact hm
    · exact bare

theorem AttrValue.suffix_scan (last : Char) (s : List Char) : (scan last s).rest <:+ s := by
  have hs : s.dropWhile isBlank <:+ s := List.dropWhile_suffix _
  unfold scan
  simp only
  split
  · exact List.suffix_refl _
  · rename_i c r hr
    rw [hr] at hs
    split
    · refine suffix_scanBody (List.suffix_refl _) ?_ _ _
      exact (List.dropWhile_suffix _).trans
        ((List.dropWhile_suffix _).trans ((List.suffix_cons c r).trans hs))
    · exact List.suffix_refl _

/-- An attribute as it was read: its name and its value as it is written, and whether another may
begin at `rest`. -/
structure ScannedAttr where
  attr : String × List Char
  next : Bool
  rest : List Char

/-- The attribute whose name begins with `c` and goes on in the text. -/
def ScannedAttr.scan (c : Char) (s : List Char) : ScannedAttr :=
  let name := c :: s.takeWhile isAttrPart
  let v := AttrValue.scan (name.getLastD c) (s.dropWhile isAttrPart)
  let rest := skipTagSpace v.rest
  ⟨(.ofList (Text.lower name), v.value.getD []), v.next || rest.length < v.rest.length, rest⟩

theorem ScannedAttr.suffix_scan (c : Char) (s : List Char) : (scan c s).rest <:+ s :=
  (skipTagSpace_suffix _).trans ((AttrValue.suffix_scan _ _).trans (List.dropWhile_suffix _))

/-- The attributes at the head of the text, with the text after them. `allowed` tells that an
attribute may begin here. -/
def scanAttrs (allowed : Bool) (s : List Char) : List (String × List Char) × List Char :=
  match s with
  | [] => ([], [])
  | c :: r =>
    if allowed && isAttrStart c then
      let a := ScannedAttr.scan c r
      let others := scanAttrs a.next a.rest
      (a.attr :: others.1, others.2)
    else ([], c :: r)
termination_by s.length
decreasing_by exact Nat.lt_succ_of_le (ScannedAttr.suffix_scan c r).length_le

theorem suffix_scanAttrs (allowed : Bool) (s : List Char) : (scanAttrs allowed s).2 <:+ s := by
  fun_induction scanAttrs allowed s with
  | case1 => exact List.suffix_refl _
  | case2 allowed c r h a others ih =>
    exact ih.trans ((ScannedAttr.suffix_scan c r).trans (List.suffix_cons c r))
  | case3 => exact List.suffix_refl _

/-- What stands at the place of a start tag. -/
inductive StartTag where
  /-- A whole tag, with the text after it. -/
  | complete (name : String) (attrs : List Attr) (selfClosing : Bool) (rest : List Char)
  /-- A value holds a number of so many digits, which are too many. -/
  | refused (digits : Nat)
  /-- No tag, but text up to `rest`. -/
  | junk (rest : List Char)
  /-- A tag that the end of the text cuts off. -/
  | incomplete

/-- What is read, or a refusal where a value holds a number of too many digits. -/
def StartTag.orRefused (tag : StartTag) (long : Option Nat) : StartTag :=
  long.elim tag refused

theorem StartTag.eq_of_orRefused {tag tag' : StartTag} {long : Option Nat}
    (h : tag.orRefused long = tag') (hread : ∀ digits, tag' ≠ refused digits) : tag = tag' := by
  cases long with
  | none => exact h
  | some digits => exact absurd h.symm (hread digits)

/-- Reads the start tag whose name begins the text. A repeated attribute keeps its first place and
its last value. -/
def StartTag.scan (s : List Char) : StartTag :=
  let name := s.takeWhile isTagNameChar
  let afterName := s.dropWhile isTagNameChar
  let body := skipTagSpace afterName
  let allowed := body.length < afterName.length || (name.getLast?.map allowsAttrAfter).getD false
  let (attrs, rest) := scanAttrs allowed body
  let long := attrs.findSome? fun a ↦ longReference? a.2
  let attrs := (mergePairs attrs).map fun a ↦ (a.1, String.ofList (unescape a.2))
  let name := String.ofList (Text.lower name)
  match rest with
  | '>' :: r => (complete name attrs false r).orRefused long
  | '/' :: '>' :: r => (complete name attrs true r).orRefused long
  | [] => .incomplete
  | c :: _ =>
    if c.isAlpha || c == '=' || c == '/' then .incomplete else (junk rest).orRefused long

/-- The text after a start tag, or after the text that stands in its place. -/
def StartTag.rest? : StartTag → Option (List Char)
  | complete _ _ _ rest => some rest
  | junk rest => some rest
  | refused _ | incomplete => none

theorem StartTag.rest?_of_orRefused {tag : StartTag} {long : Option Nat} {r : List Char}
    (h : (tag.orRefused long).rest? = some r) : tag.rest? = some r := by
  cases long with
  | none => exact h
  | some _ => cases h

theorem StartTag.suffix_of_rest? {s r : List Char} (h : (scan s).rest? = some r) : r <:+ s := by
  have hattrs (allowed : Bool) :
      (scanAttrs allowed (skipTagSpace (s.dropWhile isTagNameChar))).2 <:+ s :=
    (suffix_scanAttrs _ _).trans ((skipTagSpace_suffix _).trans (List.dropWhile_suffix _))
  unfold scan at h
  simp only at h
  generalize hb : (_ || _ : Bool) = allowed at h
  have hrest := hattrs allowed
  split at h
  · rename_i hr
    cases rest?_of_orRefused h
    rw [hr] at hrest
    exact (List.suffix_cons _ _).trans hrest
  · rename_i hr
    cases rest?_of_orRefused h
    rw [hr] at hrest
    exact (List.suffix_cons _ _).trans ((List.suffix_cons _ _).trans hrest)
  · cases h
  · split at h
    · cases h
    · cases rest?_of_orRefused h
      exact hrest

end SafeMarkdown.Html
