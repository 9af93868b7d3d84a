import SafeMarkdown.Html.Tree
import SafeMarkdown.Proofs.Outcome
import SafeMarkdown.Proofs.Syntax.Role

/-!
# What is refused

Reading HTML fails at two places only: at a marked section whose keyword is not known, and at a
reference by code with too many digits, in running text or in the value of an attribute. A step that
fails has its cause before it, and what is left after a step is an end of the text. So the cause of
a refusal is found in the text that is refused (`foundIn_of_parse`): the beginning of a marked
section, or the long number itself after its `&#`.

`Rejection.FoundIn` says what the cause is for each kind of refusal. In particular, a text without
square brackets and number signs is always read (`readable_of_not_mem`), and so is an end tag by
itself.

The proof goes down the reader: from a text to a step (`foundIn_of_tokensFrom`), from a step to the
kind of markup at its head (`foundIn_of_next`), and in a start tag to the attribute that holds the
number (`foundIn_of_mem_scanAttrs`). What is found in part of a text is found in the text
(`Rejection.FoundIn.mono`), which is why the cause may be named without its place.
-/

namespace SafeMarkdown.Html

/-- The characters that a marked section begins with. -/
def sectionMark : List Char := ['<', '!', '[']

/-- The cause of a refusal is in the text: the beginning of a marked section, or a number with so
many digits after a `&#`, which are more than a decimal is read with. -/
def Rejection.FoundIn (s : List Char) : Rejection → Prop
  | unknownKeyword _ | nameExpected _ => sectionMark <:+: s
  | longNumber digits => digitLimit < digits ∧ ∃ number : List Char, number.length = digits ∧
      (∀ d ∈ number, d.isDigit = true) ∧ '&' :: '#' :: number <:+: s

/-- The text holds a reference by code with more digits than a decimal is read with. -/
def HoldsLongNumber (s : List Char) : Prop :=
  ∃ digits, (Rejection.longNumber digits).FoundIn s

/-- What is found in a part of a text is found in the text. -/
theorem Rejection.FoundIn.mono {s t : List Char} {e : Rejection} (h : e.FoundIn s)
    (hst : s <:+: t) : e.FoundIn t := by
  cases e with
  | unknownKeyword | nameExpected => exact h.trans hst
  | longNumber digits =>
    obtain ⟨hlong, number, hlength, hdigits, hinfix⟩ := h
    exact ⟨hlong, number, hlength, hdigits, hinfix.trans hst⟩

/-- A number in part of a text is in the text. -/
theorem HoldsLongNumber.mono {s t : List Char} (h : HoldsLongNumber s) (hst : s <:+: t) :
    HoldsLongNumber t :=
  h.imp fun _ hfound ↦ hfound.mono hst

/-- A long number is found on one side of a character that it does not hold. -/
theorem HoldsLongNumber.of_append_cons {c : Char} {s t : List Char}
    (hc : c ≠ '&' ∧ c ≠ '#' ∧ c.isDigit = false) (h : HoldsLongNumber (s ++ c :: t)) :
    HoldsLongNumber s ∨ HoldsLongNumber t := by
  obtain ⟨digits, hlong, number, hlength, hdigits, hinfix⟩ := h
  have hfound {u : List Char} (hu : '&' :: '#' :: number <:+: u) : HoldsLongNumber u :=
    ⟨digits, hlong, number, hlength, hdigits, hu⟩
  have hmem : c ∉ '&' :: '#' :: number := by
    simp only [List.mem_cons, not_or]
    exact ⟨hc.1, hc.2.1, fun hmem ↦ Bool.false_ne_true (hc.2.2.symm.trans (hdigits c hmem))⟩
  rcases List.infix_append_iff.1 hinfix with h | h | ⟨a, b, hab, ha, hb⟩
  · exact .inl (hfound h)
  · rcases List.infix_cons_iff.1 h with ⟨u, hu⟩ | h
    · cases hu
      exact absurd rfl hc.1
    · exact .inr (hfound h)
  · -- the part on the right would begin with the character
    cases b with
    | nil =>
      rw [List.append_nil] at hab
      exact .inl (hfound (hab ▸ ha.isInfix))
    | cons d b =>
      obtain rfl : d = c := (List.cons_prefix_cons.1 hb).1
      exact absurd (hab ▸ List.mem_append_right a List.mem_cons_self) hmem

/-- A long number comes after a number sign. -/
theorem HoldsLongNumber.sharp_mem {s : List Char} (h : HoldsLongNumber s) : '#' ∈ s := by
  obtain ⟨_, -, number, -, -, hinfix⟩ := h
  exact hinfix.subset (List.mem_cons_of_mem _ List.mem_cons_self)

/-! ### Numbers -/

section Numbers

variable {s : List Char} {digits : Nat}

/-- A number with too many digits is found after its marks. -/
theorem foundIn_of_longDecimal? (h : longDecimal? s = some digits) :
    (Rejection.longNumber digits).FoundIn ('&' :: '#' :: s) := by
  unfold longDecimal? at h
  dsimp only at h
  split at h
  · rename_i hlong
    cases h
    have hprefix : '&' :: '#' :: s.takeWhile Char.isDigit <+: '&' :: '#' :: s :=
      (List.prefix_cons_inj _).2 ((List.prefix_cons_inj _).2 (List.takeWhile_prefix _))
    exact ⟨hlong, s.takeWhile Char.isDigit, rfl, fun _ hd ↦ List.mem_takeWhile_imp hd,
      hprefix.isInfix⟩
  · cases h

/-- So is one after a number sign. -/
theorem foundIn_of_longCode? (h : longCode? s = some digits) :
    (Rejection.longNumber digits).FoundIn ('&' :: s) := by
  unfold longCode? at h
  split at h
  · exact foundIn_of_longDecimal? h
  · cases h

/-- A value that is refused for a number holds that number. -/
theorem foundIn_of_longReference? (h : longReference? s = some digits) :
    (Rejection.longNumber digits).FoundIn s := by
  induction s with
  | nil => cases h
  | cons c r ih =>
    rw [longReference?, Option.or_eq_some_iff] at h
    rcases h with h | ⟨-, h⟩
    · split at h
      · rename_i hc
        rw [eq_of_beq hc]
        exact foundIn_of_longCode? h
      · cases h
    · exact (ih h).mono (List.suffix_cons c r).isInfix

end Numbers

/-! ### Attributes -/

section Attributes

variable {e : Rejection} {last : Char} {s : List Char} {digits : Nat}

/-- What a text is split into makes it up again. -/
theorem splitAtChar?_eq_append {q : Char} {s a b : List Char}
    (h : splitAtChar? q s = some (a, b)) : s = a ++ q :: b := by
  induction s generalizing a with
  | nil => cases h
  | cons c r ih =>
    rw [splitAtChar?] at h
    split at h
    · rename_i hc
      cases h
      rw [eq_of_beq hc, List.nil_append]
    · obtain ⟨⟨a', b'⟩, hr, hab⟩ := Option.map_eq_some_iff.1 h
      cases hab
      rw [ih hr, List.cons_append]

/-- A number does not begin with an equals sign. -/
theorem foundIn_of_cons_equals (h : (Rejection.longNumber digits).FoundIn ('=' :: s)) :
    (Rejection.longNumber digits).FoundIn s := by
  obtain ⟨hlong, number, hlength, hdigits, hinfix⟩ := h
  refine ⟨hlong, number, hlength, hdigits, (List.infix_cons_iff.1 hinfix).resolve_left ?_⟩
  rintro ⟨t, ht⟩
  cases ht

/-- A long number in a value stands in the text that the value is read from. -/
theorem foundIn_of_scanBody {missing : AttrValue} {spaced several : Bool}
    (hmissing : missing.value = none)
    (h : (Rejection.longNumber digits).FoundIn
      ((AttrValue.scanBody missing spaced several s).value.getD [])) :
    (Rejection.longNumber digits).FoundIn s := by
  have hnone : ¬ (Rejection.longNumber digits).FoundIn [] := by
    rintro ⟨-, number, -, -, hinfix⟩
    cases List.infix_nil.1 hinfix
  have hrun : s.takeWhile isBareValueChar <:+: s := (List.takeWhile_prefix _).isInfix
  unfold AttrValue.scanBody at h
  split at h
  · exact absurd h hnone
  · rename_i q t
    split at h
    · split at h
      · -- the value stands between its quotes
        rename_i value rest hsplit
        have hvalue : q :: (value ++ q :: rest) = [q] ++ value ++ q :: rest := by simp
        rw [splitAtChar?_eq_append hsplit, hvalue]
        exact h.mono (List.infix_append [q] value (q :: rest))
      · split at h
        · exact absurd h hnone
        · split at h
          · exact (foundIn_of_cons_equals h).mono hrun
          · rw [hmissing] at h
            exact absurd h hnone
    · exact h.mono hrun

/-- A number in a value is in the text that the value is scanned from. -/
theorem foundIn_of_scan (h : (Rejection.longNumber digits).FoundIn
    ((AttrValue.scan last s).value.getD [])) : (Rejection.longNumber digits).FoundIn s := by
  have hnone : ¬ (Rejection.longNumber digits).FoundIn [] := by
    rintro ⟨-, number, -, -, hinfix⟩
    cases List.infix_nil.1 hinfix
  have hbody : s.dropWhile Text.isBlank <:+ s := List.dropWhile_suffix _
  unfold AttrValue.scan at h
  dsimp only at h
  split at h
  · exact absurd h hnone
  · rename_i c r hr
    rw [hr] at hbody
    split at h
    · refine (foundIn_of_scanBody rfl h).mono ?_
      exact ((List.dropWhile_suffix _).trans ((List.dropWhile_suffix _).trans
        ((List.suffix_cons c r).trans hbody))).isInfix
    · exact absurd h hnone

/-- A number in the value of an attribute is in the text of the attributes. -/
theorem foundIn_of_mem_scanAttrs {allowed : Bool} {a : String × List Char}
    (ha : a ∈ (scanAttrs allowed s).1) (h : (Rejection.longNumber digits).FoundIn a.2) :
    (Rejection.longNumber digits).FoundIn s := by
  fun_induction scanAttrs allowed s with
  | case1 => cases ha
  | case2 allowed c r hstart attr others ih =>
    have hsuffix : attr.rest <:+ c :: r :=
      (ScannedAttr.suffix_scan c r).trans (List.suffix_cons c r)
    rcases List.mem_cons.1 ha with rfl | ha
    · exact (foundIn_of_scan h).mono
        ((List.dropWhile_suffix _).trans (List.suffix_cons c r)).isInfix
    · exact (ih ha).mono hsuffix.isInfix
  | case3 => cases ha

end Attributes

/-! ### Steps -/

/-- A start tag is refused for a number after it or for one before. -/
theorem StartTag.of_orRefused_eq_refused {tag : StartTag} {long : Option Nat} {digits : Nat}
    (h : tag.orRefused long = .refused digits) : tag = .refused digits ∨ long = some digits := by
  cases long with
  | none => exact .inl h
  | some _ =>
    cases h
    exact .inr rfl

/-- A start tag is refused for a number in one of its values. -/
theorem StartTag.foundIn_of_scan {s : List Char} {digits : Nat}
    (h : scan s = .refused digits) : (Rejection.longNumber digits).FoundIn s := by
  have hlong {allowed : Bool} (hlong : ((scanAttrs allowed
      (skipTagSpace (s.dropWhile isTagNameChar))).1.findSome? fun a ↦ longReference? a.2) =
        some digits) : (Rejection.longNumber digits).FoundIn s := by
    obtain ⟨a, ha, hvalue⟩ := List.exists_of_findSome?_eq_some hlong
    exact (foundIn_of_mem_scanAttrs ha (foundIn_of_longReference? hvalue)).mono
      ((skipTagSpace_suffix _).trans (List.dropWhile_suffix _)).isInfix
  unfold scan at h
  dsimp only at h
  split at h
  · exact hlong ((of_orRefused_eq_refused h).resolve_left (by simp))
  · exact hlong ((of_orRefused_eq_refused h).resolve_left (by simp))
  · cases h
  · split at h
    · cases h
    · exact hlong ((of_orRefused_eq_refused h).resolve_left (by simp))

/-- A declaration is refused only when it is a marked section. -/
theorem exists_of_declaration_eq_error {s : List Char} {e : Rejection}
    (h : declaration s = .error e) : ∃ r, s = '[' :: r := by
  unfold declaration at h
  split at h
  · cases h
  · rename_i r
    exact ⟨r, rfl⟩
  · cases h

/-- A marked section is refused for what it begins with. -/
theorem foundIn_of_declaration {s : List Char} {e : Rejection} (h : declaration s = .error e) :
    e.FoundIn ('<' :: '!' :: s) := by
  obtain ⟨r, rfl⟩ := exists_of_declaration_eq_error h
  have hmark : sectionMark <:+: '<' :: '!' :: '[' :: r := ⟨[], r, rfl⟩
  have hsection : markedSection r = .error e := h
  unfold markedSection at hsection
  dsimp only at hsection
  repeat' split at hsection
  all_goals
    cases hsection
  all_goals exact hmark

namespace Step

/-- A start tag is refused for a number in it. -/
theorem foundIn_of_startTag {final : Bool} {r : List Char} {e : Rejection}
    (h : startTag final r = .error e) : e.FoundIn r := by
  unfold startTag at h
  split at h
  · cases h
  · rename_i hscan
    cases h
    exact StartTag.foundIn_of_scan hscan
  · cases h
  · cases h

/-- Markup is refused for what it holds. -/
theorem foundIn_of_markup {final : Bool} {r : List Char} {e : Rejection}
    (h : markup final r = .error e) : e.FoundIn ('<' :: r) := by
  unfold markup at h
  split at h
  · cases h
  · rename_i c t
    split at h
    · exact (foundIn_of_startTag h).mono (List.suffix_cons _ _).isInfix
    · split at h
      · cases h
      · split at h
        · rename_i hc
          rw [eq_of_beq hc]
          exact foundIn_of_declaration (map_eq_error_iff.1 h)
        · split at h <;> cases h

/-- A reference is refused for its number. -/
theorem foundIn_of_reference {final : Bool} {r : List Char} {e : Rejection}
    (h : reference final r = .error e) : e.FoundIn ('&' :: r) := by
  unfold reference at h
  split at h
  · cases h
  · rename_i c t
    split at h
    · rename_i hc
      rw [eq_of_beq hc]
      unfold codeReference at h
      split at h
      · split at h
        · rename_i hlong
          cases h
          exact foundIn_of_longDecimal? hlong
        · cases h
      · split at h <;> cases h
    · split at h <;> cases h

/-- A step that fails has the cause before it. -/
theorem foundIn_of_next {final : Bool} {c : Char} {r : List Char} {e : Rejection}
    (h : next final c r = .error e) : e.FoundIn (c :: r) := by
  unfold next at h
  split at h
  · rename_i hc
    rw [eq_of_beq hc]
    exact foundIn_of_markup h
  · split at h
    · rename_i hc
      rw [eq_of_beq hc]
      exact foundIn_of_reference h
    · cases h

end Step

/-! ### Texts -/

/-- **The cause of a refusal is in the text.** It stands at the head of some end of the text, by the
step that fails. -/
theorem foundIn_of_tokensFrom {final : Bool} {s : List Char} {e : Rejection}
    (h : tokensFrom final s = .error e) : e.FoundIn s := by
  fun_induction tokensFrom final s with
  | case1 => cases h
  | case2 final c r e' hstep =>
    cases h
    exact Step.foundIn_of_next hstep
  | case3 final c r tokens rest hstep ih =>
    have hrest : rest <:+ r := Step.leavesEnd_next hstep
    exact (ih (map_eq_error_iff.1 h)).mono (hrest.trans (List.suffix_cons c r)).isInfix
  | case4 => cases h
  | case5 final c r tokens rest hstep hfinal ih =>
    have hrest : rest <:+ c :: r := Step.leavesEnd_next hstep
    exact (ih (map_eq_error_iff.1 h)).mono hrest.isInfix

/-- **The cause of a refusal is in the text.** -/
theorem foundIn_of_parse {source : String} {e : Rejection} (h : parse source = .error e) :
    e.FoundIn source.toList :=
  foundIn_of_tokensFrom (map_eq_error_iff.1 h)

/-- The text is read. -/
def Readable (source : String) : Prop :=
  ∃ nodes, parse source = .ok nodes

/-- A text that is refused cannot be read. -/
theorem not_readable_of_parse {source : String} {e : Rejection} (h : parse source = .error e) :
    ¬ Readable source := by
  rintro ⟨nodes, hnodes⟩
  rw [h] at hnodes
  cases hnodes

/-- A text is read or refused. -/
theorem readable_or_refused (source : String) :
    Readable source ∨ ∃ e, parse source = .error e := by
  cases h : parse source with
  | ok nodes => exact .inl ⟨nodes, h⟩
  | error e => exact .inr ⟨e, rfl⟩

/-- A text without square brackets and number signs is read. -/
theorem readable_of_not_mem {source : String} (hbracket : '[' ∉ source.toList)
    (hsharp : '#' ∉ source.toList) : Readable source := by
  refine (readable_or_refused source).resolve_right ?_
  rintro ⟨e, he⟩
  have hfound := foundIn_of_parse he
  cases e with
  | unknownKeyword | nameExpected => exact hbracket (hfound.subset (by decide))
  | longNumber digits => exact hsharp (HoldsLongNumber.sharp_mem ⟨digits, hfound⟩)

end SafeMarkdown.Html
