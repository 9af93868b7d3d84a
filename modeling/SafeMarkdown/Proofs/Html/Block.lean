import SafeMarkdown.Proofs.Html.Spelling
import SafeMarkdown.Proofs.Text.Split

/-!
# Spellings of tags in a block

A block is trimmed before the spellings of its tags are counted, but it is read as it is, with
whatever comes after it. The two texts hold nearly the same spellings. Blanks begin no tag, so what
counts is where the trimmed block ends. An end tag needs its closing bracket and is not completed by
what comes after (`countWithin_isEndTagAt_block`). A start tag only needs its name and one more
character, and that may be a blank that trimming takes off (`countWithin_isStartTagAt_block`).

What comes after is an element without content here, which holds one start tag and one end tag of
its name (`countWithin_probe_eq`).
-/

namespace SafeMarkdown.Html

open Syntax (countSuffixes IsStartTagAt IsEndTagAt EndsSpelling)
open Text (isBlank SpellsWord)

/-! ### Spellings at the end of a block -/

/-- The text is the beginning of a start tag, up to the end of its name. -/
def IsBareStart (tag : String) (s : List Char) : Prop :=
  s.head? = some '<' ∧ SpellsWord tag.toList s.tail

instance (tag : String) : DecidablePred (IsBareStart tag) := fun _ ↦
  inferInstanceAs (Decidable (_ ∧ _))

section Spellings

variable {tag : String} {c d : Char} {r t trail : List Char}

/-- Before a character that is no part of a name, a start tag is spelled, or the character ends the
name of one. -/
theorem isStartTagAt_append_cons_iff (htag : IsPlainName tag) (hd : ¬ IsSpelled d) :
    IsStartTagAt tag (c :: r ++ d :: t) ↔
      IsStartTagAt tag (c :: r) ∨ IsBareStart tag (c :: r) ∧ EndsSpelling d := by
  constructor
  · rintro ⟨word, e, rest, hs, hword, he⟩
    obtain ⟨rfl, hr⟩ := List.cons.inj hs
    have hmem : d ∉ word := fun hmem ↦ hd (isSpelled_of_mem htag hword d hmem)
    rcases Text.append_cons_eq_append_cons hmem hr.symm with ⟨u, rfl⟩ | ⟨rfl, rfl⟩
    · exact .inl ⟨word, e, u, rfl, hword, he⟩
    · exact .inr ⟨⟨rfl, hword⟩, he⟩
  · rintro (⟨word, e, rest, hs, hword, he⟩ | ⟨⟨hc, hword⟩, hends⟩)
    · exact ⟨word, e, rest ++ d :: t, by rw [hs]; simp, hword, he⟩
    · cases hc
      exact ⟨r, d, t, rfl, hword, hends⟩

/-- A start tag that is spelled whole goes on after its name. -/
theorem IsBareStart.not_isStartTagAt (htag : IsPlainName tag) (h : IsBareStart tag (c :: r)) :
    ¬ IsStartTagAt tag (c :: r) := by
  rintro ⟨word, e, rest, hs, -, he⟩
  obtain ⟨-, rfl⟩ := List.cons.inj hs
  exact (isSpelled_of_mem htag h.2 e (by simp)).not_endsSpelling he

/-- What comes after a block, blanks aside, begins with a bracket and completes no end tag. -/
theorem isEndTagAt_append_iff (htag : IsPlainName tag) (htrail : ∀ b ∈ trail, isBlank b = true) :
    IsEndTagAt tag (c :: r ++ (trail ++ '<' :: t)) ↔ IsEndTagAt tag (c :: r) := by
  constructor
  · rintro ⟨word, blanks, rest, hs, hword, hblanks⟩
    obtain ⟨rfl, hr⟩ := List.cons.inj hs
    cases r with
    | nil =>
      -- the slash would be a blank, or the bracket
      cases trail with
      | nil => cases hr
      | cons b trail =>
        have hslash := htrail b List.mem_cons_self
        rw [(List.cons.inj hr).1] at hslash
        cases hslash
    | cons e r =>
      obtain ⟨rfl, hr⟩ := List.cons.inj hr
      have hmem : '<' ∉ word ++ blanks := by
        rw [List.mem_append, not_or]
        refine ⟨fun h ↦ (isSpelled_of_mem htag hword _ h).notOpening rfl, fun h ↦ ?_⟩
        cases hblanks _ h
      have hbracket : '>' ∉ trail := fun h ↦ by cases htrail _ h
      have hshape : word ++ blanks ++ '>' :: rest = r ++ trail ++ '<' :: t := by
        simpa using hr.symm
      rcases Text.append_cons_eq_append_cons hmem hshape with ⟨u, hu⟩ | ⟨-, h⟩
      · -- the closing bracket is no blank, so it stands before the blanks at the end
        obtain ⟨v, rfl⟩ := Text.exists_of_append_cons hbracket hu.symm
        have hclosed : r = word ++ (blanks ++ '>' :: v) :=
          List.append_cancel_right (by simpa using hu)
        exact ⟨word, blanks, v, by rw [hclosed], hword, hblanks⟩
      · cases h
  · rintro ⟨word, blanks, rest, hs, hword, hblanks⟩
    exact ⟨word, blanks, rest ++ (trail ++ '<' :: t), by rw [hs]; simp, hword, hblanks⟩

end Spellings

/-! ### Counting in a block -/

/-- Counting the ends of a text that pass a test is counting places. -/
theorem countSuffixes_eq {p : List Char → Bool} {P : List Char → Prop} [DecidablePred P]
    (h : ∀ s, p s = true ↔ P s) (s : List Char) : countSuffixes p s = countWithin P s [] := by
  induction s with
  | nil => rfl
  | cons c r ih => simp only [countSuffixes, countWithin, ih, h, List.append_nil]

/-- Nothing that begins with a bracket is found in a text without one. -/
theorem countWithin_eq_zero {P : List Char → Prop} [DecidablePred P] {s : List Char}
    (hP : ∀ u, P u → u.head? = some '<') (hs : '<' ∉ s) (after : List Char) :
    countWithin P s after = 0 := by
  induction s with
  | nil => rfl
  | cons c r ih =>
    rw [List.mem_cons, not_or] at hs
    have hc : ¬ P (c :: r ++ after) := fun h ↦ hs.1 (Option.some.inj (hP _ h)).symm
    rw [countWithin, if_neg hc, ih hs.2]

/-- The text ends in a blank. -/
def EndsInBlank (s : List Char) : Prop :=
  ∃ c ∈ s.getLast?, isBlank c = true

instance : DecidablePred EndsInBlank := fun s ↦
  decidable_of_iff (s.getLast?.any isBlank = true) (Option.any_eq_true _ _)

/-- How many start tags of that name, at the end of a block, trimming cuts off after their name. -/
def cutOffStarts (tag : String) (s : List Char) : Nat :=
  if EndsInBlank s then countWithin (IsBareStart tag) (Text.trim s) [] else 0

section Counting

variable {tag : String} {d : Char} {s t trail : List Char}

/-- A spelled start tag begins with a bracket. -/
theorem head?_of_isStartTagAt (h : IsStartTagAt tag s) : s.head? = some '<' := by
  obtain ⟨_, _, _, rfl, -⟩ := h
  rfl

/-- So does a spelled end tag. -/
theorem head?_of_isEndTagAt (h : IsEndTagAt tag s) : s.head? = some '<' := by
  obtain ⟨_, _, _, rfl, -⟩ := h
  rfl

/-- What comes after a text completes no start tag in it, unless it ends the spelling of one. -/
theorem countWithin_isStartTagAt_cons (htag : IsPlainName tag) (hd : ¬ IsSpelled d) :
    countWithin (IsStartTagAt tag) s (d :: t) = countWithin (IsStartTagAt tag) s [] +
      if EndsSpelling d then countWithin (IsBareStart tag) s [] else 0 := by
  induction s with
  | nil => simp [countWithin]
  | cons c r ih =>
    have hiff := isStartTagAt_append_cons_iff (c := c) (r := r) (t := t) htag hd
    simp only [countWithin, hiff, ih, List.append_nil]
    by_cases hends : EndsSpelling d
    · by_cases hbare : IsBareStart tag (c :: r)
      · simp [hends, hbare, hbare.not_isStartTagAt htag]
        omega
      · simp [hends, hbare, Nat.add_assoc]
    · simp [hends]

/-- Blanks and a bracket after a text complete no end tag in it. -/
theorem countWithin_isEndTagAt_append (htag : IsPlainName tag)
    (htrail : ∀ b ∈ trail, isBlank b = true) :
    countWithin (IsEndTagAt tag) s (trail ++ '<' :: t) = countWithin (IsEndTagAt tag) s [] := by
  induction s with
  | nil => rfl
  | cons c r ih =>
    simp only [countWithin, isEndTagAt_append_iff htag htrail, ih, List.append_nil]

/-- What is found in a block with something after it is found in the trimmed block, before the
blanks that it ends in, or in what comes after. -/
theorem exists_countWithin_block {P : List Char → Prop} [DecidablePred P]
    (hP : ∀ u, P u → u.head? = some '<') (s t : List Char) :
    ∃ trail, (∀ b ∈ trail, isBlank b = true) ∧
      ((EndsInBlank s ↔ trail ≠ []) ∨ Text.trim s = []) ∧
      countWithin P (s ++ '<' :: t) [] =
        countWithin P (Text.trim s) (trail ++ '<' :: t) + countWithin P ('<' :: t) [] := by
  obtain ⟨lead, trail, hs, hlead, htrail⟩ := Text.exists_append_trim s
  have hnone {blanks : List Char} (h : ∀ b ∈ blanks, isBlank b = true) (after : List Char) :
      countWithin P blanks after = 0 :=
    countWithin_eq_zero hP (fun hmem ↦ by cases h _ hmem) after
  refine ⟨trail, htrail, ?_, ?_⟩
  · rcases List.eq_nil_or_concat' (Text.trim s) with htrim | ⟨front, c, htrim⟩
    · exact .inr htrim
    · refine .inl ?_
      have hc : isBlank c = false := Text.isBlank_of_getLast?_trim (s := s) (by simp [htrim])
      rcases List.eq_nil_or_concat' trail with rfl | ⟨blanks, b, rfl⟩
      · rw [hs, htrim]
        simp [EndsInBlank, hc]
      · have hb := htrail b (by simp)
        rw [hs]
        simp [EndsInBlank, ← List.append_assoc, hb]
  · have hshape : s ++ '<' :: t = lead ++ (Text.trim s ++ (trail ++ '<' :: t)) := by
      conv_lhs => rw [hs]
      simp
    rw [hshape, countWithin_append, countWithin_append, countWithin_append, hnone hlead,
      hnone htrail, Nat.zero_add, Nat.zero_add, List.append_nil]

/-- In a block with something after it, a start tag is spelled where it is in the trimmed block, or
at its end where a blank has been trimmed off. -/
theorem countWithin_isStartTagAt_block (htag : IsPlainName tag) (s t : List Char) :
    countWithin (IsStartTagAt tag) (s ++ '<' :: t) [] =
      countWithin (IsStartTagAt tag) (Text.trim s) [] + cutOffStarts tag s +
        countWithin (IsStartTagAt tag) ('<' :: t) [] := by
  obtain ⟨trail, htrail, hblank, hcount⟩ :=
    exists_countWithin_block (fun _ (h : IsStartTagAt tag _) ↦ head?_of_isStartTagAt h) s t
  rw [hcount, Nat.add_right_cancel_iff]
  have hempty (htrim : Text.trim s = []) (after : List Char) :
      countWithin (IsStartTagAt tag) (Text.trim s) after =
        countWithin (IsStartTagAt tag) (Text.trim s) [] + cutOffStarts tag s := by
    simp [htrim, cutOffStarts, countWithin]
  rcases hblank with hblank | htrim
  · cases trail with
    | nil =>
      have hends : ¬ EndsInBlank s := fun h ↦ hblank.1 h rfl
      rw [List.nil_append, countWithin_isStartTagAt_cons htag (by decide), if_neg (by decide),
        cutOffStarts, if_neg hends]
    | cons b trail =>
      have hb := htrail b List.mem_cons_self
      have hspelled : ¬ IsSpelled b := fun h ↦ Bool.false_ne_true (h.notBlank.symm.trans hb)
      rw [List.cons_append, countWithin_isStartTagAt_cons htag hspelled, if_pos (.inl hb),
        cutOffStarts, if_pos (hblank.2 (List.cons_ne_nil _ _))]
  · exact hempty htrim _

/-- In a block with something after it, an end tag is spelled where it is in the trimmed block. -/
theorem countWithin_isEndTagAt_block (htag : IsPlainName tag) (s t : List Char) :
    countWithin (IsEndTagAt tag) (s ++ '<' :: t) [] =
      countWithin (IsEndTagAt tag) (Text.trim s) [] +
        countWithin (IsEndTagAt tag) ('<' :: t) [] := by
  obtain ⟨trail, htrail, -, hcount⟩ :=
    exists_countWithin_block (fun _ (h : IsEndTagAt tag _) ↦ head?_of_isEndTagAt h) s t
  rw [hcount, countWithin_isEndTagAt_append htag htrail]

/-! ### The element after a block -/

/-- The element after a block has brackets at two places only. -/
theorem countWithin_probe {P : List Char → Prop} [DecidablePred P]
    (hP : ∀ u, P u → u.head? = some '<') :
    countWithin P "<x-probe></x-probe>".toList [] =
      (if P "<x-probe></x-probe>".toList then 1 else 0) +
        if P "</x-probe>".toList then 1 else 0 := by
  have hname (after : List Char) : countWithin P "x-probe>".toList after = 0 :=
    countWithin_eq_zero hP (by decide) after
  have hend (after : List Char) : countWithin P "/x-probe>".toList after = 0 :=
    countWithin_eq_zero hP (by decide) after
  show countWithin P ('<' :: ("x-probe>".toList ++ '<' :: "/x-probe>".toList)) [] = _
  rw [countWithin, countWithin_append, hname, countWithin, hend, Nat.zero_add, Nat.add_zero]
  rfl

/-- A start tag without attributes is a spelling of its own name only. -/
theorem isStartTagAt_plain_iff {name : List Char} (htag : IsPlainName tag)
    (hname : ∀ c ∈ name, ¬ EndsSpelling c) :
    IsStartTagAt tag ('<' :: name ++ '>' :: t) ↔ SpellsWord tag.toList name := by
  have hnone : ¬ IsStartTagAt tag ('<' :: name) := by
    rintro ⟨word, e, rest, hs, -, he⟩
    obtain ⟨-, rfl⟩ := List.cons.inj hs
    exact hname e (by simp) he
  rw [isStartTagAt_append_cons_iff htag (by decide), or_iff_right hnone]
  exact ⟨fun h ↦ h.1.2, fun h ↦ ⟨⟨rfl, h⟩, by decide⟩⟩

/-- An end tag without blanks is a spelling of its own name only. -/
theorem isEndTagAt_plain_iff {name : List Char} (htag : IsPlainName tag)
    (hname : ∀ c ∈ name, ¬ EndsSpelling c) :
    IsEndTagAt tag ('<' :: '/' :: (name ++ '>' :: t)) ↔ SpellsWord tag.toList name := by
  constructor
  · rintro ⟨word, blanks, rest, hs, hword, hblanks⟩
    have hshape : word ++ blanks ++ '>' :: rest = name ++ '>' :: t := by
      simpa using (List.cons.inj (List.cons.inj hs).2).2.symm
    have hbracket : '>' ∉ word ++ blanks := by
      rw [List.mem_append, not_or]
      refine ⟨fun h ↦ (isSpelled_of_mem htag hword _ h).notClosing rfl, fun h ↦ ?_⟩
      cases hblanks _ h
    rcases Text.append_cons_eq_append_cons hbracket hshape with ⟨u, rfl⟩ | ⟨rfl, -⟩
    · exact absurd (.inr (.inr rfl)) (hname '>' (by simp))
    · cases blanks with
      | nil => rwa [List.append_nil]
      | cons b blanks =>
        exact absurd (.inl (hblanks b List.mem_cons_self)) (hname b (by simp))
  · exact fun h ↦ ⟨name, [], t, rfl, h, List.forall_mem_nil _⟩

/-- Behind a bracket, an end tag begins with a slash and a start tag does not. -/
theorem not_isStartTagAt_slash (htag : IsPlainName tag) (t : List Char) :
    ¬ IsStartTagAt tag ('<' :: '/' :: t) := by
  rintro ⟨word, e, rest, hs, hword, -⟩
  cases word with
  | nil =>
    obtain ⟨c, r, hname, -⟩ := htag
    rw [hname] at hword
    cases hword
  | cons c word =>
    have hslash := (isSpelled_of_mem htag hword c List.mem_cons_self).notSlash
    exact hslash (List.cons.inj (List.cons.inj hs).2).1.symm

/-- An end tag needs a slash. -/
theorem not_isEndTagAt_cons {c : Char} (hc : c ≠ '/') (t : List Char) :
    ¬ IsEndTagAt tag ('<' :: c :: t) := by
  rintro ⟨word, blanks, rest, hs, -⟩
  exact hc (List.cons.inj (List.cons.inj hs).2).1

/-- The element after a block has one start tag and one end tag, whatever its name. -/
theorem countWithin_probe_eq (htag : IsPlainName tag) :
    countWithin (IsStartTagAt tag) "<x-probe></x-probe>".toList [] =
      countWithin (IsEndTagAt tag) "<x-probe></x-probe>".toList [] := by
  have hplain : IsPlainName "x-probe" := by decide
  have hword : SpellsWord "x-probe".toList "x-probe".toList := by decide
  have hname (c : Char) (hc : c ∈ "x-probe".toList) : ¬ EndsSpelling c :=
    (isSpelled_of_mem hplain hword c hc).not_endsSpelling
  have hspelled : IsStartTagAt tag "<x-probe></x-probe>".toList ↔
      IsEndTagAt tag "</x-probe>".toList :=
    (isStartTagAt_plain_iff (t := "</x-probe>".toList) htag hname).trans
      (isEndTagAt_plain_iff (t := []) htag hname).symm
  have hstart : ¬ IsStartTagAt tag "</x-probe>".toList := not_isStartTagAt_slash htag _
  have hend : ¬ IsEndTagAt tag "<x-probe></x-probe>".toList := not_isEndTagAt_cons (by decide) _
  rw [countWithin_probe fun _ ↦ head?_of_isStartTagAt, countWithin_probe fun _ ↦
    head?_of_isEndTagAt, if_neg hstart, if_neg hend, Nat.add_zero, Nat.zero_add]
  exact if_congr hspelled rfl rfl

end Counting

end SafeMarkdown.Html
