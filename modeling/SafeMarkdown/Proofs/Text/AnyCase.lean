import Mathlib.Data.List.Forall2
import SafeMarkdown.Proofs.Text.Case

/-!
# Words in any case

A word of ASCII may be spelled in any case, where case is understood widely: `SpellsWord`. Dropping
the word from the head of a text means that a spelling of it stands there
(`dropWordIgnoringCase?_eq_some_iff`).

The other way to find a word in a text is to take its lower case. What has the lower case of a word
spells the word (`spellsWord_of_lower_eq`), since only one character outside ASCII has a lower case
in it, the Kelvin sign. The converse fails: a long s spells s, but has no other lower case than
itself.
-/

namespace SafeMarkdown.Text

/-- The text spells the word in any case, character by character. -/
def SpellsWord (word s : List Char) : Prop :=
  List.Forall₂ (fun p c ↦ matchesIgnoringCase p c = true) word s

instance (word s : List Char) : Decidable (SpellsWord word s) :=
  inferInstanceAs (Decidable (List.Forall₂ _ _ _))

variable {word s rest : List Char}

/-- The empty word has one spelling. -/
theorem spellsWord_nil_iff : SpellsWord [] s ↔ s = [] :=
  List.forall₂_nil_left_iff

/-- A spelling of a word goes character by character. -/
theorem spellsWord_cons_iff {p : Char} : SpellsWord (p :: word) s ↔
    ∃ c u, matchesIgnoringCase p c = true ∧ SpellsWord word u ∧ s = c :: u :=
  List.forall₂_cons_left_iff

/-- **A word is dropped where a spelling of it stands.** -/
theorem dropWordIgnoringCase?_eq_some_iff :
    dropWordIgnoringCase? word s = some rest ↔ ∃ u, SpellsWord word u ∧ s = u ++ rest := by
  induction word generalizing s with
  | nil =>
    constructor
    · rintro ⟨⟩
      exact ⟨[], .nil, rfl⟩
    · rintro ⟨u, hu, rfl⟩
      rw [spellsWord_nil_iff.1 hu]
      rfl
  | cons p word ih =>
    constructor
    · intro h
      cases s with
      | nil => cases h
      | cons c s =>
        rw [dropWordIgnoringCase?] at h
        split at h
        · rename_i hc
          obtain ⟨u, hu, rfl⟩ := ih.1 h
          exact ⟨c :: u, .cons hc hu, rfl⟩
        · cases h
    · rintro ⟨u, hu, rfl⟩
      obtain ⟨c, v, hc, hv, rfl⟩ := spellsWord_cons_iff.1 hu
      rw [List.cons_append, dropWordIgnoringCase?, if_pos hc]
      exact ih.2 ⟨v, hv, rfl⟩

/-- Every character of a spelling matches one of the word. -/
theorem SpellsWord.exists_of_mem (h : SpellsWord word s) :
    ∀ c ∈ s, ∃ p ∈ word, matchesIgnoringCase p c = true := by
  induction h with
  | nil => exact List.forall_mem_nil _
  | @cons p c word s hc _ ih =>
    refine List.forall_mem_cons.2 ⟨⟨p, List.mem_cons_self, hc⟩, fun d hd ↦ ?_⟩
    obtain ⟨q, hq, hmatch⟩ := ih d hd
    exact ⟨q, List.mem_cons_of_mem p hq, hmatch⟩

/-- A spelling at the head of a text is dropped. -/
theorem SpellsWord.dropWordIgnoringCase? (h : SpellsWord word s) (rest : List Char) :
    dropWordIgnoringCase? word (s ++ rest) = some rest :=
  dropWordIgnoringCase?_eq_some_iff.2 ⟨s, h, rfl⟩

/-! ### Lower case -/

/-- The run maps nothing to ASCII from outside it, the Kelvin sign set aside. -/
def CaseRun.KeepsOutside (r : CaseRun) : Prop :=
  r.last < 128 ∨ 128 ≤ r.first + r.offset ∨ r.first = 0x212A ∧ r.last = 0x212A

instance (r : CaseRun) : Decidable r.KeepsOutside :=
  inferInstanceAs (Decidable (_ ∨ _ ∨ _))

/-- No run of lower case leads from outside ASCII into a word. -/
theorem keepsOutside_lowerRuns : ∀ r ∈ lowerRuns, r.KeepsOutside := by
  decide +kernel

/-- Every expansion has a character outside ASCII. -/
theorem exists_high_lowerExpansions : ∀ e ∈ lowerExpansions,
    ∃ n ∈ e.2, 128 ≤ (Char.ofNat n).toNat := by
  decide

/-- Outside ASCII, only the Kelvin sign has its lower case in ASCII. -/
theorem eq_kelvin_of_lt {c : Char} (hc : 128 ≤ c.toNat)
    (h : (Char.ofNat (applyRuns lowerRuns c.toNat)).toNat < 128) : c.toNat = 0x212A := by
  unfold applyRuns at h
  split at h
  · rename_i r hr
    have hrun := isHigh_lowerRuns r (Array.mem_of_find?_eq_some hr)
    have hkeeps := keepsOutside_lowerRuns r (Array.mem_of_find?_eq_some hr)
    have hin := Array.find?_some hr
    simp only [Bool.and_eq_true, decide_eq_true_eq] at hin
    unfold CaseRun.IsHigh at hrun
    unfold CaseRun.KeepsOutside at hkeeps
    rw [toNat_ofNat_of_isValidChar] at h
    · omega
    · unfold Nat.isValidChar
      omega
  · rw [Char.ofNat_toNat] at h
    omega

/-- A character whose lower case is in ASCII has one character for it, which it matches in any
case. -/
theorem exists_lowerChar_eq {c : Char} (h : ∀ d ∈ lowerChar c, d.toNat < 128) :
    ∃ p, lowerChar c = [p] ∧ matchesIgnoringCase p c = true := by
  by_cases hc : c.toNat < 128
  · refine ⟨c.toLower, if_pos hc, ?_⟩
    simp [matchesIgnoringCase]
  · have hmap : lowerChar c = mapCase lowerRuns lowerExpansions c := if_neg hc
    rw [hmap, mapCase] at h ⊢
    split at h
    · rename_i e he
      obtain ⟨n, hn, hhigh⟩ := exists_high_lowerExpansions e (Array.mem_of_find?_eq_some he)
      exact absurd (h _ (List.mem_map_of_mem hn)) (by omega)
    · have hkelvin := eq_kelvin_of_lt (by omega) (h _ (List.mem_singleton_self _))
      have himage : Char.ofNat (applyRuns lowerRuns 0x212A) = 'k' := by decide +kernel
      refine ⟨'k', ?_, ?_⟩
      · rw [hkelvin, himage]
      · simp [matchesIgnoringCase, hkelvin]

/-- **What has the lower case of a word spells it.** -/
theorem spellsWord_of_lower_eq (hword : ∀ p ∈ word, p.toNat < 128) (h : lower s = word) :
    SpellsWord word s := by
  suffices hfrom : ∀ before, lowerFrom before s = word → SpellsWord word s from hfrom [] h
  clear h
  induction s generalizing word with
  | nil =>
    rintro before rfl
    exact .nil
  | cons c s ih =>
    rintro before rfl
    rw [lowerFrom] at hword ⊢
    split at hword
    · -- neither of the two small letters of a capital sigma is in ASCII
      have hsigma := hword _ List.mem_cons_self
      exact absurd hsigma (by split <;> decide)
    · rename_i hsigma
      obtain ⟨hc, hs⟩ := List.forall_mem_append.1 hword
      obtain ⟨p, hp, hmatch⟩ := exists_lowerChar_eq hc
      rw [if_neg hsigma, hp]
      exact .cons hmatch (ih hs _ rfl)

end SafeMarkdown.Text
