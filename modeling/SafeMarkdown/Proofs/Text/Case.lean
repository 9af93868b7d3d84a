import Mathlib.Data.List.Basic
import SafeMarkdown.Text.Case

/-!
# What lower case leaves alone

Lower case maps some characters outside ASCII to ASCII letters, so a name may gain letters by it.
It never gains one of the characters that come before the letters, such as a slash or an angle
bracket: `mem_of_mem_lower`. For the tables of runs and expansions that is checked run by run. On
ASCII, lower case is that of ASCII (`lower_eq_asciiLower`), so a text of ASCII without capital
letters stays as it is: `lower_eq_self`.
-/

namespace SafeMarkdown.Text

/-- All images under the run are characters that do not come before the ASCII letters. -/
def CaseRun.IsHigh (r : CaseRun) : Prop :=
  65 ≤ r.first + r.offset ∧
    (r.last + r.offset < 0xD800 ∨ 0xDFFF < r.first + r.offset ∧ r.last + r.offset < 0x110000)

instance (r : CaseRun) : Decidable r.IsHigh :=
  inferInstanceAs (Decidable (_ ∧ _))

/-- No run of lower case leads below the letters. -/
theorem isHigh_lowerRuns : ∀ r ∈ lowerRuns, r.IsHigh := by
  decide +kernel

/-- No expansion holds a character below the letters. -/
theorem high_lowerExpansions : ∀ e ∈ lowerExpansions, ∀ n ∈ e.2, 65 ≤ (Char.ofNat n).toNat := by
  decide

/-- A valid code is that of its character. -/
theorem toNat_ofNat_of_isValidChar {n : Nat} (h : n.isValidChar) : (Char.ofNat n).toNat = n := by
  rw [Char.ofNat, dif_pos h]
  rfl

/-- A property of the characters of ASCII can be checked code point by code point. -/
theorem forall_ascii {P : Char → Prop} (h : ∀ n < 128, P (Char.ofNat n)) {c : Char}
    (hc : c.toNat < 128) : P c := by
  have hchar := h c.toNat hc
  rwa [Char.ofNat_toNat] at hchar

/-- Letters and digits, as they are meant here, are characters of ASCII. -/
theorem lt_of_isAlphanum {c : Char} (h : c.isAlphanum = true) : c.toNat < 128 := by
  have hcases : (c.isUpper || c.isLower || c.isDigit) = true := h
  rw [Bool.or_eq_true, Bool.or_eq_true] at hcases
  rcases hcases with (h | h) | h
  · have hle : c.toNat ≤ 90 := (of_decide_eq_true h).2
    omega
  · have hle : c.toNat ≤ 122 := of_decide_eq_true (Bool.and_eq_true_iff.1 h).2
    omega
  · have hle : c.toNat ≤ 57 := of_decide_eq_true (Bool.and_eq_true_iff.1 h).2
    omega

/-- A character outside ASCII has no image before the ASCII letters. -/
theorem le_toNat_ofNat_applyRuns {c : Char} (hc : 128 ≤ c.toNat) :
    65 ≤ (Char.ofNat (applyRuns lowerRuns c.toNat)).toNat := by
  unfold applyRuns
  split
  · rename_i r hr
    have hrun := isHigh_lowerRuns r (Array.mem_of_find?_eq_some hr)
    have hin := Array.find?_some hr
    simp only [Bool.and_eq_true, decide_eq_true_eq] at hin
    unfold CaseRun.IsHigh at hrun
    -- the image lies between those of the ends of the run, so it is a character and a high one
    rw [toNat_ofNat_of_isValidChar]
    · omega
    · unfold Nat.isValidChar
      omega
  · rw [Char.ofNat_toNat]
    omega

/-- Outside ASCII, lower case leads to nothing below the letters. -/
theorem le_toNat_of_mem_lowerChar {c d : Char} (hc : 128 ≤ c.toNat) (h : d ∈ lowerChar c) :
    65 ≤ d.toNat := by
  rw [lowerChar, if_neg (by omega), mapCase] at h
  split at h
  · rename_i e he
    obtain ⟨n, hn, rfl⟩ := List.mem_map.1 h
    exact high_lowerExpansions e (Array.mem_of_find?_eq_some he) n hn
  · rw [List.mem_singleton] at h
    rw [h]
    exact le_toNat_ofNat_applyRuns hc

/-- The lower case of a character holds a character before the letters only where it is that
character. -/
theorem eq_of_mem_lowerChar {c d : Char} (hd : d.toNat < 65) (h : d ∈ lowerChar c) : c = d := by
  by_cases hc : c.toNat < 128
  · rw [lowerChar, if_pos hc, List.mem_singleton] at h
    rw [h] at hd ⊢
    exact forall_ascii (P := fun c ↦ c.toLower.toNat < 65 → c = c.toLower) (by decide) hc hd
  · exact absurd (le_toNat_of_mem_lowerChar (by omega) h) (by omega)

/-- Outside ASCII, the ASCII lower case changes nothing. -/
theorem toLower_eq_self {c : Char} (h : 128 ≤ c.toNat) : c.toLower = c := by
  refine dif_neg ?_
  rintro ⟨-, hle⟩
  have : c.toNat ≤ 90 := hle
  omega

/-- Lower case of ASCII adds nothing below the letters. -/
theorem mem_of_mem_asciiLower {s : List Char} {d : Char} (hd : d.toNat < 65)
    (h : d ∈ asciiLower s) : d ∈ s := by
  obtain ⟨c, hc, rfl⟩ := List.mem_map.1 h
  by_cases hascii : c.toNat < 128
  · have hmem : c.toLower ∈ lowerChar c := by
      rw [lowerChar, if_pos hascii]
      exact List.mem_singleton_self _
    rwa [← eq_of_mem_lowerChar hd hmem]
  · rwa [toLower_eq_self (by omega)]

/-- Lower case brings in no character that comes before the letters. -/
theorem mem_of_mem_lower {s : List Char} {d : Char} (hd : d.toNat < 65) (h : d ∈ lower s) :
    d ∈ s := by
  suffices hfrom : ∀ before, d ∈ lowerFrom before s → d ∈ s from hfrom [] h
  clear h
  induction s with
  | nil => simp [lowerFrom]
  | cons c r ih =>
    intro before h
    rw [lowerFrom] at h
    split at h
    · rcases List.mem_cons.1 h with rfl | h
      · exact absurd hd (by split <;> decide)
      · exact List.mem_cons_of_mem c (ih _ h)
    · rcases List.mem_append.1 h with h | h
      · exact List.mem_cons.2 (.inl (eq_of_mem_lowerChar hd h).symm)
      · exact List.mem_cons_of_mem c (ih _ h)

/-- On ASCII, lower case is that of ASCII. -/
theorem lower_eq_asciiLower {s : List Char} (h : ∀ c ∈ s, c.toNat < 128) :
    lower s = asciiLower s := by
  suffices hfrom : ∀ before, lowerFrom before s = asciiLower s from hfrom []
  induction s with
  | nil => exact fun _ ↦ rfl
  | cons c r ih =>
    intro before
    obtain ⟨hascii, hr⟩ := List.forall_mem_cons.1 h
    have hsigma : ¬ (c == 'Σ') = true := by
      rintro hc
      rw [eq_of_beq hc] at hascii
      exact absurd hascii (by decide)
    rw [lowerFrom, if_neg hsigma, lowerChar, if_pos hascii, ih hr, List.singleton_append]
    rfl

/-- **A text of ASCII without capitals** is its own lower case. -/
theorem lower_eq_self {s : List Char} (h : ∀ c ∈ s, c.toNat < 128 ∧ c.toLower = c) :
    lower s = s := by
  rw [lower_eq_asciiLower fun c hc ↦ (h c hc).1]
  exact (List.map_congr_left fun c hc ↦ (h c hc).2).trans (List.map_id _)

end SafeMarkdown.Text
