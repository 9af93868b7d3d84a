import Mathlib.Data.List.Basic
import Mathlib.Data.List.TakeWhile
import SafeMarkdown.Text.Blank

/-!
# Splitting a text

Readers of texts split them: at the end of a run of characters, at a character that they look for,
or at the blanks around. The lemmas here say when a text that is put together is split where it was
put together, and how two ways to split one text lie to each other.

When a text is split at a character in two ways, the character of one split stands in front of that
of the other, or they are the same. Which of these it is follows from what the parts may not hold
(`append_cons_eq_append_cons`). Trimming splits a text in three, with blanks before and after what
is left of it (`exists_append_trim`).
-/

namespace SafeMarkdown.Text

/-! ### At the end of a run -/

/-- What a condition excludes is not among what satisfies it. -/
theorem not_mem_of_forall {p : Char → Bool} {c : Char} (hp : p c = false) {s : List Char}
    (hs : ∀ d ∈ s, p d = true) : c ∉ s :=
  fun h ↦ Bool.false_ne_true (hp.symm.trans (hs c h))

/-- A run of characters that satisfy `p`, before a text that does not begin with one. -/
theorem takeWhile_append_eq {p : Char → Bool} {s t : List Char} (hs : ∀ c ∈ s, p c = true)
    (ht : ∀ c ∈ t.head?, p c = false) :
    (s ++ t).takeWhile p = s ∧ (s ++ t).dropWhile p = t := by
  have hend : t.takeWhile p = [] ∧ t.dropWhile p = t := by
    cases t with
    | nil => exact ⟨rfl, rfl⟩
    | cons c t =>
      have hc : ¬ p c = true := Bool.eq_false_iff.1 (ht c rfl)
      exact ⟨List.takeWhile_cons_of_neg hc, List.dropWhile_cons_of_neg hc⟩
  rw [List.takeWhile_append_of_pos hs, List.dropWhile_append_of_pos hs, hend.1, hend.2,
    List.append_nil]
  exact ⟨rfl, rfl⟩

/-- A character of a text is in front of where a condition ends, or behind. -/
theorem mem_takeWhile_or_mem_dropWhile {p : Char → Bool} {c : Char} {s : List Char}
    (h : c ∈ s) : p c = true ∨ c ∈ s.dropWhile p := by
  rw [← List.takeWhile_append_dropWhile (p := p) (l := s)] at h
  exact (List.mem_append.1 h).imp_left List.mem_takeWhile_imp

/-! ### At a character -/

section AtCharacter

variable {α : Type} {front front' s w : List α} {x y : α}

/-- A list is split at two members, and the second does not stand before the first. Then it stands
behind, or the two splits are one. -/
theorem append_cons_eq_append_cons (hy : y ∉ front) (h : front ++ x :: s = front' ++ y :: w) :
    (∃ mid, front' = front ++ x :: mid) ∨ front = front' ∧ x = y := by
  rcases List.append_eq_append_iff.1 h with ⟨mid, hmid, hrest⟩ | ⟨mid, hmid, hrest⟩
  · cases mid with
    | nil => exact .inr ⟨by rw [hmid, List.append_nil], (List.cons.inj hrest).1⟩
    | cons z mid => exact .inl ⟨mid, by rw [hmid, (List.cons.inj hrest).1]⟩
  · cases mid with
    | nil => exact .inr ⟨by rw [hmid, List.append_nil], (List.cons.inj hrest).1.symm⟩
    | cons z mid => exact absurd (hmid ▸ (List.cons.inj hrest).1 ▸ by simp) hy

/-- A list that is split at the same member in two ways is split at the same place, or once before
the other. -/
theorem eq_or_exists_of_append_cons (hx : x ∉ front) (h : front ++ x :: s = front' ++ x :: w) :
    s = w ∨ ∃ rest, s = rest ++ x :: w := by
  rcases append_cons_eq_append_cons hx h with ⟨mid, rfl⟩ | ⟨rfl, -⟩
  · refine .inr ⟨mid, ?_⟩
    rw [List.append_assoc] at h
    exact (List.cons.inj (List.append_cancel_left h)).2
  · exact .inl (List.cons.inj (List.append_cancel_left h)).2

/-- A list that is split behind a member, and once where the member does not follow, is split the
second time behind the first. -/
theorem exists_of_append_cons (hx : x ∉ w) (h : front ++ x :: s = front' ++ w) :
    ∃ rest, s = rest ++ w := by
  rcases List.append_eq_append_iff.1 h with ⟨mid, rfl, hmid⟩ | ⟨mid, rfl, rfl⟩
  · cases mid with
    | nil =>
      rw [List.nil_append] at hmid
      exact absurd (hmid ▸ List.mem_cons_self) hx
    | cons y mid => exact ⟨mid, (List.cons.inj hmid).2⟩
  · exact absurd (by simp) hx

end AtCharacter

/-! ### At the blanks around -/

/-- Trimming takes nothing away but blanks. -/
theorem isBlank_or_mem_trim {c : Char} {s : List Char} (h : c ∈ s) :
    isBlank c = true ∨ c ∈ trim s := by
  rcases mem_takeWhile_or_mem_dropWhile (p := isBlank) h with h | h
  · exact .inl h
  · have h := mem_takeWhile_or_mem_dropWhile (p := isBlank) (List.mem_reverse.2 h)
    exact h.imp_right List.mem_reverse.2

/-- What is dropped from the end of a text stood there. -/
theorem dropTailWhile_append (p : Char → Bool) (s : List Char) :
    dropTailWhile p s ++ (s.reverse.takeWhile p).reverse = s := by
  rw [dropTailWhile, ← List.reverse_append, List.takeWhile_append_dropWhile, List.reverse_reverse]

/-- A text that begins with no blank begins with what trimming leaves of it. -/
theorem exists_trim_append {c : Char} {s : List Char} (hc : isBlank c = false) :
    ∃ t, c :: s = trim (c :: s) ++ t := by
  have hfront : (c :: s).dropWhile isBlank = c :: s :=
    List.dropWhile_cons_of_neg (Bool.eq_false_iff.1 hc)
  refine ⟨((c :: s).reverse.takeWhile isBlank).reverse, ?_⟩
  rw [trim, trimBy, hfront, dropTailWhile_append]

/-- **Trimming takes blanks off at both ends.** -/
theorem exists_append_trim (s : List Char) :
    ∃ lead trail, s = lead ++ (trim s ++ trail) ∧ (∀ b ∈ lead, isBlank b = true) ∧
      ∀ b ∈ trail, isBlank b = true := by
  refine ⟨s.takeWhile isBlank, ((s.dropWhile isBlank).reverse.takeWhile isBlank).reverse, ?_,
    fun b hb ↦ List.mem_takeWhile_imp hb,
    fun b hb ↦ List.mem_takeWhile_imp (List.mem_reverse.1 hb)⟩
  calc s = s.takeWhile isBlank ++ s.dropWhile isBlank := List.takeWhile_append_dropWhile.symm
    _ = s.takeWhile isBlank ++
          (trim s ++ ((s.dropWhile isBlank).reverse.takeWhile isBlank).reverse) := by
        rw [trim, trimBy, dropTailWhile_append]

/-- What is trimmed does not end in a blank. -/
theorem isBlank_of_getLast?_trim {s : List Char} {c : Char} (h : (trim s).getLast? = some c) :
    isBlank c = false := by
  rw [trim, trimBy, dropTailWhile, List.getLast?_reverse] at h
  have hhead := List.head?_dropWhile_not isBlank (s.dropWhile isBlank).reverse
  rw [h] at hhead
  simpa using hhead

end SafeMarkdown.Text
