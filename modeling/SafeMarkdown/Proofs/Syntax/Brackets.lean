import Mathlib.Data.List.Forall2
import SafeMarkdown.Proofs.Syntax.Matching

/-!
# Which pairs become brackets

Bracketing goes from left to right and takes a pair when it ends inside the bracket that is open. So
a pair is left out for one reason only: a bracket that was taken before begins to the left of the
pair and ends inside it (`mem_bracketsOf_build_iff`). `bracketsOf` reads the positions of the
brackets off a bracketed list, and `RelatedLists` says of two bracketed lists that they have the
same brackets and that their siblings are related one by one.

The pairs are assumed to match (`Matching`): each position is in one pair at most, and a pair begins
before it ends. Pairs of tags do, and so does every selection of them. The proof follows the
recursion of bracketing, with the stretch between two positions as the list at hand. A pair inside
that stretch is taken when its turn comes or crosses one that was taken, and brackets never cross.
-/

namespace SafeMarkdown.Syntax

variable {α β : Type}

mutual

/-- The positions of the two ends of every bracket, where the first sibling is at `start`. -/
def Nest.brackets (start : Nat) : Nest α → List (Nat × Nat)
  | .leaf _ => []
  | .pair _ inner _ =>
    (start, start + 1 + (flattenList inner).length) :: bracketsOf (start + 1) inner

/-- The positions of the ends of every bracket in a list whose first sibling is at `start`. -/
def bracketsOf (start : Nat) : List (Nest α) → List (Nat × Nat)
  | [] => []
  | n :: ns => n.brackets start ++ bracketsOf (start + n.flatten.length) ns

end

/-! ### Brackets nest -/

/-- A bracket has its two ends and what is inside. -/
theorem length_flatten_pair (opening closing : α) (inner : List (Nest α)) :
    (Nest.pair opening inner closing).flatten.length = (flattenList inner).length + 2 := by
  simp [Nest.flatten]

/-- Siblings are counted nest by nest. -/
theorem length_flattenList_cons (n : Nest α) (ns : List (Nest α)) :
    (flattenList (n :: ns)).length = n.flatten.length + (flattenList ns).length := by
  simp [flattenList]

mutual

/-- The brackets of a nest lie within it. -/
theorem bounds_of_mem_brackets {start i j : Nat} :
    ∀ {n : Nest α}, (i, j) ∈ n.brackets start →
      start ≤ i ∧ i < j ∧ j < start + n.flatten.length
  | .leaf _, h => by cases h
  | .pair _ inner _, h => by
    rw [length_flatten_pair]
    rcases List.mem_cons.1 h with h | h
    · obtain ⟨rfl, rfl⟩ := Prod.mk.inj h
      omega
    · have := bounds_of_mem_bracketsOf h
      omega

/-- A bracket stands among the siblings. -/
theorem bounds_of_mem_bracketsOf {start i j : Nat} :
    ∀ {ns : List (Nest α)}, (i, j) ∈ bracketsOf start ns →
      start ≤ i ∧ i < j ∧ j < start + (flattenList ns).length
  | [], h => by cases h
  | _ :: _, h => by
    rw [length_flattenList_cons]
    rcases List.mem_append.1 h with h | h
    · have := bounds_of_mem_brackets h
      omega
    · have := bounds_of_mem_bracketsOf h
      omega

end

/-- The bracket that opens at `k` and closes at `l` begins before the one that opens at `i` and
closes at `j`, and ends inside it. -/
def Crosses (k l i j : Nat) : Prop :=
  k < i ∧ i < l ∧ l < j

mutual

/-- And do not cross. -/
theorem not_crosses_of_mem_brackets {start i j k l : Nat} :
    ∀ {n : Nest α}, (i, j) ∈ n.brackets start → (k, l) ∈ n.brackets start → ¬ Crosses k l i j
  | .leaf _, h, _ => by cases h
  | .pair _ inner _, h, h' => by
    rintro ⟨hki, hil, hlj⟩
    rcases List.mem_cons.1 h with h | h <;> rcases List.mem_cons.1 h' with h' | h'
    · obtain ⟨rfl, rfl⟩ := Prod.mk.inj h
      obtain ⟨rfl, rfl⟩ := Prod.mk.inj h'
      omega
    · obtain ⟨rfl, rfl⟩ := Prod.mk.inj h
      have := bounds_of_mem_bracketsOf h'
      omega
    · obtain ⟨rfl, rfl⟩ := Prod.mk.inj h'
      have := bounds_of_mem_bracketsOf h
      omega
    · exact not_crosses_of_mem_bracketsOf h h' ⟨hki, hil, hlj⟩

/-- Brackets do not cross. -/
theorem not_crosses_of_mem_bracketsOf {start i j k l : Nat} :
    ∀ {ns : List (Nest α)}, (i, j) ∈ bracketsOf start ns → (k, l) ∈ bracketsOf start ns →
      ¬ Crosses k l i j
  | [], h, _ => by cases h
  | _ :: _, h, h' => by
    rintro ⟨hki, hil, hlj⟩
    rcases List.mem_append.1 h with h | h <;> rcases List.mem_append.1 h' with h' | h'
    · exact not_crosses_of_mem_brackets h h' ⟨hki, hil, hlj⟩
    · have := bounds_of_mem_brackets h
      have := bounds_of_mem_bracketsOf h'
      omega
    · have := bounds_of_mem_bracketsOf h
      have := bounds_of_mem_brackets h'
      omega
    · exact not_crosses_of_mem_bracketsOf h h' ⟨hki, hil, hlj⟩

end

/-! ### Brackets that are built -/

/-- Each position is an end of at most one of the pairs, and each pair opens before it closes. -/
structure Matching (pairs : List (Nat × Nat)) : Prop where
  lt : ∀ {i j}, (i, j) ∈ pairs → i < j
  closing_unique : ∀ {i j j'}, (i, j) ∈ pairs → (i, j') ∈ pairs → j = j'
  opening_unique : ∀ {i i' j}, (i, j) ∈ pairs → (i', j) ∈ pairs → i = i'
  opening_ne_closing : ∀ {i j k l}, (i, j) ∈ pairs → (k, l) ∈ pairs → i ≠ l

/-- Fewer pairs match if more do. -/
theorem Matching.of_subset {pairs pairs' : List (Nat × Nat)} (h : Matching pairs)
    (hsub : pairs' ⊆ pairs) : Matching pairs' where
  lt hp := h.lt (hsub hp)
  closing_unique hp hp' := h.closing_unique (hsub hp) (hsub hp')
  opening_unique hp hp' := h.opening_unique (hsub hp) (hsub hp')
  opening_ne_closing hp hp' := h.opening_ne_closing (hsub hp) (hsub hp')

/-- **Pairs of tags match**: each tag is in one pair, and begins before it ends. -/
theorem matching_pairTags (kind : Kind) (nodes : List Node) : Matching (pairTags kind nodes) where
  lt h := (roles_of_mem_pairTags h).1
  closing_unique := eq_of_mem_pairTags
  opening_unique := eq_of_mem_pairTags_of_closing
  opening_ne_closing h h' := by
    rintro rfl
    obtain ⟨-, name, opening, -, hopening, -, hopens, -⟩ := roles_of_mem_pairTags h
    obtain ⟨-, name', -, closing, -, hclosing, -, hcloses⟩ := roles_of_mem_pairTags h'
    obtain rfl : opening = closing := Option.some.inj (hopening.symm.trans hclosing)
    rw [hopens] at hcloses
    cases hcloses

/-- A bracket that is built ends where its pair ends. -/
theorem bracketsOf_pair_build {pairs : List (Nat × Nat)} {start stop : Nat} {x closing : α}
    {rest after : List α} (hlt : start < stop)
    (hdrop : rest.drop (stop - start - 1) = closing :: after) :
    bracketsOf start
        (.pair x (Nest.build pairs (start + 1) (rest.take (stop - start - 1))) closing ::
          Nest.build pairs (stop + 1) after) =
      (start, stop) ::
        (bracketsOf (start + 1) (Nest.build pairs (start + 1) (rest.take (stop - start - 1))) ++
          bracketsOf (stop + 1) (Nest.build pairs (stop + 1) after)) := by
  have hlen := congrArg List.length hdrop
  rw [List.length_drop, List.length_cons] at hlen
  have hinner : (rest.take (stop - start - 1)).length = stop - start - 1 := by
    rw [List.length_take]
    omega
  have hstop : start + 1 + (stop - start - 1) = stop := by omega
  have hafter : start + (stop - start - 1 + 2) = stop + 1 := by omega
  rw [bracketsOf, Nest.brackets, length_flatten_pair, flatten_build, hinner, hstop, hafter,
    List.cons_append]

/-- A bracket that is built stands for a pair. -/
theorem bracketsOf_build_subset {pairs : List (Nat × Nat)} (h : Matching pairs) (start : Nat)
    (xs : List α) : bracketsOf start (Nest.build pairs start xs) ⊆ pairs := by
  fun_induction Nest.build pairs start xs with
  | case1 => exact List.nil_subset _
  | case2 start x rest _ ih => exact ih
  | case3 start x rest stop _ _ ih => exact ih
  | case4 start x rest stop hstop closing after hdrop ih₁ ih₂ =>
    have hmem := mem_of_lookup_eq_some hstop
    rw [bracketsOf_pair_build (h.lt hmem) hdrop]
    exact List.cons_subset.2 ⟨hmem, List.append_subset.2 ⟨ih₁, ih₂⟩⟩

/-- A pair that no bracket crosses from the left becomes a bracket, if it stands among the
siblings. -/
theorem mem_bracketsOf_build {pairs : List (Nat × Nat)} (h : Matching pairs) {i j : Nat}
    (hmem : (i, j) ∈ pairs) (start : Nat) (xs : List α) (hi : start ≤ i)
    (hj : j < start + xs.length)
    (hcross : ∀ {k l}, (k, l) ∈ bracketsOf start (Nest.build pairs start xs) →
      ¬ Crosses k l i j) :
    (i, j) ∈ bracketsOf start (Nest.build pairs start xs) := by
  have hij := h.lt hmem
  fun_induction Nest.build pairs start xs with
  | case1 =>
    rw [List.length_nil] at hj
    omega
  | case2 start x rest hlookup ih =>
    -- no pair opens here
    have hne : start ≠ i := by
      rintro rfl
      have := List.lookup_eq_none_iff.1 hlookup (start, j) hmem
      simp at this
    rw [List.length_cons] at hj
    exact ih (by omega) (by omega) hcross
  | case3 start x rest stop hlookup hdrop ih =>
    -- the pair that opens here ends outside
    have hne : start ≠ i := by
      rintro rfl
      obtain rfl := h.closing_unique hmem (mem_of_lookup_eq_some hlookup)
      rw [List.drop_eq_nil_iff] at hdrop
      rw [List.length_cons] at hj
      omega
    rw [List.length_cons] at hj
    exact ih (by omega) (by omega) hcross
  | case4 start x rest stop hlookup closing after hdrop ih₁ ih₂ =>
    have hopen := mem_of_lookup_eq_some hlookup
    have hlt := h.lt hopen
    have hlen := congrArg List.length hdrop
    rw [List.length_drop, List.length_cons] at hlen
    rw [List.length_cons] at hj
    rw [bracketsOf_pair_build hlt hdrop] at hcross ⊢
    by_cases hfirst : i = start
    · subst hfirst
      rw [h.closing_unique hmem hopen]
      exact List.mem_cons_self
    refine List.mem_cons_of_mem _ (List.mem_append.2 ?_)
    by_cases hbefore : i < stop
    · -- the pair opens inside the bracket, and would cross it if it ended outside
      have hjne : j ≠ stop := by
        rintro rfl
        exact hfirst (h.opening_unique hmem hopen)
      have hinside : j < stop := by
        have := hcross List.mem_cons_self
        unfold Crosses at this
        omega
      refine .inl (ih₁ (by omega) ?_ fun hkl ↦ hcross ?_)
      · rw [List.length_take]
        omega
      · exact List.mem_cons_of_mem _ (List.mem_append_left _ hkl)
    · have hine : i ≠ stop := h.opening_ne_closing hmem hopen
      refine .inr (ih₂ (by omega) (by omega) fun hkl ↦ hcross ?_)
      exact List.mem_cons_of_mem _ (List.mem_append_right _ hkl)

/-- **Which pairs become brackets**: those that no bracket crosses from the left. -/
theorem mem_bracketsOf_build_iff {pairs : List (Nat × Nat)} (h : Matching pairs) {i j : Nat}
    {xs : List α} (hmem : (i, j) ∈ pairs) (hj : j < xs.length) :
    (i, j) ∈ bracketsOf 0 (Nest.build pairs 0 xs) ↔
      ∀ k l, (k, l) ∈ bracketsOf 0 (Nest.build pairs 0 xs) → ¬ Crosses k l i j := by
  constructor
  · exact fun hij k l hkl ↦ not_crosses_of_mem_bracketsOf hij hkl
  · exact fun hcross ↦ mem_bracketsOf_build h hmem 0 xs (Nat.zero_le i) (by omega) (hcross _ _)

/-! ### Bracketed lists with the same brackets -/

mutual

/-- The two have the same brackets, and their siblings are related by `R`. -/
def Nest.Related (R : α → β → Prop) : Nest α → Nest β → Prop
  | .leaf a, .leaf b => R a b
  | .pair a inner c, .pair b inner' d => R a b ∧ RelatedLists R inner inner' ∧ R c d
  | _, _ => False

/-- The two lists have the same brackets, and their siblings are related by `R`. -/
def RelatedLists (R : α → β → Prop) : List (Nest α) → List (Nest β) → Prop
  | [], [] => True
  | n :: ns, m :: ms => n.Related R m ∧ RelatedLists R ns ms
  | _, _ => False

end

variable {R : α → β → Prop}

mutual

/-- Related nests have siblings that are related one by one. -/
theorem forall₂_flatten : ∀ {n : Nest α} {m : Nest β}, n.Related R m →
    List.Forall₂ R n.flatten m.flatten
  | .leaf _, .leaf _, h => .cons h .nil
  | .pair _ _ _, .pair _ _ _, ⟨hopening, hinner, hclosing⟩ =>
    .cons hopening (List.rel_append (forall₂_flattenList hinner) (.cons hclosing .nil))
  | .leaf _, .pair _ _ _, h => h.elim
  | .pair _ _ _, .leaf _, h => h.elim

/-- So have related lists of nests. -/
theorem forall₂_flattenList : ∀ {ns : List (Nest α)} {ms : List (Nest β)}, RelatedLists R ns ms →
    List.Forall₂ R (flattenList ns) (flattenList ms)
  | [], [], _ => .nil
  | _ :: _, _ :: _, ⟨hhead, htail⟩ =>
    List.rel_append (forall₂_flatten hhead) (forall₂_flattenList htail)
  | [], _ :: _, h => h.elim
  | _ :: _, [], h => h.elim

end

mutual

/-- Related nests have the same brackets. -/
theorem brackets_eq_of_related {start : Nat} : ∀ {n : Nest α} {m : Nest β}, n.Related R m →
    n.brackets start = m.brackets start
  | .leaf _, .leaf _, _ => rfl
  | .pair _ _ _, .pair _ _ _, ⟨_, hinner, _⟩ => by
    rw [Nest.brackets, Nest.brackets, bracketsOf_eq_of_related hinner,
      (forall₂_flattenList hinner).length_eq]
  | .leaf _, .pair _ _ _, h => h.elim
  | .pair _ _ _, .leaf _, h => h.elim

/-- So have related lists of nests. -/
theorem bracketsOf_eq_of_related {start : Nat} : ∀ {ns : List (Nest α)} {ms : List (Nest β)},
    RelatedLists R ns ms → bracketsOf start ns = bracketsOf start ms
  | [], [], _ => rfl
  | _ :: _, _ :: _, ⟨hhead, htail⟩ => by
    rw [bracketsOf, bracketsOf, brackets_eq_of_related hhead, bracketsOf_eq_of_related htail,
      (forall₂_flatten hhead).length_eq]
  | [], _ :: _, h => h.elim
  | _ :: _, [], h => h.elim

end

end SafeMarkdown.Syntax
