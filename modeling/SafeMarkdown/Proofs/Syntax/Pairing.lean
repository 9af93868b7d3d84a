import SafeMarkdown.Syntax.Pairing

/-!
# What pairs and brackets are made of

A pair of positions always joins a start tag to a later end tag of its name
(`roles_of_mem_pairTags`). Bracketing takes nothing away from the siblings and keeps their order
(`flatten_build`), and each bracket that it makes stands for one of the pairs (`forallList_build`).

Nothing is said here about which pairs there are. The pass is only looked at from the side of one
pair: when it is recorded, the start tag is among those that are open, with its position, and the
end tag is at hand. So the statement is an induction on the roles, for any tags that are open before
as long as they stand where they are said to stand.
-/

namespace SafeMarkdown.Syntax

/-! ### Pairs -/

/-- What holds of a pair found when the roles begin at `position`: the start tag was pending, or it
stands among the roles, and in both cases the end tag stands among the roles after it. -/
theorem roles_of_mem_pairsFrom {position : Nat} {pending : List (String × Nat)}
    {roles : List TagRole} {i j : Nat} (h : (i, j) ∈ pairsFrom position pending roles) :
    ∃ name k, j = position + k ∧ roles[k]? = some (.closing name) ∧
      ((name, i) ∈ pending ∨
        ∃ l < k, i = position + l ∧ roles[l]? = some (.opening name)) := by
  induction roles generalizing position pending with
  | nil => simp [pairsFrom] at h
  | cons role roles ih =>
    -- the rest of the roles begins one position later
    have later {pending' : List (String × Nat)}
        (h : (i, j) ∈ pairsFrom (position + 1) pending' roles) :
        ∃ name k, j = position + k ∧ (role :: roles)[k]? = some (.closing name) ∧
          ((name, i) ∈ pending' ∨
            ∃ l < k, i = position + l ∧ (role :: roles)[l]? = some (.opening name)) := by
      obtain ⟨name, k, hj, hk, hi⟩ := ih h
      refine ⟨name, k + 1, by omega, by simpa using hk, hi.imp_right ?_⟩
      rintro ⟨l, hl, hil, hopen⟩
      exact ⟨l + 1, by omega, by omega, by simpa using hopen⟩
    cases role with
    | neither => exact later h
    | opening name =>
      obtain ⟨name', k, hj, hk, hi⟩ := later h
      refine ⟨name', k, hj, hk, ?_⟩
      rcases hi with hi | hi
      · rcases List.mem_cons.1 hi with hi | hi
        · obtain ⟨rfl, rfl⟩ := Prod.mk.inj hi
          refine .inr ⟨0, ?_, by simp, by simp⟩
          cases k with
          | zero => simp at hk
          | succ k => omega
        · exact .inl hi
      · exact .inr hi
    | closing name =>
      rw [pairsFrom] at h
      split at h
      · exact later h
      · rename_i start hstart
        rcases List.mem_cons.1 h with h | h
        · obtain ⟨rfl, rfl⟩ := Prod.mk.inj h
          have hmem : (name, i) ∈ pending := by
            obtain ⟨l₁, l₂, rfl, -⟩ := List.lookup_eq_some_iff.1 hstart
            simp
          exact ⟨name, 0, rfl, rfl, .inl hmem⟩
        · obtain ⟨name', k, hj, hk, hi⟩ := later h
          exact ⟨name', k, hj, hk, hi.imp_left fun hi ↦ List.mem_of_mem_eraseP hi⟩

/-- **A pair joins a start tag to a later end tag of its name.** -/
theorem roles_of_mem_pairTags {kind : Kind} {nodes : List Node} {i j : Nat}
    (h : (i, j) ∈ pairTags kind nodes) :
    i < j ∧ ∃ name opening closing, nodes[i]? = some opening ∧ nodes[j]? = some closing ∧
      opening.role kind = .opening name ∧ closing.role kind = .closing name := by
  obtain ⟨name, k, hj, hk, hi⟩ := roles_of_mem_pairsFrom h
  rcases hi with hi | ⟨l, hl, hil, hopen⟩
  · simp at hi
  · rw [List.getElem?_map, Option.map_eq_some_iff] at hk hopen
    obtain ⟨closing, hclosing, hrole⟩ := hk
    obtain ⟨opening, hopening, hrole'⟩ := hopen
    refine ⟨by omega, name, opening, closing, ?_, ?_, hrole', hrole⟩
    · rw [hil, Nat.zero_add]
      exact hopening
    · rw [hj, Nat.zero_add]
      exact hclosing

/-! ### Brackets -/

variable {α : Type}

mutual

/-- The siblings that a bracketed one stands for. -/
def Nest.flatten : Nest α → List α
  | .leaf a => [a]
  | .pair opening inner closing => opening :: (flattenList inner ++ [closing])

/-- The siblings of a bracketed list. -/
def flattenList : List (Nest α) → List α
  | [] => []
  | n :: ns => n.flatten ++ flattenList ns

end

mutual

/-- Every sibling outside the ends of brackets satisfies `L`, and the two ends of every bracket are
related by `R`. -/
def Nest.Forall (L : α → Prop) (R : α → α → Prop) : Nest α → Prop
  | .leaf a => L a
  | .pair opening inner closing => R opening closing ∧ ForallList L R inner

/-- Every sibling of the list outside the ends of brackets satisfies `L`, and the two ends of every
bracket are related by `R`. -/
def ForallList (L : α → Prop) (R : α → α → Prop) : List (Nest α) → Prop
  | [] => True
  | n :: ns => n.Forall L R ∧ ForallList L R ns

end

/-- **Brackets change nothing else**: the siblings are all there, in their order. -/
theorem flatten_build (pairs : List (Nat × Nat)) (start : Nat) (xs : List α) :
    flattenList (Nest.build pairs start xs) = xs := by
  fun_induction Nest.build pairs start xs with
  | case1 => rfl
  | case2 start x rest _ ih => simp [flattenList, Nest.flatten, ih]
  | case3 start x rest stop _ _ ih => simp [flattenList, Nest.flatten, ih]
  | case4 start x rest stop _ closing after hdrop ih₁ ih₂ =>
    have hrest := List.take_append_drop (stop - start - 1) rest
    rw [hdrop] at hrest
    simp [flattenList, Nest.flatten, ih₁, ih₂, hrest]

/-- **Each bracket stands for a pair.** The siblings `xs` are part of the whole list `all` and begin
at position `start` of it. -/
theorem forallList_build {L : α → Prop} {R : α → α → Prop} {pairs : List (Nat × Nat)}
    {all : List α} (hL : ∀ a ∈ all, L a)
    (hR : ∀ {i j}, (i, j) ∈ pairs →
      i < j ∧ ∀ {a b}, all[i]? = some a → all[j]? = some b → R a b)
    (start : Nat) (xs : List α) (hxs : ∀ k < xs.length, all[start + k]? = xs[k]?) :
    ForallList L R (Nest.build pairs start xs) := by
  -- what follows a sibling is part of the whole list too, one position later
  have later {start : Nat} {x : α} {rest : List α}
      (h : ∀ k < (x :: rest).length, all[start + k]? = (x :: rest)[k]?) :
      all[start]? = some x ∧ ∀ k < rest.length, all[start + 1 + k]? = rest[k]? := by
    refine ⟨h 0 (by simp), fun k hk ↦ ?_⟩
    rw [Nat.add_right_comm, Nat.add_assoc]
    simpa using h (k + 1) (by simpa using hk)
  fun_induction Nest.build pairs start xs with
  | case1 => trivial
  | case2 start x rest _ ih =>
    obtain ⟨hx, hrest⟩ := later hxs
    exact ⟨hL x (List.mem_of_getElem? hx), ih hrest⟩
  | case3 start x rest stop _ _ ih =>
    obtain ⟨hx, hrest⟩ := later hxs
    exact ⟨hL x (List.mem_of_getElem? hx), ih hrest⟩
  | case4 start x rest stop hstop closing after hdrop ih₁ ih₂ =>
    obtain ⟨hx, hrest⟩ := later hxs
    have hmem : (start, stop) ∈ pairs := by
      obtain ⟨l₁, l₂, rfl, -⟩ := List.lookup_eq_some_iff.1 hstop
      simp
    obtain ⟨hlt, hrel⟩ := hR hmem
    have hlen := congrArg List.length hdrop
    rw [List.length_drop, List.length_cons] at hlen
    -- position by position, what was dropped is the end of the rest
    have hafter (k : Nat) : rest[stop - start - 1 + k]? = (closing :: after)[k]? := by
      rw [← hdrop, List.getElem?_drop]
    refine ⟨⟨hrel hx ?_, ih₁ fun k hk ↦ ?_⟩, ih₂ fun k hk ↦ ?_⟩
    · have := hrest (stop - start - 1) (by omega)
      rw [show start + 1 + (stop - start - 1) = stop by omega] at this
      rw [this]
      simpa using hafter 0
    · rw [List.length_take] at hk
      rw [hrest k (by omega), List.getElem?_take_of_lt (by omega)]
    · have := hrest (stop - start - 1 + (k + 1)) (by omega)
      rw [show start + 1 + (stop - start - 1 + (k + 1)) = stop + 1 + k by omega] at this
      rw [this, hafter]
      simp

/-! ### A node without siblings -/

theorem pairTags_singleton (kind : Kind) (n : Node) : pairTags kind [n] = [] := by
  show pairsFrom 0 [] [n.role kind] = []
  cases n.role kind <;> rfl

theorem build_singleton {α : Type} (a : α) : Nest.build [] 0 [a] = [.leaf a] := by
  with_unfolding_all rfl

end SafeMarkdown.Syntax
