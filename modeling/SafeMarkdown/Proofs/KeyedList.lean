import Mathlib.Data.List.Induction
import Mathlib.Data.List.Nodup
import SafeMarkdown.KeyedList

/-!
# Entries of keyed lists

Setting an entry and merging pairs bring in nothing that was not given, and pairs with distinct
keys are merged to themselves. Where a keyed list is the graph of a function on its keys, setting an
entry changes the function at one place.

Merged pairs have each key once (`nodup_mergePairs`), and looking a key up there gives what the last
pair with that key gives (`lookup_mergePairs`).
-/

namespace SafeMarkdown

variable {κ α : Type} [DecidableEq κ]

/-- Setting an entry brings in that entry only. -/
theorem mem_setEntry {k : κ} {a : α} {l : List (κ × α)} {e : κ × α} (h : e ∈ setEntry k a l) :
    e = (k, a) ∨ e ∈ l := by
  induction l with
  | nil => simpa [setEntry] using h
  | cons e' l ih =>
    unfold setEntry at h
    split at h
    · rcases List.mem_cons.1 h with h | h
      · exact .inl h
      · exact .inr (List.mem_cons_of_mem e' h)
    · rcases List.mem_cons.1 h with h | h
      · exact .inr (h ▸ List.mem_cons_self)
      · exact (ih h).imp_right (List.mem_cons_of_mem e')

/-- Merging brings in no pair that was not given. -/
theorem mem_of_mem_mergePairs {pairs : List (κ × α)} {e : κ × α} (h : e ∈ mergePairs pairs) :
    e ∈ pairs := by
  suffices hfold : ∀ acc : List (κ × α),
      e ∈ pairs.foldl (fun acc p ↦ setEntry p.1 p.2 acc) acc → e ∈ acc ∨ e ∈ pairs by
    simpa using hfold [] h
  clear h
  induction pairs with
  | nil => exact fun acc h ↦ .inl h
  | cons p pairs ih =>
    intro acc h
    rcases ih _ h with h | h
    · rcases mem_setEntry h with h | h
      · exact .inr (h ▸ List.mem_cons_self)
      · exact .inl h
    · exact .inr (List.mem_cons_of_mem p h)

/-- An entry with a new key goes to the end. -/
theorem setEntry_of_not_mem {k : κ} {a : α} {l : List (κ × α)} (h : k ∉ l.map Prod.fst) :
    setEntry k a l = l ++ [(k, a)] := by
  induction l with
  | nil => rfl
  | cons e l ih =>
    rw [List.map_cons, List.mem_cons, not_or] at h
    rw [setEntry, if_neg (Ne.symm h.1), ih h.2, List.cons_append]

/-- Setting an entry in the graph of a function changes the function at that key. -/
theorem setEntry_graph {keys : List κ} (hnodup : keys.Nodup) {k : κ} (hk : k ∈ keys) (a : α)
    (v : κ → α) :
    setEntry k a (keys.map fun j ↦ (j, v j)) = keys.map fun j ↦ (j, if j = k then a else v j) := by
  induction keys with
  | nil => cases hk
  | cons j keys ih =>
    obtain ⟨hj, hnodup⟩ := List.nodup_cons.1 hnodup
    rw [List.map_cons, List.map_cons, setEntry]
    by_cases hjk : j = k
    · subst hjk
      have hrest : ∀ i ∈ keys, (i, if i = j then a else v i) = (i, v i) := by
        intro i hi
        have hij : i ≠ j := ne_of_mem_of_not_mem hi hj
        rw [if_neg hij]
      rw [if_pos rfl, if_pos rfl, List.map_congr_left hrest]
    · have hk : k ∈ keys := (List.mem_cons.1 hk).resolve_left (Ne.symm hjk)
      rw [if_neg hjk, if_neg hjk, ih hnodup hk]

/-- Pairs with distinct keys are merged to themselves. -/
theorem mergePairs_of_nodup {pairs : List (κ × α)} (h : (pairs.map Prod.fst).Nodup) :
    mergePairs pairs = pairs := by
  suffices hfold : ∀ acc : List (κ × α), ((acc ++ pairs).map Prod.fst).Nodup →
      pairs.foldl (fun acc p ↦ setEntry p.1 p.2 acc) acc = acc ++ pairs from hfold [] h
  clear h
  induction pairs with
  | nil =>
    intro acc _
    rw [List.foldl_nil, List.append_nil]
  | cons p pairs ih =>
    intro acc h
    have hnew : p.1 ∉ acc.map Prod.fst := by
      intro hmem
      rw [List.map_append, List.map_cons] at h
      exact (List.nodup_append.1 h).2.2 p.1 hmem p.1 List.mem_cons_self rfl
    have hnext : acc ++ [p] ++ pairs = acc ++ p :: pairs := by
      rw [List.append_assoc, List.singleton_append]
    rw [List.foldl_cons, setEntry_of_not_mem hnew, ih _ (hnext ▸ h), hnext]

/-! ### Looking up -/

/-- What is found is an entry. -/
theorem mem_of_lookup_eq_some {l : List (κ × α)} {k : κ} {a : α} (h : l.lookup k = some a) :
    (k, a) ∈ l := by
  obtain ⟨before, after, rfl, -⟩ := List.lookup_eq_some_iff.1 h
  exact List.mem_append_right _ List.mem_cons_self

/-- Looking up decides at the first entry or goes on. -/
theorem lookup_cons_eq_ite (k : κ) (a : α) (l : List (κ × α)) (j : κ) :
    ((k, a) :: l).lookup j = if j = k then some a else l.lookup j := by
  rw [List.lookup_cons]
  by_cases h : j = k
  · rw [if_pos h, beq_iff_eq.2 h]
  · rw [if_neg h, beq_eq_false_iff_ne.2 h]

/-- With distinct keys, every entry is found. -/
theorem lookup_eq_some_of_mem {l : List (κ × α)} (hnodup : (l.map Prod.fst).Nodup) {k : κ} {a : α}
    (h : (k, a) ∈ l) : l.lookup k = some a := by
  induction l with
  | nil => cases h
  | cons e l ih =>
    obtain ⟨k', a'⟩ := e
    obtain ⟨hnew, hnodup⟩ := List.nodup_cons.1 hnodup
    rw [lookup_cons_eq_ite]
    rcases List.mem_cons.1 h with h | h
    · obtain ⟨rfl, rfl⟩ := Prod.mk.inj h
      rw [if_pos rfl]
    · have hne : k ≠ k' := fun heq ↦ hnew (heq ▸ List.mem_map.2 ⟨_, h, rfl⟩)
      rw [if_neg hne, ih hnodup h]

/-- A key is found exactly when some entry has it. -/
theorem isSome_lookup_iff {l : List (κ × α)} {k : κ} :
    (l.lookup k).isSome = true ↔ k ∈ l.map Prod.fst := by
  rw [List.lookup_isSome_iff, List.mem_map]
  simp only [beq_iff_eq]
  exact exists_congr fun e ↦ and_congr_right fun _ ↦ eq_comm

/-- Going through a keyed list entry by entry is going through its keys and looking them up. -/
theorem findSome?_eq_findSome?_keys {β : Type} {l : List (κ × α)} (hnodup : (l.map Prod.fst).Nodup)
    (f : κ → α → Option β) :
    (l.findSome? fun e ↦ f e.1 e.2) =
      (l.map Prod.fst).findSome? fun k ↦ (l.lookup k).bind (f k) := by
  rw [List.findSome?_map, ← List.head?_filterMap, ← List.head?_filterMap]
  congr 1
  refine List.filterMap_congr fun e he ↦ ?_
  rw [Function.comp_apply, lookup_eq_some_of_mem hnodup he, Option.bind_some]

/-- After an entry is set, it is found under its key, and all else as before. -/
theorem lookup_setEntry (k : κ) (a : α) (l : List (κ × α)) (j : κ) :
    (setEntry k a l).lookup j = if j = k then some a else l.lookup j := by
  induction l with
  | nil => exact lookup_cons_eq_ite k a [] j
  | cons e l ih =>
    obtain ⟨k', a'⟩ := e
    rw [setEntry]
    by_cases hk : k' = k
    · subst hk
      rw [if_pos rfl, lookup_cons_eq_ite, lookup_cons_eq_ite]
      by_cases hj : j = k' <;> simp [hj]
    · rw [if_neg hk, lookup_cons_eq_ite, lookup_cons_eq_ite, ih]
      by_cases hj : j = k'
      · subst hj
        rw [if_pos rfl, if_pos rfl, if_neg hk]
      · rw [if_neg hj, if_neg hj]

/-- Setting an entry under a key that is there leaves the keys and their order. -/
theorem map_fst_setEntry_of_mem {k : κ} {a : α} {l : List (κ × α)} (h : k ∈ l.map Prod.fst) :
    (setEntry k a l).map Prod.fst = l.map Prod.fst := by
  induction l with
  | nil => cases h
  | cons e l ih =>
    obtain ⟨k', a'⟩ := e
    rw [setEntry]
    by_cases hk : k' = k
    · rw [if_pos hk, List.map_cons, List.map_cons, hk]
    · have hmem := (List.mem_cons.1 h).resolve_left (Ne.symm hk)
      rw [if_neg hk, List.map_cons, List.map_cons, ih hmem]

/-- Setting an entry keeps the keys distinct. -/
theorem nodup_setEntry {k : κ} {a : α} {l : List (κ × α)} (h : (l.map Prod.fst).Nodup) :
    ((setEntry k a l).map Prod.fst).Nodup := by
  by_cases hk : k ∈ l.map Prod.fst
  · rwa [map_fst_setEntry_of_mem hk]
  · rw [setEntry_of_not_mem hk, List.map_append, List.map_singleton]
    exact h.append (List.nodup_singleton k) (List.disjoint_singleton.2 hk)

/-- The last of the pairs is the last to be set. -/
theorem mergePairs_concat (pairs : List (κ × α)) (p : κ × α) :
    mergePairs (pairs ++ [p]) = setEntry p.1 p.2 (mergePairs pairs) := by
  rw [mergePairs, List.foldl_append]
  rfl

/-- Merged pairs have each key once. -/
theorem nodup_mergePairs (pairs : List (κ × α)) : ((mergePairs pairs).map Prod.fst).Nodup := by
  induction pairs using List.reverseRecOn with
  | nil => exact List.nodup_nil
  | append_singleton pairs p ih =>
    rw [mergePairs_concat]
    exact nodup_setEntry ih

/-- The last pair of a key counts. -/
theorem lookup_mergePairs (pairs : List (κ × α)) (k : κ) :
    (mergePairs pairs).lookup k = pairs.reverse.lookup k := by
  induction pairs using List.reverseRecOn with
  | nil => rfl
  | append_singleton pairs p ih =>
    rw [mergePairs_concat, lookup_setEntry, ih, List.reverse_append, List.reverse_singleton,
      List.singleton_append, lookup_cons_eq_ite]

/-- Merging pairs keeps their keys. -/
theorem mem_map_fst_mergePairs {pairs : List (κ × α)} {k : κ} :
    k ∈ (mergePairs pairs).map Prod.fst ↔ k ∈ pairs.map Prod.fst := by
  rw [← isSome_lookup_iff, lookup_mergePairs, isSome_lookup_iff, List.map_reverse,
    List.mem_reverse]

end SafeMarkdown
