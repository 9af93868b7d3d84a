import SafeMarkdown.Proofs.Renderer.Table

/-!
# Runs over tables

A run goes from table to table. A step makes a new table or overrides the one that is there, and a
step that fails leaves the table as it is. `Follows` says what the table is after the steps that
were taken: it is complete, its order is that of the last new table, and under each name it has the
entry that was given last. One step keeps this (`Follows.apply`), and so does a run
(`follows_run`).

`TableStep.report?` says what a step reports, in terms of the pairs that it gives and the table that
would come of it. An override reports something else only where a key cannot be given to it at all
(`nameFault?`).

## Faults

A step may fail for several reasons at once, and reports the first in a fixed order. A new table is
checked pair by pair, the key before the entry, and then for constructs without an entry. An
override is checked for its keys, and then for the entries of the table that would come of it, in
the order of that table. `TableStep.report?` is this order written out, and
`TableStep.exists_apply_eq_error_iff` says that a step fails exactly when there is a fault of any of
these kinds.
-/

namespace SafeMarkdown

open RendererTable

variable {α : Type} {callable : α → Bool}

/-! ### Entries that pairs give -/

/-- The entry that the pairs give for a construct: the last one under its name. -/
def given? (pairs : List (TableKey × α)) (c : Construct) : Option α :=
  pairs.reverse.lookup (.name c.name)

/-- Later pairs take precedence. -/
theorem given?_append (pairs later : List (TableKey × α)) (c : Construct) :
    given? (pairs ++ later) c = (given? later c).or (given? pairs c) := by
  rw [given?, List.reverse_append, List.lookup_append]
  rfl

/-- What is looked up under a name is the last pair that gives it. -/
theorem lookup_mergePairs_name (pairs : List (TableKey × α)) (c : Construct) :
    (mergePairs pairs).lookup (.name c.name) = given? pairs c :=
  lookup_mergePairs pairs _

/-- Merging does not change what is given. -/
theorem given?_mergePairs (pairs : List (TableKey × α)) (c : Construct) :
    given? (mergePairs pairs) c = given? pairs c := by
  rw [← lookup_mergePairs_name, mergePairs_of_nodup (nodup_mergePairs pairs),
    lookup_mergePairs_name]

/-- An entry has no fault when it is callable. -/
theorem entryFault?_eq_none_iff {c : Construct} {entry : α} :
    entryFault? callable c entry = none ↔ callable entry = true := by
  cases h : callable entry <;> simp [entryFault?, h]

/-- A pair under a name has the faults of its entry only. -/
theorem pairFault?_name (c : Construct) (entry : α) :
    pairFault? callable (.name c.name, entry) = entryFault? callable c entry := by
  rw [pairFault?, TableKey.construct?_eq_some_iff.2 rfl]

/-- Merged pairs have no fault in a key exactly when no pair has. -/
theorem findSome?_keyFault?_eq_none_iff {pairs : List (TableKey × α)} :
    ((mergePairs pairs).findSome? fun p ↦ keyFault? p.1) = none ↔
      ∀ p ∈ pairs, keyFault? p.1 = none := by
  rw [List.findSome?_eq_none_iff, ← List.forall_mem_map (f := Prod.fst) (P := (keyFault? · = none)),
    ← List.forall_mem_map (f := Prod.fst) (P := (keyFault? · = none))]
  simp only [mem_map_fst_mergePairs]

/-- No pair is reported when all keys are known and all entries that count can be called. -/
theorem pairFaults_eq_none_iff {pairs : List (TableKey × α)} :
    (mergePairs pairs).findSome? (pairFault? callable) = none ↔
      (∀ p ∈ pairs, keyFault? p.1 = none) ∧
        ∀ c entry, given? pairs c = some entry → callable entry = true := by
  rw [List.findSome?_eq_none_iff, ← findSome?_keyFault?_eq_none_iff, List.findSome?_eq_none_iff]
  constructor
  · intro h
    refine ⟨fun p hp ↦ ?_, fun c entry hgiven ↦ ?_⟩
    · have hpair := h p hp
      unfold pairFault? at hpair
      unfold keyFault?
      split at hpair
      · cases hpair
      · rfl
    · rw [← lookup_mergePairs_name] at hgiven
      have hpair := h _ (mem_of_lookup_eq_some hgiven)
      rwa [pairFault?_name, entryFault?_eq_none_iff] at hpair
  · rintro ⟨hkeys, hcallable⟩ ⟨key, entry⟩ hp
    obtain ⟨c, rfl⟩ := exists_of_keyFault?_eq_none (hkeys _ hp)
    rw [pairFault?_name, entryFault?_eq_none_iff]
    refine hcallable c entry ?_
    rw [← lookup_mergePairs_name]
    exact lookup_eq_some_of_mem (nodup_mergePairs pairs) hp

/-- Nothing is missing when every construct has an entry. -/
theorem missingFault?_eq_none_iff {entryOf? : Construct → Option α} :
    missingFault? entryOf? = none ↔ ∀ c, (entryOf? c).isSome = true := by
  have hnil : (Construct.all.filter fun c ↦ (entryOf? c).isNone) = [] ↔
      ∀ c, (entryOf? c).isSome = true := by
    rw [List.filter_eq_nil_iff]
    simp [Construct.mem_all, Option.isSome_iff_ne_none]
  rw [← hnil, missingFault?]
  cases Construct.all.filter fun c ↦ (entryOf? c).isNone <;> simp

/-! ### Steps -/

/-- A step on a table: a new table from pairs, or entries replaced. -/
inductive TableStep (α : Type) where
  | create (pairs : List (TableKey × α))
  | override (pairs : List (TableKey × α))

/-- Each construct has one entry, and it can be called. -/
structure RendererTable.Complete (callable : α → Bool) (t : RendererTable α) : Prop where
  keys : t.keys.Perm Construct.all
  callable : ∀ e ∈ t.entries, callable e.2 = true

/-- Looking a name up is looking its construct up. -/
theorem RendererTable.get?_name (t : RendererTable α) (c : Construct) :
    t.get? (.name c.name) = t.entries.lookup c := by
  rw [get?, TableKey.construct?_eq_some_iff.2 rfl]
  rfl

/-- What a table has under each key is settled by what it has under the names of the constructs. -/
theorem RendererTable.get?_eq_map {t : RendererTable α} {g : Construct → α}
    (h : ∀ c, t.get? (.name c.name) = some (g c)) (key : TableKey) :
    t.get? key = key.construct?.map g := by
  cases hkey : key.construct? with
  | none =>
    rw [get?, hkey]
    rfl
  | some c =>
    obtain rfl := TableKey.construct?_eq_some_iff.1 hkey
    exact h c

/-- A complete table has no construct twice. -/
theorem RendererTable.Complete.nodup {t : RendererTable α} (h : t.Complete callable) :
    (t.entries.map Prod.fst).Nodup :=
  h.keys.nodup_iff.2 Construct.nodup_all

/-- A complete table has an entry for each construct. -/
theorem RendererTable.Complete.isSome_get? {t : RendererTable α} (h : t.Complete callable)
    (c : Construct) : (t.get? (.name c.name)).isSome = true := by
  rw [get?_name, isSome_lookup_iff]
  exact h.keys.mem_iff.2 (Construct.mem_all c)

/-- The table of a function is complete, if its values are callable. -/
theorem RendererTable.complete_ofFn {f : Construct → α} (hf : ∀ c, callable (f c) = true) :
    (ofFn f).Complete callable where
  keys := keys_ofFn f ▸ List.Perm.refl _
  callable := List.forall_mem_map.2 fun c _ ↦ hf c

namespace TableStep

/-- The pairs of a step. -/
def pairs : TableStep α → List (TableKey × α)
  | create pairs => pairs
  | override pairs => pairs

/-- The mapping that a new table is made from. -/
def mapping? : TableStep α → Option (List (TableKey × α))
  | create pairs => some pairs
  | override _ => none

/-- Takes the step. -/
def apply (callable : α → Bool) (t : RendererTable α) :
    TableStep α → Except TableError (RendererTable α)
  | create pairs => ofPairs callable pairs
  | override pairs => t.override callable pairs

/-- The entry of a construct in the table that would come of the step. -/
def entryOf? (t : RendererTable α) : TableStep α → Construct → Option α
  | create pairs, c => given? pairs c
  | override pairs, c => (given? pairs c).or (t.get? (.name c.name))

/-- What is reported of keys that cannot be given to the step. -/
def nameFault? : TableStep α → Option TableError
  | create _ => none
  | override pairs => RendererTable.nameFault? pairs

/-- What the step reports. A new table: the first pair that is faulty, its key before its entry, and
then the constructs without an entry. An override: the first key that is unknown, and then the first
entry, in the order of the table, that cannot be called. -/
def report? (callable : α → Bool) (t : RendererTable α) : TableStep α → Option TableError
  | create pairs =>
    ((mergePairs pairs).findSome? (pairFault? callable)).or (missingFault? (given? pairs))
  | override pairs =>
    ((mergePairs pairs).findSome? fun p ↦ keyFault? p.1).or
      (t.keys.findSome? fun c ↦ ((override pairs).entryOf? t c).bind (entryFault? callable c))

/-- Some key is unknown, some entry of the table that would come of the step cannot be called, or
the step makes a new table and leaves out a construct. -/
def Faulty (callable : α → Bool) (t : RendererTable α) (s : TableStep α) : Prop :=
  (∃ p ∈ s.pairs, p.1.construct? = none) ∨
    (∃ c entry, s.entryOf? t c = some entry ∧ callable entry = false) ∨
      ∃ pairs c, s = create pairs ∧ given? pairs c = none

/-- The entries of the table that would come of the step. -/
def placed (t : RendererTable α) : TableStep α → List (Construct × α)
  | create pairs => place [] (mergePairs pairs)
  | override pairs => place t.entries (mergePairs pairs)

variable {t : RendererTable α}

/-- After a step, looking up gives the entry of the step or the one before. -/
theorem lookup_placed (t : RendererTable α) (s : TableStep α) (c : Construct) :
    (s.placed t).lookup c = s.entryOf? t c := by
  have hgiven (pairs : List (TableKey × α)) :
      (mergePairs pairs).reverse.lookup (.name c.name) = given? pairs c :=
    given?_mergePairs pairs c
  cases s with
  | create pairs => rw [placed, lookup_place, hgiven, List.lookup_nil, Option.or_none, entryOf?]
  | override pairs => rw [placed, lookup_place, hgiven, entryOf?, get?_name]

/-- Merged pairs name no construct twice. -/
theorem nodup_constructs_mergePairs (pairs : List (TableKey × α)) :
    (constructs (mergePairs pairs)).Nodup := by
  have hkeys := (nodup_mergePairs pairs).filterMap (f := TableKey.construct?) fun key key' c h h' ↦
    (TableKey.construct?_eq_some_iff.1 h).trans (TableKey.construct?_eq_some_iff.1 h').symm
  rwa [List.filterMap_map] at hkeys

/-- A new table has the order of its mapping, and an override keeps that of the table. -/
theorem map_fst_placed (ht : t.Complete callable) (s : TableStep α) :
    (s.placed t).map Prod.fst =
      (s.mapping?.map fun pairs ↦ constructs (mergePairs pairs)).getD t.keys := by
  cases s with
  | create pairs => exact map_fst_place_of_nodup (nodup_constructs_mergePairs pairs)
  | override pairs =>
    exact map_fst_place_of_mem (fun c ↦ ht.keys.mem_iff.2 (Construct.mem_all c)) _

/-- So a step leaves no construct twice. -/
theorem nodup_map_fst_placed (ht : t.Complete callable) (s : TableStep α) :
    ((s.placed t).map Prod.fst).Nodup := by
  rw [map_fst_placed ht]
  cases s with
  | create pairs => exact nodup_constructs_mergePairs pairs
  | override pairs => exact ht.nodup

/-- The table that would come of a step is complete when it has an entry for each construct and all
its entries can be called. -/
theorem complete_placed (ht : t.Complete callable) {s : TableStep α}
    (hcallable : ∀ c entry, s.entryOf? t c = some entry → callable entry = true)
    (hall : ∀ c, (s.entryOf? t c).isSome = true) :
    Complete callable (⟨s.placed t⟩ : RendererTable α) where
  keys := by
    have hnodup := nodup_map_fst_placed ht s
    refine (List.perm_ext_iff_of_nodup hnodup Construct.nodup_all).2 fun c ↦ ?_
    refine iff_of_true ?_ (Construct.mem_all c)
    rw [← isSome_lookup_iff, lookup_placed]
    exact hall c
  callable e he := by
    refine hcallable e.1 e.2 ?_
    rw [← lookup_placed]
    exact lookup_eq_some_of_mem (nodup_map_fst_placed ht s) he

/-- **One step**: it reports a fault, or gives the table with its entries placed. -/
theorem apply_eq (ht : t.Complete callable) (s : TableStep α) :
    s.apply callable t = unlessFault (s.nameFault?.or (s.report? callable t)) ⟨s.placed t⟩ := by
  cases s with
  | create pairs =>
    have hgiven : ((place [] (mergePairs pairs)).lookup ·) = given? pairs :=
      funext (lookup_placed t (create pairs))
    rw [apply, ofPairs_eq, hgiven, nameFault?, Option.none_or]
    rfl
  | override pairs =>
    have hkeys : (place t.entries (mergePairs pairs)).map Prod.fst = t.keys :=
      map_fst_placed ht (override pairs)
    have hentries := findSome?_eq_findSome?_keys (nodup_map_fst_placed ht (override pairs))
      (entryFault? callable)
    rw [placed, hkeys] at hentries
    rw [apply, override_eq ht.keys, hentries, nameFault?, report?]
    simp only [← lookup_placed]
    rfl

/-- A step is without a report when all keys are known, all entries of the table that would come of
it can be called, and no construct is left out. -/
theorem report?_eq_none_iff (ht : t.Complete callable) {s : TableStep α} :
    s.report? callable t = none ↔
      (∀ p ∈ s.pairs, keyFault? p.1 = none) ∧
        (∀ c entry, s.entryOf? t c = some entry → callable entry = true) ∧
          ∀ c, (s.entryOf? t c).isSome = true := by
  cases s with
  | create pairs =>
    rw [report?, Option.or_eq_none_iff, pairFaults_eq_none_iff, missingFault?_eq_none_iff,
      and_assoc]
    rfl
  | override pairs =>
    rw [report?, Option.or_eq_none_iff, findSome?_keyFault?_eq_none_iff,
      List.findSome?_eq_none_iff]
    refine and_congr_right fun _ ↦ ⟨fun h ↦ ⟨fun c entry hentry ↦ ?_, fun c ↦ ?_⟩, fun h c _ ↦ ?_⟩
    · have hfault := h c (ht.keys.mem_iff.2 (Construct.mem_all c))
      rwa [hentry, Option.bind_some, entryFault?_eq_none_iff] at hfault
    · rw [entryOf?, Option.isSome_or, ht.isSome_get?, Bool.or_true]
    · cases hentry : (override pairs).entryOf? t c with
      | none => rfl
      | some entry =>
        rw [Option.bind_some, entryFault?_eq_none_iff]
        exact h.1 c entry hentry

/-- Only a new table can leave out a construct. -/
theorem exists_isSome_eq_false_iff (ht : t.Complete callable) {s : TableStep α} :
    (¬ ∀ c, (s.entryOf? t c).isSome = true) ↔
      ∃ pairs c, s = create pairs ∧ given? pairs c = none := by
  simp only [not_forall, Bool.not_eq_true, Option.isSome_eq_false_iff, Option.isNone_iff_eq_none]
  cases s with
  | create pairs =>
    constructor
    · rintro ⟨c, hc⟩
      exact ⟨pairs, c, rfl, hc⟩
    · rintro ⟨_, c, heq, hc⟩
      cases heq
      exact ⟨c, hc⟩
  | override pairs =>
    refine iff_of_false ?_ ?_
    · rintro ⟨c, hc⟩
      have hsome := ht.isSome_get? c
      rw [(Option.or_eq_none_iff.1 hc).2] at hsome
      cases hsome
    · rintro ⟨_, _, heq, -⟩
      cases heq

/-- **A step fails exactly where it is faulty**, also where a key cannot be given to it. -/
theorem exists_apply_eq_error_iff (ht : t.Complete callable) {s : TableStep α} :
    (∃ e, s.apply callable t = .error e) ↔ s.Faulty callable t := by
  have hfails : (∃ e, s.apply callable t = .error e) ↔ s.report? callable t ≠ none := by
    simp only [apply_eq ht, unlessFault_eq_error_iff]
    rw [← Option.isSome_iff_exists, Option.isSome_iff_ne_none, not_iff_not, Option.or_eq_none_iff]
    -- where all keys are known, all of them can be given
    refine and_iff_right_of_imp fun hreport ↦ ?_
    cases s with
    | create pairs => rfl
    | override pairs => exact nameFault?_eq_none ((report?_eq_none_iff ht).1 hreport).1
  have hunknown : (¬ ∀ p ∈ s.pairs, keyFault? p.1 = none) ↔
      ∃ p ∈ s.pairs, p.1.construct? = none := by
    simp only [not_forall, exists_prop, keyFault?_eq_none_iff, Ne, not_not]
  have huncallable : (¬ ∀ c entry, s.entryOf? t c = some entry → callable entry = true) ↔
      ∃ c entry, s.entryOf? t c = some entry ∧ callable entry = false := by
    simp only [not_forall, exists_prop, Bool.not_eq_true]
  rw [hfails, Ne, report?_eq_none_iff ht, not_and_or, not_and_or, hunknown, huncallable,
    exists_isSome_eq_false_iff ht]
  rfl

end TableStep

/-! ### Runs -/

/-- The table after a step: the new one, or the old one where the step fails. -/
def RendererTable.after (callable : α → Bool) (t : RendererTable α) (s : TableStep α) :
    RendererTable α :=
  match s.apply callable t with
  | .ok t' => t'
  | .error _ => t

/-- The table after a run. -/
def RendererTable.run (callable : α → Bool) (t : RendererTable α) (steps : List (TableStep α)) :
    RendererTable α :=
  steps.foldl (after callable) t

/-- The steps of a run that did not fail. -/
def RendererTable.taken (callable : α → Bool) (t : RendererTable α) :
    List (TableStep α) → List (TableStep α)
  | [] => []
  | s :: steps =>
    match s.apply callable t with
    | .ok t' => s :: taken callable t' steps
    | .error _ => taken callable t steps

/-- The order of the mapping that the last new table was made from, and that of the constructs where
there is none. -/
def orderAfter (steps : List (TableStep α)) : List Construct :=
  ((steps.filterMap TableStep.mapping?).getLast?.map fun pairs ↦
    constructs (mergePairs pairs)).getD Construct.all

/-- What a table is after some steps that did not fail, from the entries `f` on: complete, in the
order of the last new table, and with the entry for each construct that was given last. -/
structure RendererTable.Follows (callable : α → Bool) (f : Construct → α)
    (steps : List (TableStep α)) (t : RendererTable α) : Prop where
  complete : t.Complete callable
  order : t.keys = orderAfter steps
  entries : ∀ key, t.get? key =
    key.construct?.map fun c ↦ (given? (steps.flatMap TableStep.pairs) c).getD (f c)

/-- The order is that of the last step that sets all entries. -/
theorem orderAfter_concat (steps : List (TableStep α)) (s : TableStep α) :
    orderAfter (steps ++ [s]) =
      (s.mapping?.map fun pairs ↦ constructs (mergePairs pairs)).getD (orderAfter steps) := by
  rw [orderAfter, List.filterMap_append, List.getLast?_append]
  cases s <;> rfl

namespace RendererTable

variable {f : Construct → α} {steps : List (TableStep α)} {t t' : RendererTable α}

/-- Before the first step, the table is that of its function. -/
theorem follows_nil (hf : ∀ c, callable (f c) = true) : Follows callable f [] (ofFn f) where
  complete := complete_ofFn hf
  order := keys_ofFn f
  entries := get?_eq_map fun c ↦ by
    rw [get?_name]
    exact lookup_eq_some_of_mem (complete_ofFn hf).nodup
      (List.mem_map_of_mem (Construct.mem_all c))

/-- The entry given last counts, be it the step that gives it or one before. -/
theorem Follows.entryOf?_eq (h : Follows callable f steps t) {s : TableStep α} {c : Construct}
    (hc : (s.entryOf? t c).isSome = true) :
    s.entryOf? t c =
      some ((given? ((steps ++ [s]).flatMap TableStep.pairs) c).getD (f c)) := by
  rw [List.flatMap_append, List.flatMap_singleton, given?_append]
  cases s with
  | create pairs =>
    -- a new table has no entries of its own, so the pairs name the construct
    obtain ⟨entry, hentry⟩ := Option.isSome_iff_exists.1 hc
    have hgiven : given? pairs c = some entry := hentry
    rw [hentry, TableStep.pairs, hgiven]
    rfl
  | override pairs =>
    have hbefore := h.entries (.name c.name)
    rw [TableKey.construct?_eq_some_iff.2 rfl, Option.map_some] at hbefore
    rw [TableStep.entryOf?, TableStep.pairs, hbefore]
    cases given? pairs c <;> rfl

/-- **What a step keeps.** -/
theorem Follows.apply (h : Follows callable f steps t) {s : TableStep α}
    (hs : s.apply callable t = .ok t') : Follows callable f (steps ++ [s]) t' := by
  have ht := h.complete
  rw [TableStep.apply_eq ht, unlessFault_eq_ok_iff, Option.or_eq_none_iff] at hs
  obtain ⟨⟨-, hreport⟩, rfl⟩ := hs
  obtain ⟨-, hcallable, hall⟩ := (TableStep.report?_eq_none_iff ht).1 hreport
  refine ⟨TableStep.complete_placed ht hcallable hall, ?_, get?_eq_map fun c ↦ ?_⟩
  · rw [orderAfter_concat, ← h.order]
    exact TableStep.map_fst_placed ht s
  · rw [get?_name, TableStep.lookup_placed]
    exact h.entryOf?_eq (hall c)

/-- **What a run keeps.** -/
theorem Follows.run (h : Follows callable f steps t) (later : List (TableStep α)) :
    Follows callable f (steps ++ taken callable t later) (t.run callable later) := by
  -- the steps that were taken so far grow with the run
  induction later generalizing t steps with
  | nil => rwa [taken, List.append_nil]
  | cons s later ih =>
    rw [RendererTable.run, List.foldl_cons, taken, after]
    cases hs : s.apply callable t with
    | ok t' =>
      have hlater := ih (h.apply hs)
      rwa [List.append_assoc, List.singleton_append] at hlater
    | error e => exact ih h

/-- **Runs over tables.** After any steps from a complete table on, the table follows from those
that did not fail. A further step fails exactly where it is faulty, and it says what it reports,
unless a key cannot be given to it. -/
theorem follows_run (hf : ∀ c, callable (f c) = true) (steps : List (TableStep α)) :
    Follows callable f (taken callable (ofFn f) steps) ((ofFn f).run callable steps) ∧
      ∀ s : TableStep α,
        ((∃ e, s.apply callable ((ofFn f).run callable steps) = .error e) ↔
          s.Faulty callable ((ofFn f).run callable steps)) ∧
        ∀ e, s.apply callable ((ofFn f).run callable steps) = .error e ↔
          s.nameFault?.or (s.report? callable ((ofFn f).run callable steps)) = some e := by
  have hfollows := (follows_nil hf).run steps
  rw [List.nil_append] at hfollows
  refine ⟨hfollows, fun s ↦ ⟨TableStep.exists_apply_eq_error_iff hfollows.complete, fun e ↦ ?_⟩⟩
  rw [TableStep.apply_eq hfollows.complete, unlessFault_eq_error_iff]

/-- Steps of which only the third is taken, on tables of numbers, where 0 cannot be called. -/
def rejectedSteps : List (TableStep Nat) :=
  [.override [(.name "blink", 2)], .override [(.name "link", 0)], .override [(.name "link", 2)],
    .create [(.name "link", 3)]]

/-- The entry that was given is there, in its old place; the others are those of the start. -/
theorem follows_run_rejectedSteps :
    taken (fun n ↦ n != 0) (ofFn fun _ ↦ 1) rejectedSteps = [.override [(.name "link", 2)]] ∧
      ((ofFn fun _ ↦ 1).run (fun n ↦ n != 0) rejectedSteps).keys = Construct.all ∧
      ((ofFn fun _ ↦ 1).run (fun n ↦ n != 0) rejectedSteps).get? (.name "link") = some 2 ∧
      ((ofFn fun _ ↦ 1).run (fun n ↦ n != 0) rejectedSteps).get? (.name "image") = some 1 := by
  have hrun := @follows_run Nat (fun n ↦ n != 0) (fun _ ↦ 1) (fun _ ↦ rfl) rejectedSteps
  have htaken : taken (fun n ↦ n != 0) (ofFn fun _ ↦ 1) rejectedSteps =
      [.override [(.name "link", 2)]] := by
    with_unfolding_all rfl
  obtain ⟨-, horder, hentries⟩ := hrun.1
  rw [htaken] at horder hentries
  exact ⟨htaken, horder, hentries _, hentries _⟩

/-- Of the name of the table itself, an override does not report that it is unknown, while a new
table does. -/
theorem report_ownName :
    (TableStep.override [(.name ownName, true)]).apply id (ofFn fun _ ↦ true) =
        .error (.nameTaken ownName) ∧
      (TableStep.override [(.name ownName, true)]).report? id (ofFn fun _ ↦ true) =
        some (.unknownConstruct (.name ownName)) ∧
      (TableStep.create [(.name ownName, true)]).apply id (ofFn fun _ ↦ true) =
        .error (.unknownConstruct (.name ownName)) ∧
      TableError.nameTaken ownName ≠ .unknownConstruct (.name ownName) :=
  ⟨rfl, rfl, rfl, by decide⟩

end RendererTable

end SafeMarkdown
