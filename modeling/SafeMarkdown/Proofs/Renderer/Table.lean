import Mathlib.Data.List.Nodup
import SafeMarkdown.Proofs.KeyedList
import SafeMarkdown.Proofs.Outcome
import SafeMarkdown.Renderer.Table

/-!
# What making a table gives

Both ways to make a table look at one thing after the other, stop at the first fault, and set
entries. `place` sets the entries without looking for faults. `ofPairs_eq` and `override_eq` take
the two apart again: the fault that comes first, or else the entries as they are placed.

A table that is complete is the graph of a function on the constructs, and overriding entries of it
changes the function at the constructs that are named, whatever their order (`override_ofFn`).
Naming all twelve with a wrapper each gives the renderers in which every construct is wrapped
(`ofWrappers_eq_wrapped`).

Both functions are written as chains of checks and settings. Stating them as one check followed by
one result (`unlessFault`) is what lets a run over tables speak of faults and entries apart: which
fault is reported does not depend on the entries set before it, and which entries are set does not
depend on the faults that were not there.
-/

namespace SafeMarkdown

/-- Constructs have different names. -/
theorem Construct.name_injective : Function.Injective Construct.name := fun c d h ↦ by
  have hread := congrArg Construct.ofName? h
  rw [Construct.ofName?_name, Construct.ofName?_name] at hread
  exact Option.some.inj hread

/-- A key names one construct at most, and only its name does. -/
theorem TableKey.construct?_eq_some_iff {key : TableKey} {c : Construct} :
    key.construct? = some c ↔ key = .name c.name := by
  constructor
  · intro h
    cases key with
    | name text =>
      rw [TableKey.construct?, Construct.ofName?] at h
      have hname := List.find?_some h
      rw [beq_iff_eq.1 hname]
    | scalar literal => cases h
  · rintro rfl
    exact Construct.ofName?_name c

/-- The result, unless there is a fault. -/
def unlessFault {ε β : Type} (fault : Option ε) (b : β) : Except ε β :=
  fault.elim (.ok b) .error

section UnlessFault

variable {ε β γ : Type} {fault : Option ε} {b : β}

/-- A fault is an error. -/
theorem unlessFault_eq_error_iff {e : ε} : unlessFault fault b = .error e ↔ fault = some e := by
  cases fault <;> simp [unlessFault]

/-- Without a fault there is a result. -/
theorem unlessFault_eq_ok_iff {b' : β} : unlessFault fault b = .ok b' ↔ fault = none ∧ b = b' := by
  cases fault <;> simp [unlessFault]

/-- What comes next comes next unless there is a fault. -/
theorem unlessFault_bind {next : β → Except ε γ} :
    (unlessFault fault b >>= next) = fault.elim (next b) .error := by
  cases fault <;> rfl

/-- Of two faults, the first counts. -/
theorem unlessFault_or {next : Option ε} :
    unlessFault (fault.or next) b = fault.elim (unlessFault next b) .error := by
  cases fault <;> rfl

end UnlessFault

namespace RendererTable

variable {α : Type} {callable : α → Bool}

/-- The constructs of a table, in its order. -/
def keys (t : RendererTable α) : List Construct :=
  t.entries.map Prod.fst

/-! ### Placing entries -/

/-- The entries with those of the pairs set one by one; keys that name no construct are passed
over. -/
def place (entries : List (Construct × α)) : List (TableKey × α) → List (Construct × α)
  | [] => entries
  | (key, entry) :: rest =>
    match key.construct? with
    | none => place entries rest
    | some c => place (setEntry c entry entries) rest

/-- A pair with a name is placed before the others. -/
theorem place_cons_of_name (entries : List (Construct × α)) (c : Construct) (entry : α)
    (rest : List (TableKey × α)) :
    place entries ((.name c.name, entry) :: rest) = place (setEntry c entry entries) rest := by
  rw [place, TableKey.construct?_eq_some_iff.2 rfl]

/-- The last pair that names a construct counts, and the entry that was there where none does. -/
theorem lookup_place (entries : List (Construct × α)) (pairs : List (TableKey × α))
    (c : Construct) :
    (place entries pairs).lookup c =
      (pairs.reverse.lookup (.name c.name)).or (entries.lookup c) := by
  induction pairs generalizing entries with
  | nil => rfl
  | cons p pairs ih =>
    obtain ⟨key, entry⟩ := p
    rw [List.reverse_cons, List.lookup_append, Option.or_assoc, lookup_cons_eq_ite]
    cases hkey : key.construct? with
    | none =>
      -- the pair is passed over, and a lookup by name does not find it either
      have hne : TableKey.name c.name ≠ key := by
        rintro rfl
        cases (TableKey.construct?_eq_some_iff.2 rfl).symm.trans hkey
      rw [place, hkey, if_neg hne, List.lookup_nil, Option.none_or]
      exact ih entries
    | some d =>
      obtain rfl := TableKey.construct?_eq_some_iff.1 hkey
      rw [place_cons_of_name, ih, lookup_setEntry]
      by_cases hd : c = d
      · subst hd
        rw [if_pos rfl, if_pos rfl, Option.some_or]
      · have hne : TableKey.name c.name ≠ .name d.name := fun h ↦
          hd (Construct.name_injective (TableKey.name.inj h))
        rw [if_neg hd, if_neg hne, List.lookup_nil, Option.none_or]

/-- Setting entries that are there moves none. -/
theorem map_fst_place_of_mem {entries : List (Construct × α)}
    (h : ∀ c, c ∈ entries.map Prod.fst) (pairs : List (TableKey × α)) :
    (place entries pairs).map Prod.fst = entries.map Prod.fst := by
  induction pairs generalizing entries with
  | nil => rfl
  | cons p pairs ih =>
    obtain ⟨key, entry⟩ := p
    unfold place
    split
    · exact ih h
    · rename_i c hkey
      have hkeys := map_fst_setEntry_of_mem (a := entry) (h c)
      rw [ih (hkeys ▸ h), hkeys]

/-- The constructs that the pairs name, in their order. -/
def constructs (pairs : List (TableKey × α)) : List Construct :=
  pairs.filterMap fun p ↦ p.1.construct?

/-- New entries are placed in the order of their pairs. -/
theorem map_fst_place_of_nodup {entries : List (Construct × α)} {pairs : List (TableKey × α)}
    (h : (entries.map Prod.fst ++ constructs pairs).Nodup) :
    (place entries pairs).map Prod.fst = entries.map Prod.fst ++ constructs pairs := by
  induction pairs generalizing entries with
  | nil => exact (List.append_nil _).symm
  | cons p pairs ih =>
    obtain ⟨key, entry⟩ := p
    unfold place
    rw [constructs, List.filterMap_cons] at h ⊢
    cases hkey : key.construct? with
    | none =>
      rw [hkey] at h
      exact ih h
    | some c =>
      -- the construct has no entry yet, so its own goes to the end
      rw [hkey] at h
      dsimp only at h ⊢
      have hnew : c ∉ entries.map Prod.fst := fun hmem ↦
        (List.nodup_append.1 h).2.2 c hmem c List.mem_cons_self rfl
      have hkeys : (setEntry c entry entries).map Prod.fst = entries.map Prod.fst ++ [c] := by
        rw [setEntry_of_not_mem hnew, List.map_append, List.map_singleton]
      have hsplit (cs : List Construct) :
          entries.map Prod.fst ++ c :: cs = entries.map Prod.fst ++ [c] ++ cs := by
        rw [List.append_assoc, List.singleton_append]
      rw [hsplit] at h ⊢
      rw [← hkeys] at h ⊢
      exact ih h

/-- Pairs that name distinct constructs are placed as they are. -/
theorem place_names {entries added : List (Construct × α)}
    (h : ((entries ++ added).map Prod.fst).Nodup) :
    place entries (added.map fun e ↦ (.name e.1.name, e.2)) = entries ++ added := by
  induction added generalizing entries with
  | nil => exact (List.append_nil entries).symm
  | cons e added ih =>
    have hsplit : entries ++ e :: added = entries ++ [(e.1, e.2)] ++ added := by
      rw [List.append_assoc, List.singleton_append]
    have hnew : e.1 ∉ entries.map Prod.fst := fun hmem ↦ by
      rw [List.map_append, List.map_cons] at h
      exact (List.nodup_append.1 h).2.2 e.1 hmem e.1 List.mem_cons_self rfl
    rw [hsplit] at h ⊢
    rw [List.map_cons, place_cons_of_name, setEntry_of_not_mem hnew, ih h]

/-! ### Faults -/

/-- What is reported of a key. -/
def keyFault? (key : TableKey) : Option TableError :=
  match key.construct? with
  | none => some (.unknownConstruct key)
  | some _ => none

/-- A key has no fault when it names a construct. -/
theorem keyFault?_eq_none_iff {key : TableKey} : keyFault? key = none ↔ key.construct? ≠ none := by
  unfold keyFault?
  cases key.construct? <;> simp

/-- A key that is not reported is the name of a construct. -/
theorem exists_of_keyFault?_eq_none {key : TableKey} (h : keyFault? key = none) :
    ∃ c : Construct, key = .name c.name := by
  obtain ⟨c, hc⟩ := Option.ne_none_iff_exists'.1 (keyFault?_eq_none_iff.1 h)
  exact ⟨c, TableKey.construct?_eq_some_iff.1 hc⟩

/-- What is reported of the entry of a construct. -/
def entryFault? (callable : α → Bool) (c : Construct) (entry : α) : Option TableError :=
  if callable entry then none else some (.notCallable c)

/-- What is reported of a pair: its key comes before its entry. -/
def pairFault? (callable : α → Bool) (p : TableKey × α) : Option TableError :=
  match p.1.construct? with
  | none => some (.unknownConstruct p.1)
  | some c => entryFault? callable c p.2

/-- What is reported where some constructs have no entry. -/
def missingFault? (entryOf? : Construct → Option α) : Option TableError :=
  match Construct.all.filter fun c ↦ (entryOf? c).isNone with
  | [] => none
  | cs => some (.missing cs)

/-- What is reported of keys that cannot be given to an override. -/
def nameFault? (pairs : List (TableKey × α)) : Option TableError :=
  if pairs.any fun p ↦ !p.1.isName then some .nameExpected
  else if pairs.any fun p ↦ p.1 = .name ownName then some (.nameTaken ownName)
  else none

/-- Checking names gives the first fault in a name. -/
theorem checkNames_eq (pairs : List (TableKey × α)) :
    checkNames pairs = unlessFault (nameFault? pairs) () := by
  unfold checkNames nameFault?
  split
  · rfl
  · split <;> rfl

/-- Adding pairs places them unless one has a fault. -/
theorem addPairs_eq (entries : List (Construct × α)) (pairs : List (TableKey × α)) :
    addPairs callable entries pairs =
      unlessFault (pairs.findSome? (pairFault? callable)) (place entries pairs) := by
  induction pairs generalizing entries with
  | nil => rfl
  | cons p pairs ih =>
    obtain ⟨key, entry⟩ := p
    rw [addPairs, List.findSome?_cons, pairFault?, place]
    cases key.construct? with
    | none => rfl
    | some c =>
      dsimp only [entryFault?]
      split
      · exact ih _
      · rfl

/-- Replacing places them unless a key has a fault. -/
theorem replace_eq (entries : List (Construct × α)) (pairs : List (TableKey × α)) :
    replace entries pairs =
      unlessFault (pairs.findSome? fun p ↦ keyFault? p.1) (place entries pairs) := by
  induction pairs generalizing entries with
  | nil => rfl
  | cons p pairs ih =>
    obtain ⟨key, entry⟩ := p
    rw [replace, List.findSome?_cons, keyFault?, place]
    cases key.construct? with
    | none => rfl
    | some c => exact ih _

/-- What is missing is listed in the order of constructs. -/
theorem missing_eq (entries : List (Construct × α)) :
    missing entries = Construct.all.filter fun c ↦ (entries.lookup c).isNone := by
  refine List.filter_congr fun c _ ↦ ?_
  rw [Bool.eq_iff_iff, Option.isNone_iff_eq_none, ← Option.not_isSome_iff_eq_none,
    isSome_lookup_iff]
  simp

/-- **A new table**: the first faulty pair is reported, then what is missing, and otherwise the
table has the entries in the order of the pairs. -/
theorem ofPairs_eq (pairs : List (TableKey × α)) :
    ofPairs callable pairs =
      unlessFault
        (((mergePairs pairs).findSome? (pairFault? callable)).or
          (missingFault? ((place [] (mergePairs pairs)).lookup ·)))
        ⟨place [] (mergePairs pairs)⟩ := by
  rw [ofPairs, addPairs_eq, unlessFault_bind, unlessFault_or, missing_eq]
  congr 1
  unfold missingFault?
  cases Construct.all.filter fun c ↦ ((place [] (mergePairs pairs)).lookup c).isNone <;> rfl

/-- A table that has all entries is made again, unless one of them cannot be called. -/
theorem ofPairs_entries {entries : List (Construct × α)}
    (hperm : (entries.map Prod.fst).Perm Construct.all) :
    ofPairs callable (entries.map fun e ↦ (.name e.1.name, e.2)) =
      unlessFault (entries.findSome? fun e ↦ entryFault? callable e.1 e.2) ⟨entries⟩ := by
  have hnodup : (entries.map Prod.fst).Nodup := hperm.nodup_iff.2 Construct.nodup_all
  have hkeys : ((entries.map fun e ↦ (TableKey.name e.1.name, e.2)).map Prod.fst).Nodup := by
    have hnames := hnodup.map (f := fun c ↦ TableKey.name (Construct.name c)) fun c d h ↦
      Construct.name_injective (TableKey.name.inj h)
    rw [List.map_map] at hnames ⊢
    exact hnames
  have hplace : place [] (entries.map fun e ↦ (TableKey.name e.1.name, e.2)) = entries :=
    place_names (by simpa using hnodup)
  have hpair : (pairFault? callable ∘ fun e : Construct × α ↦ (TableKey.name e.1.name, e.2)) =
      fun e ↦ entryFault? callable e.1 e.2 := by
    funext e
    rw [Function.comp_apply, pairFault?, TableKey.construct?_eq_some_iff.2 rfl]
  have hmissing : missingFault? (entries.lookup ·) = none := by
    have hnone : (Construct.all.filter fun c ↦ (entries.lookup c).isNone) = [] := by
      refine List.filter_eq_nil_iff.2 fun c hc ↦ ?_
      have hsome := isSome_lookup_iff.2 (hperm.mem_iff.2 hc)
      simpa using Option.isSome_iff_ne_none.1 hsome
    rw [missingFault?, hnone]
  rw [ofPairs_eq, mergePairs_of_nodup hkeys, hplace, hmissing, Option.or_none, List.findSome?_map,
    hpair]

/-- **A table with entries replaced**: keys that cannot be given are reported first, then the first
unknown key, then the first entry of the table that cannot be called. -/
theorem override_eq {t : RendererTable α} (hperm : t.keys.Perm Construct.all)
    (pairs : List (TableKey × α)) :
    t.override callable pairs =
      unlessFault
        ((nameFault? pairs).or (((mergePairs pairs).findSome? fun p ↦ keyFault? p.1).or
          ((place t.entries (mergePairs pairs)).findSome? fun e ↦ entryFault? callable e.1 e.2)))
        ⟨place t.entries (mergePairs pairs)⟩ := by
  have hall (c : Construct) : c ∈ t.entries.map Prod.fst := hperm.mem_iff.2 (Construct.mem_all c)
  have hplaced : ((place t.entries (mergePairs pairs)).map Prod.fst).Perm Construct.all := by
    rw [map_fst_place_of_mem hall]
    exact hperm
  rw [override, checkNames_eq, replace_eq, unlessFault_bind, unlessFault_bind, unlessFault_or,
    unlessFault_or, ofPairs_entries hplaced]

/-! ### Complete tables -/

/-- The table of a function has every construct as key, in order. -/
theorem keys_ofFn (f : Construct → α) : (ofFn f).keys = Construct.all := by
  rw [keys, ofFn, List.map_map]
  exact List.map_id _

/-- Placing entries in the graph of a function changes the function there. -/
theorem place_graph (cs : List Construct) (e v : Construct → α) :
    place (Construct.all.map fun d ↦ (d, v d)) (cs.map fun c ↦ (.name c.name, e c)) =
      Construct.all.map fun d ↦ (d, if d ∈ cs then e d else v d) := by
  induction cs generalizing v with
  | nil => simp [place]
  | cons c cs ih =>
    rw [List.map_cons, place_cons_of_name,
      setEntry_graph Construct.nodup_all (Construct.mem_all c), ih]
    congr 1
    funext d
    by_cases hd : d = c
    · subst hd
      simp
    · simp [hd]

/-- Pairs that name distinct constructs have distinct keys. -/
theorem mergePairs_names {cs : List Construct} (hnodup : cs.Nodup) (e : Construct → α) :
    mergePairs (cs.map fun c ↦ (TableKey.name c.name, e c)) =
      cs.map fun c ↦ (TableKey.name c.name, e c) := by
  refine mergePairs_of_nodup ?_
  rw [List.map_map]
  refine List.Pairwise.map _ (fun c d hne heq ↦ hne ?_) hnodup
  exact Construct.name_injective (TableKey.name.inj heq)

/-- The names of constructs can all be given to an override. -/
theorem nameFault?_eq_none {pairs : List (TableKey × α)}
    (h : ∀ p ∈ pairs, keyFault? p.1 = none) : nameFault? pairs = none := by
  have hown (c : Construct) : c.name ≠ ownName := by
    cases c <;> decide
  have hnames : (pairs.any fun p ↦ !p.1.isName) = false := by
    refine List.any_eq_false.2 fun p hp ↦ ?_
    obtain ⟨c, hc⟩ := exists_of_keyFault?_eq_none (h p hp)
    simp [hc, TableKey.isName]
  have hfree : (pairs.any fun p ↦ p.1 = .name ownName) = false := by
    refine List.any_eq_false.2 fun p hp ↦ ?_
    obtain ⟨c, hc⟩ := exists_of_keyFault?_eq_none (h p hp)
    simp [hc, hown]
  rw [nameFault?, hnames, hfree]
  rfl

/-- **Overriding a complete table** gives each construct that is named its new entry, and leaves
the other entries and the order of the table as they are. -/
theorem override_ofFn {cs : List Construct} (hnodup : cs.Nodup) {e v : Construct → α}
    (hcallable : ∀ c, callable (if c ∈ cs then e c else v c) = true) :
    (ofFn v).override callable (cs.map fun c ↦ (.name c.name, e c)) =
      .ok (ofFn fun c ↦ if c ∈ cs then e c else v c) := by
  have hkeys : ∀ p ∈ cs.map fun c ↦ (TableKey.name c.name, e c), keyFault? p.1 = none := by
    refine List.forall_mem_map.2 fun c _ ↦ ?_
    rw [keyFault?, TableKey.construct?_eq_some_iff.2 rfl]
  have hentries : ((Construct.all.map fun d ↦ (d, if d ∈ cs then e d else v d)).findSome?
      fun p ↦ entryFault? callable p.1 p.2) = none := by
    refine List.findSome?_eq_none_iff.2 (List.forall_mem_map.2 fun c _ ↦ ?_)
    rw [entryFault?, if_pos (hcallable c)]
  rw [override_eq (keys_ofFn v ▸ List.Perm.refl _), nameFault?_eq_none hkeys,
    mergePairs_names hnodup, List.findSome?_eq_none_iff.2 hkeys, ofFn, place_graph, hentries]
  rfl

end RendererTable

/-- The renderers in which every construct is put into its wrapper. -/
def Renderers.wrapped (w : Construct → Wrapper) : Renderers :=
  Construct.all.foldl (fun r c ↦ r.override c (w c)) .standard

/-- Overriding all constructs, in whatever order, wraps all of them. -/
theorem Renderers.ofWrappers_eq_wrapped (w : Construct → Wrapper) {order : List Construct}
    (horder : order.Perm Construct.all) :
    Renderers.ofWrappers (order.map fun c ↦ (.name c.name, w c)) = .ok (wrapped w) := by
  have hnodup : order.Nodup := horder.nodup_iff.2 Construct.nodup_all
  have hnamed : ∀ c, c ∈ order := fun c ↦ horder.mem_iff.2 (Construct.mem_all c)
  rw [ofWrappers, List.map_map]
  dsimp only [Function.comp_def]
  rw [RendererTable.override_ofFn hnodup fun _ ↦ rfl, ok_bind]
  simp only [hnamed, if_true]
  rfl

end SafeMarkdown
