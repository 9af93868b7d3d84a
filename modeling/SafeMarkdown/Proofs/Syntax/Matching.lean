import Mathlib.Data.List.Nodup
import SafeMarkdown.Proofs.KeyedList
import SafeMarkdown.Proofs.Syntax.Pairing
import SafeMarkdown.Proofs.Syntax.Role

/-!
# Which end tag closes a start tag

Pairing is one pass with the start tags that are still open. What it computes can be said without
the pass: a start tag is closed by the first end tag after it with which, between the two, the end
tags of its name come to outnumber the start tags of its name (`lookup_pairTags_eq_some_iff`). Tags
of other names do not occur in this, nor does anything that stands before the start tag.

`closer` is the link between the two. It looks for the end tag of one element, and counts only the
elements of its name that are inside. On one side, `closer` finds the first place where the end tags
exceed the start tags (`ExceedsAt`). On the other, the pass pairs a start tag with what `closer`
gives for it, and this is an induction on the list of roles in which the tags that are open are
described by `PairsPending`, each by the `closer` for its name and its depth.
-/

namespace SafeMarkdown.Syntax

/-! ### Tags by their sources -/

/-- The node opens an element of that name among siblings where only nodes of `kind` count as tags.
A block opens an element that it does not close; any other piece, one that is not closed at once. -/
def Opens (kind : Kind) (name : String) (n : Node) : Prop :=
  n.kind = kind ∧ endTagName? n.content.toList = none ∧
    if kind = .htmlBlock then unclosedTag? n.content.toList = some name
    else startTagName? n.content.toList = some name ∧ isSelfClosing n.content.toList name = false

/-- The node is an end tag of that name among siblings where only nodes of `kind` count as tags. -/
def Closes (kind : Kind) (name : String) (n : Node) : Prop :=
  n.kind = kind ∧ endTagName? n.content.toList = some name

instance (kind : Kind) (name : String) (n : Node) : Decidable (Opens kind name n) :=
  inferInstanceAs (Decidable (_ ∧ _ ∧ ite _ _ _))

instance (kind : Kind) (name : String) (n : Node) : Decidable (Closes kind name n) :=
  inferInstanceAs (Decidable (_ ∧ _))

/-- Of the tags of that name, more close an element than open one. -/
def Outnumbered (kind : Kind) (name : String) (nodes : List Node) : Prop :=
  nodes.countP (Opens kind name ·) < nodes.countP (Closes kind name ·)

/-- The role of a start tag is to open. -/
theorem role_eq_opening_iff {kind : Kind} {name : String} {n : Node} :
    n.role kind = .opening name ↔ Opens kind name n := by
  unfold Node.role Opens
  by_cases hkind : n.kind = kind
  · by_cases hblock : kind = .htmlBlock
    · simp [hkind, hblock, roleBlock_eq_opening_iff]
    · simp [hkind, hblock, roleInline_eq_opening_iff]
  · simp [hkind]

/-- The role of an end tag is to close. -/
theorem role_eq_closing_iff {kind : Kind} {name : String} {n : Node} :
    n.role kind = .closing name ↔ Closes kind name n := by
  constructor
  · intro h
    have hkind : n.kind = kind := kind_eq_of_role (by simp [h])
    refine ⟨hkind, ?_⟩
    rw [Node.role, if_pos hkind] at h
    split at h
    · exact endTagName?_of_roleBlock h
    · exact endTagName?_of_roleInline h
  · rintro ⟨hkind, hname⟩
    rw [Node.role, if_pos hkind]
    split
    · exact roleBlock_of_endTagName? hname
    · exact roleInline_of_endTagName? hname

/-! ### The end tag of one element -/

/-- Where the end tag of an element stands among the roles after its start tag, when `depth` further
elements of its name are open inside it. -/
def closer (name : String) : Nat → List TagRole → Option Nat
  | _, [] => none
  | depth, .neither :: roles => (closer name depth roles).map (· + 1)
  | depth, .opening other :: roles =>
    (closer name (if other = name then depth + 1 else depth) roles).map (· + 1)
  | depth, .closing other :: roles =>
    if other = name ∧ depth = 0 then some 0
    else (closer name (if other = name then depth - 1 else depth) roles).map (· + 1)

/-- Among the roles, more close an element of the name than open one, by more than `depth`. -/
def Exceeds (name : String) (depth : Nat) (roles : List TagRole) : Prop :=
  roles.count (.opening name) + depth < roles.count (.closing name)

/-- The role at position `k` is the first with which the end tags of the name exceed. -/
structure ExceedsAt (name : String) (depth : Nat) (roles : List TagRole) (k : Nat) : Prop where
  lt_length : k < roles.length
  exceeds : Exceeds name depth (roles.take (k + 1))
  not_before : ∀ m ≤ k, ¬ Exceeds name depth (roles.take m)

/-- No tags outnumber none. -/
theorem not_exceeds_nil (name : String) (depth : Nat) : ¬ Exceeds name depth [] := by
  simp [Exceeds]

section Cons

variable {name : String} {depth : Nat} {role : TagRole} {roles : List TagRole}

/-- A role that opens or closes an element changes the number of those that are open. -/
theorem exceeds_cons_iff {depth' : Nat}
    (hcount : depth + [role].count (.opening name) = depth' + [role].count (.closing name)) :
    Exceeds name depth (role :: roles) ↔ Exceeds name depth' roles := by
  have hcons (a : TagRole) : (role :: roles).count a = [role].count a + roles.count a := by
    rw [← List.count_append, List.singleton_append]
  have hopening := hcons (.opening name)
  have hclosing := hcons (.closing name)
  unfold Exceeds
  omega

/-- Where the end tags come to exceed is found after the first role, at the depth that it leads to.
-/
theorem exceedsAt_cons_iff (depth' : Nat)
    (hcount : depth + [role].count (.opening name) = depth' + [role].count (.closing name))
    {k : Nat} :
    ExceedsAt name depth (role :: roles) k ↔ ∃ l, ExceedsAt name depth' roles l ∧ l + 1 = k := by
  constructor
  · intro h
    cases k with
    | zero =>
      -- none of the roles after the first is taken yet
      have hexceeds := (exceeds_cons_iff hcount).1 h.exceeds
      exact absurd hexceeds (not_exceeds_nil name depth')
    | succ k =>
      refine ⟨k, ⟨by simpa using h.lt_length, (exceeds_cons_iff hcount).1 h.exceeds, ?_⟩, rfl⟩
      intro m hm hexceeds
      exact h.not_before (m + 1) (by omega) ((exceeds_cons_iff hcount).2 hexceeds)
  · rintro ⟨k, h, rfl⟩
    refine ⟨by simpa using h.lt_length, (exceeds_cons_iff hcount).2 h.exceeds, ?_⟩
    intro m hm hexceeds
    cases m with
    | zero => exact not_exceeds_nil name depth hexceeds
    | succ m => exact h.not_before m (by omega) ((exceeds_cons_iff hcount).1 hexceeds)

end Cons

/-- At depth zero the first end tag of the name is the place. -/
theorem exceedsAt_closing_self_iff {name : String} {roles : List TagRole} {k : Nat} :
    ExceedsAt name 0 (.closing name :: roles) k ↔ k = 0 := by
  have hfirst : Exceeds name 0 [.closing name] := by simp [Exceeds]
  constructor
  · intro h
    refine Decidable.byContradiction fun hk ↦ h.not_before 1 (by omega) ?_
    exact hfirst
  · rintro rfl
    refine ⟨by simp, hfirst, fun m hm ↦ ?_⟩
    obtain rfl : m = 0 := by omega
    exact not_exceeds_nil name 0

/-- **The end tag of an element** is the first one with which the end tags of its name outnumber the
start tags by more than the elements inside account for. -/
theorem closer_eq_some_iff {name : String} {depth k : Nat} {roles : List TagRole} :
    closer name depth roles = some k ↔ ExceedsAt name depth roles k := by
  induction roles generalizing depth k with
  | nil => simpa [closer] using fun h ↦ absurd h.lt_length (by simp)
  | cons role roles ih =>
    cases role with
    | neither =>
      rw [closer, Option.map_eq_some_iff, exceedsAt_cons_iff depth (by simp)]
      simp only [ih]
    | opening other =>
      rw [closer, Option.map_eq_some_iff]
      by_cases hother : other = name
      · rw [if_pos hother, exceedsAt_cons_iff (depth + 1) (by simp [hother])]
        simp only [ih]
      · rw [if_neg hother, exceedsAt_cons_iff depth (by simp [hother])]
        simp only [ih]
    | closing other =>
      rw [closer]
      by_cases hother : other = name
      · subst hother
        cases depth with
        | zero => simp [exceedsAt_closing_self_iff, eq_comm]
        | succ depth =>
          rw [if_neg (by simp), if_pos rfl, Option.map_eq_some_iff,
            exceedsAt_cons_iff depth (by simp)]
          simp only [ih, Nat.add_sub_cancel]
      · rw [if_neg (by simp [hother]), if_neg hother, Option.map_eq_some_iff,
          exceedsAt_cons_iff depth (by simp [hother])]
        simp only [ih]

/-! ### The start tags that are open -/

/-- Where the start tags of that name stand among those that are open, nearest first. -/
def startsOf (name : String) (pending : List (String × Nat)) : List Nat :=
  (pending.filter fun p ↦ p.1 == name).map Prod.snd

/-- The open start tags of a name in two lists are those in each. -/
theorem startsOf_append (name : String) (pending pending' : List (String × Nat)) :
    startsOf name (pending ++ pending') = startsOf name pending ++ startsOf name pending' := by
  simp [startsOf]

/-- The open start tags of a name are found one by one. -/
theorem startsOf_cons (name : String) (p : String × Nat) (pending : List (String × Nat)) :
    startsOf name (p :: pending) = startsOf name [p] ++ startsOf name pending :=
  startsOf_append name [p] pending

/-- A start tag of the name counts. -/
@[simp] theorem startsOf_cons_self (name : String) (start : Nat) (pending : List (String × Nat)) :
    startsOf name ((name, start) :: pending) = start :: startsOf name pending := by
  simp [startsOf]

/-- A start tag of another name does not. -/
theorem startsOf_cons_of_ne {name other : String} (h : other ≠ name) (start : Nat)
    (pending : List (String × Nat)) :
    startsOf name ((other, start) :: pending) = startsOf name pending := by
  simp [startsOf, h]

/-- Where no start tag of the name is open, none is found. -/
theorem startsOf_eq_nil {name : String} {pending : List (String × Nat)}
    (h : ∀ p ∈ pending, p.1 ≠ name) : startsOf name pending = [] := by
  simpa [startsOf, List.filter_eq_nil_iff] using h

/-- Looking up the name finds nothing exactly then. -/
theorem startsOf_of_lookup_eq_none {name : String} {pending : List (String × Nat)}
    (h : pending.lookup name = none) : startsOf name pending = [] := by
  refine startsOf_eq_nil fun p hp hname ↦ ?_
  have hne := List.lookup_eq_none_iff.1 h p hp
  simp [hname] at hne

/-- What looking up finds is the nearest, and closing it leaves the others. -/
theorem startsOf_of_lookup_eq_some {name : String} {pending : List (String × Nat)} {start : Nat}
    (h : pending.lookup name = some start) :
    startsOf name pending = start :: startsOf name (pending.eraseP fun p ↦ p.1 == name) := by
  obtain ⟨before, after, rfl, hbefore⟩ := List.lookup_eq_some_iff.1 h
  replace hbefore : ∀ p ∈ before, p.1 ≠ name := fun p hp hname ↦ by
    have hne := hbefore p hp
    simp [hname] at hne
  rw [List.eraseP_append_right _ (by simpa using hbefore), List.eraseP_cons_of_pos (by simp)]
  simp only [startsOf_append, startsOf_cons_self, startsOf_eq_nil hbefore, List.nil_append]

/-- Closing a tag of another name leaves them all. -/
theorem startsOf_eraseP_of_ne {name other : String} (h : other ≠ name)
    (pending : List (String × Nat)) :
    startsOf name (pending.eraseP fun p ↦ p.1 == other) = startsOf name pending := by
  induction pending with
  | nil => rfl
  | cons p pending ih =>
    obtain ⟨found, start⟩ := p
    by_cases hfound : found = other
    · rw [List.eraseP_cons_of_pos (by simpa using hfound), startsOf_cons_of_ne (hfound ▸ h)]
    · rw [List.eraseP_cons_of_neg (by simpa using hfound), startsOf_cons, ih,
        ← startsOf_cons]

/-! ### All pairs -/

/-- The pair joins a start tag that was open before the roles to its end tag among them. -/
def PairsPending (position : Nat) (pending : List (String × Nat)) (roles : List TagRole)
    (i j : Nat) : Prop :=
  ∃ name depth k, (startsOf name pending)[depth]? = some i ∧ closer name depth roles = some k ∧
    j = position + k

/-- The pair joins a start tag among the roles to its end tag. -/
def PairsOpened (position : Nat) (roles : List TagRole) (i j : Nat) : Prop :=
  ∃ name l k, roles[l]? = some (.opening name) ∧ closer name 0 (roles.drop (l + 1)) = some k ∧
    i = position + l ∧ j = position + (l + 1) + k

section Steps

variable {position i j : Nat} {pending : List (String × Nat)} {roles : List TagRole}

/-- A pair that is opened among the roles is opened by the first or after it. -/
theorem pairsOpened_cons_iff {role : TagRole} :
    PairsOpened position (role :: roles) i j ↔
      (∃ name k, role = .opening name ∧ closer name 0 roles = some k ∧ i = position ∧
        j = position + 1 + k) ∨ PairsOpened (position + 1) roles i j := by
  constructor
  · rintro ⟨name, l, k, hopen, hcloser, rfl, rfl⟩
    cases l with
    | zero => exact .inl ⟨name, k, by simpa using hopen, hcloser, rfl, rfl⟩
    | succ l => exact .inr ⟨name, l, k, by simpa using hopen, hcloser, by omega, by omega⟩
  · rintro (⟨name, k, rfl, hcloser, rfl, rfl⟩ | ⟨name, l, k, hopen, hcloser, rfl, rfl⟩)
    · exact ⟨name, 0, k, rfl, hcloser, rfl, rfl⟩
    · exact ⟨name, l + 1, k, by simpa using hopen, hcloser, by omega, by omega⟩

/-- What is no tag changes nothing for those that are open. -/
theorem pairsPending_neither_iff :
    PairsPending position pending (.neither :: roles) i j ↔
      PairsPending (position + 1) pending roles i j := by
  simp only [PairsPending, closer, Option.map_eq_some_iff]
  constructor
  · rintro ⟨name, depth, _, hstart, ⟨k, hcloser, rfl⟩, rfl⟩
    exact ⟨name, depth, k, hstart, hcloser, by omega⟩
  · rintro ⟨name, depth, k, hstart, hcloser, rfl⟩
    exact ⟨name, depth, k + 1, hstart, ⟨k, hcloser, rfl⟩, by omega⟩

/-- A start tag is one more that is open. -/
theorem pairsPending_opening_iff {other : String} :
    PairsPending (position + 1) ((other, position) :: pending) roles i j ↔
      (∃ k, closer other 0 roles = some k ∧ i = position ∧ j = position + 1 + k) ∨
        PairsPending position pending (.opening other :: roles) i j := by
  simp only [PairsPending, closer, Option.map_eq_some_iff]
  constructor
  · rintro ⟨name, depth, k, hstart, hcloser, rfl⟩
    by_cases hname : other = name
    · subst hname
      rw [startsOf_cons_self] at hstart
      cases depth with
      | zero => exact .inl ⟨k, hcloser, by simpa using hstart.symm, rfl⟩
      | succ depth =>
        exact .inr ⟨other, depth, k + 1, by simpa using hstart,
          ⟨k, by rwa [if_pos rfl], rfl⟩, by omega⟩
    · rw [startsOf_cons_of_ne hname] at hstart
      exact .inr ⟨name, depth, k + 1, hstart, ⟨k, by rwa [if_neg hname], rfl⟩, by omega⟩
  · rintro (⟨k, hcloser, rfl, rfl⟩ | ⟨name, depth, _, hstart, ⟨k, hcloser, rfl⟩, rfl⟩)
    · exact ⟨other, 0, k, by simp, hcloser, rfl⟩
    · split at hcloser
      · rename_i hname
        subst hname
        exact ⟨other, depth + 1, k, by simpa using hstart, hcloser, by omega⟩
      · rename_i hname
        exact ⟨name, depth, k, by rwa [startsOf_cons_of_ne hname], hcloser, by omega⟩

/-- An end tag that closes nothing changes nothing. -/
theorem pairsPending_closing_iff_of_none {other : String} (h : pending.lookup other = none) :
    PairsPending position pending (.closing other :: roles) i j ↔
      PairsPending (position + 1) pending roles i j := by
  -- no element of the name is open, so the end tag closes none of those that are
  have hne {name : String} {depth : Nat} (hstart : (startsOf name pending)[depth]? = some i) :
      other ≠ name := by
    rintro rfl
    simp [startsOf_of_lookup_eq_none h] at hstart
  simp only [PairsPending, closer]
  constructor
  · rintro ⟨name, depth, k, hstart, hcloser, rfl⟩
    have hname := hne hstart
    rw [if_neg (by simp [hname]), if_neg hname, Option.map_eq_some_iff] at hcloser
    obtain ⟨k, hcloser, rfl⟩ := hcloser
    exact ⟨name, depth, k, hstart, hcloser, by omega⟩
  · rintro ⟨name, depth, k, hstart, hcloser, rfl⟩
    have hname := hne hstart
    refine ⟨name, depth, k + 1, hstart, ?_, by omega⟩
    rw [if_neg (by simp [hname]), if_neg hname, hcloser, Option.map_some]

/-- An end tag that closes something makes a pair with the nearest of its name. -/
theorem pairsPending_closing_iff_of_some {other : String} {start : Nat}
    (h : pending.lookup other = some start) :
    PairsPending position pending (.closing other :: roles) i j ↔
      (i = start ∧ j = position) ∨
        PairsPending (position + 1) (pending.eraseP fun p ↦ p.1 == other) roles i j := by
  have hstarts := startsOf_of_lookup_eq_some h
  simp only [PairsPending, closer]
  constructor
  · rintro ⟨name, depth, k, hstart, hcloser, rfl⟩
    by_cases hname : other = name
    · subst hname
      rw [hstarts] at hstart
      cases depth with
      | zero =>
        have hi : start = i := by simpa using hstart
        have hk : 0 = k := by simpa using hcloser
        exact .inl ⟨hi.symm, by omega⟩
      | succ depth =>
        rw [if_neg (by simp), if_pos rfl, Option.map_eq_some_iff] at hcloser
        obtain ⟨k, hcloser, rfl⟩ := hcloser
        exact .inr ⟨other, depth, k, by simpa using hstart, hcloser, by omega⟩
    · rw [if_neg (by simp [hname]), if_neg hname, Option.map_eq_some_iff] at hcloser
      obtain ⟨k, hcloser, rfl⟩ := hcloser
      exact .inr ⟨name, depth, k, by rwa [startsOf_eraseP_of_ne hname], hcloser, by omega⟩
  · rintro (⟨rfl, rfl⟩ | ⟨name, depth, k, hstart, hcloser, rfl⟩)
    · exact ⟨other, 0, 0, by simp [hstarts], by simp, rfl⟩
    · by_cases hname : other = name
      · subst hname
        refine ⟨other, depth + 1, k + 1, by simpa [hstarts] using hstart, ?_, by omega⟩
        rw [if_neg (by simp), if_pos rfl, Nat.add_sub_cancel, hcloser, Option.map_some]
      · rw [startsOf_eraseP_of_ne hname] at hstart
        refine ⟨name, depth, k + 1, hstart, ?_, by omega⟩
        rw [if_neg (by simp [hname]), if_neg hname, hcloser, Option.map_some]

end Steps

/-- **The pairs are those of start tags with their end tags**, of the start tags that were open and
of those among the roles. -/
theorem mem_pairsFrom_iff {position i j : Nat} {pending : List (String × Nat)}
    {roles : List TagRole} :
    (i, j) ∈ pairsFrom position pending roles ↔
      PairsPending position pending roles i j ∨ PairsOpened position roles i j := by
  -- one role at a time, for any stack: a start tag goes from the roles to the stack, and an end tag
  -- takes the nearest start tag of its name away
  induction roles generalizing position pending with
  | nil => simp [pairsFrom, PairsPending, PairsOpened, closer]
  | cons role roles ih =>
    rw [pairsOpened_cons_iff]
    cases role with
    | neither => simp [pairsFrom, ih, pairsPending_neither_iff]
    | opening name =>
      rw [pairsFrom, ih, pairsPending_opening_iff]
      simp only [TagRole.opening.injEq, exists_and_left, exists_eq_left', or_assoc, or_left_comm]
    | closing name =>
      rw [pairsFrom]
      split
      · rename_i hlookup
        simp [ih, pairsPending_closing_iff_of_none hlookup]
      · rename_i start hlookup
        rw [List.mem_cons, ih, pairsPending_closing_iff_of_some hlookup]
        simp [or_assoc]

/-! ### Pairs among siblings -/

/-- Roles of opening are counted as the nodes that open. -/
theorem count_opening_eq {kind : Kind} {name : String} (nodes : List Node) :
    (nodes.map (Node.role kind)).count (.opening name) = nodes.countP (Opens kind name ·) := by
  rw [List.count, List.countP_map]
  refine List.countP_congr fun n _ ↦ ?_
  simp [role_eq_opening_iff]

/-- Roles of closing are counted as the nodes that close. -/
theorem count_closing_eq {kind : Kind} {name : String} (nodes : List Node) :
    (nodes.map (Node.role kind)).count (.closing name) = nodes.countP (Closes kind name ·) := by
  rw [List.count, List.countP_map]
  refine List.countP_congr fun n _ ↦ ?_
  simp [role_eq_closing_iff]

/-- To exceed, among roles, is to outnumber, among nodes. -/
theorem exceeds_iff_outnumbered {kind : Kind} {name : String} {nodes : List Node} :
    Exceeds name 0 (nodes.map (Node.role kind)) ↔ Outnumbered kind name nodes := by
  rw [Exceeds, Outnumbered, count_opening_eq, count_closing_eq, Nat.add_zero]

/-- A pair joins a start tag to the end tag that `closer` finds for it. -/
theorem mem_pairTags_iff {kind : Kind} {nodes : List Node} {i j : Nat} :
    (i, j) ∈ pairTags kind nodes ↔
      ∃ name k, (nodes.map (Node.role kind))[i]? = some (.opening name) ∧
        closer name 0 ((nodes.map (Node.role kind)).drop (i + 1)) = some k ∧ j = i + 1 + k := by
  rw [pairTags, mem_pairsFrom_iff]
  simp [PairsPending, PairsOpened, startsOf]

/-- **A start tag has one end tag.** -/
theorem eq_of_mem_pairTags {kind : Kind} {nodes : List Node} {i j j' : Nat}
    (h : (i, j) ∈ pairTags kind nodes) (h' : (i, j') ∈ pairTags kind nodes) : j = j' := by
  obtain ⟨name, k, hopen, hcloser, rfl⟩ := mem_pairTags_iff.1 h
  obtain ⟨name', k', hopen', hcloser', rfl⟩ := mem_pairTags_iff.1 h'
  obtain rfl : name = name' := by simpa [hopen] using hopen'
  obtain rfl : k = k' := by simpa [hcloser] using hcloser'
  rfl

/-- The end tags of the pairs come one after the other. -/
theorem pairwise_pairsFrom (position : Nat) (pending : List (String × Nat))
    (roles : List TagRole) :
    (pairsFrom position pending roles).Pairwise fun p q ↦ p.2 < q.2 := by
  induction roles generalizing position pending with
  | nil => simp [pairsFrom]
  | cons role roles ih =>
    cases role with
    | neither => exact ih _ _
    | opening name => exact ih _ _
    | closing name =>
      rw [pairsFrom]
      split
      · exact ih _ _
      · refine List.pairwise_cons.2 ⟨fun p hp ↦ ?_, ih _ _⟩
        obtain ⟨-, k, hk, -⟩ := roles_of_mem_pairsFrom hp
        omega

/-- **An end tag has one start tag.** -/
theorem eq_of_mem_pairTags_of_closing {kind : Kind} {nodes : List Node} {i i' j : Nat}
    (h : (i, j) ∈ pairTags kind nodes) (h' : (i', j) ∈ pairTags kind nodes) : i = i' := by
  have hnodup : ((pairTags kind nodes).map Prod.snd).Nodup :=
    List.pairwise_map.2 ((pairwise_pairsFrom _ _ _).imp Nat.ne_of_lt)
  exact congrArg Prod.fst (List.inj_on_of_nodup_map hnodup h h' rfl)

/-- So looking a start tag up gives its pair. -/
theorem lookup_pairTags_iff_mem {kind : Kind} {nodes : List Node} {i j : Nat} :
    (pairTags kind nodes).lookup i = some j ↔ (i, j) ∈ pairTags kind nodes := by
  refine ⟨mem_of_lookup_eq_some, fun h ↦ ?_⟩
  cases hlookup : (pairTags kind nodes).lookup i with
  | none =>
    have hne := List.lookup_eq_none_iff.1 hlookup (i, j) h
    simp at hne
  | some j' => rw [eq_of_mem_pairTags h (mem_of_lookup_eq_some hlookup)]

/-- The search for an end tag, in terms of the nodes. -/
theorem exceedsAt_iff_outnumbered {kind : Kind} {name : String} {nodes : List Node} {i j : Nat}
    (hij : i < j) (hj : j < nodes.length) :
    ExceedsAt name 0 ((nodes.map (Node.role kind)).drop (i + 1)) (j - i - 1) ↔
      Outnumbered kind name ((nodes.drop (i + 1)).take (j - i)) ∧
        ∀ k, i < k → k < j → ¬ Outnumbered kind name ((nodes.drop (i + 1)).take (k - i)) := by
  have htake (m : Nat) : Exceeds name 0 (((nodes.map (Node.role kind)).drop (i + 1)).take m) ↔
      Outnumbered kind name ((nodes.drop (i + 1)).take m) := by
    rw [← List.map_drop, ← List.map_take, exceeds_iff_outnumbered]
  have hlast : j - i - 1 + 1 = j - i := by omega
  constructor
  · rintro ⟨-, hexceeds, hbefore⟩
    rw [hlast, htake] at hexceeds
    exact ⟨hexceeds, fun k hik hkj hk ↦ hbefore (k - i) (by omega) ((htake _).2 hk)⟩
  · rintro ⟨hexceeds, hbefore⟩
    refine ⟨?_, ?_, fun m hm hexceeds ↦ ?_⟩
    · rw [List.length_drop, List.length_map]
      omega
    · rwa [hlast, htake]
    · cases m with
      | zero => exact not_exceeds_nil name 0 hexceeds
      | succ m =>
        refine hbefore (i + (m + 1)) (by omega) (by omega) ?_
        rw [Nat.add_sub_cancel_left]
        exact (htake _).1 hexceeds

/-- **Pairs are balanced matching, name by name.** Position `i` is paired with position `j` exactly
when some name is opened at `i` and closed at `j`, and `j` is the first position after `i` such
that, of the tags of that name after `i` and up to there, more close an element than open one.
Nodes of other kinds, tags of other names and what stands before `i` are not part of this. -/
theorem lookup_pairTags_eq_some_iff {kind : Kind} {nodes : List Node} {i j : Nat} :
    (pairTags kind nodes).lookup i = some j ↔
      i < j ∧ ∃ name opening closing, nodes[i]? = some opening ∧ nodes[j]? = some closing ∧
        Opens kind name opening ∧ Closes kind name closing ∧
        Outnumbered kind name ((nodes.drop (i + 1)).take (j - i)) ∧
        ∀ k, i < k → k < j → ¬ Outnumbered kind name ((nodes.drop (i + 1)).take (k - i)) := by
  rw [lookup_pairTags_iff_mem]
  constructor
  · intro h
    obtain ⟨hij, name, opening, closing, hopening, hclosing, hopens, hcloses⟩ :=
      roles_of_mem_pairTags h
    obtain ⟨name', k, hopen, hcloser, rfl⟩ := mem_pairTags_iff.1 h
    obtain rfl : name = name' := by simpa [hopening, hopens] using hopen
    obtain ⟨hj, -⟩ := List.getElem?_eq_some_iff.1 hclosing
    have hk : i + 1 + k - i - 1 = k := by omega
    refine ⟨hij, name, opening, closing, hopening, hclosing, role_eq_opening_iff.1 hopens,
      role_eq_closing_iff.1 hcloses, ?_⟩
    rw [← exceedsAt_iff_outnumbered hij hj, hk]
    exact closer_eq_some_iff.1 hcloser
  · rintro ⟨hij, name, opening, closing, hopening, hclosing, hopens, -, hfirst⟩
    obtain ⟨hj, -⟩ := List.getElem?_eq_some_iff.1 hclosing
    refine mem_pairTags_iff.2 ⟨name, j - i - 1, ?_, ?_, by omega⟩
    · rw [List.getElem?_map, hopening, Option.map_some, role_eq_opening_iff.2 hopens]
    · exact closer_eq_some_iff.2 ((exceedsAt_iff_outnumbered hij hj).2 hfirst)

end SafeMarkdown.Syntax
