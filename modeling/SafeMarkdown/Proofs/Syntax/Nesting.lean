import SafeMarkdown.Proofs.Syntax.Brackets

/-!
# Bracketed lists from their siblings

A bracketed list whose brackets are pairs of tags is determined by its siblings. The pass that looks
for pairs finds the brackets of the list and no others, whatever is open before it and whatever
follows (`mem_pairsFrom_flattenList_iff`): inside a bracket, each start tag meets its own end tag
before the bracket ends, so tags of the same name do not get in its way. As no two brackets cross,
each of them is also made (`build_flattenList`). Together, bracketing undoes flattening
(`build_pairTags_flattenList`).

What makes the induction go through is that it is for any tags open before and any roles behind.
Inside a bracket its own start tag is one more that is open, and its end tag is the first role
behind. A list without a well-nested shape has no such description; which of its pairs become
brackets is a question of its own.
-/

namespace SafeMarkdown.Syntax

variable {α β : Type}

/-! ### Depths and images of bracketed lists -/

mutual

/-- How many brackets stand inside one another. -/
def Nest.levels : Nest α → Nat
  | .leaf _ => 0
  | .pair _ inner _ => 1 + levelsOf inner

/-- How many brackets of a list stand inside one another. -/
def levelsOf : List (Nest α) → Nat
  | [] => 0
  | n :: ns => max n.levels (levelsOf ns)

end

mutual

/-- The siblings outside the ends of brackets, with their depths. -/
def Nest.leaves (depth : Nat) : Nest α → List (Nat × α)
  | .leaf a => [(depth, a)]
  | .pair _ inner _ => leavesOf (depth + 1) inner

/-- The siblings of a list outside the ends of brackets, with their depths. -/
def leavesOf (depth : Nat) : List (Nest α) → List (Nat × α)
  | [] => []
  | n :: ns => n.leaves depth ++ leavesOf depth ns

end

mutual

/-- The same brackets around the images of the siblings. -/
def Nest.map (f : α → β) : Nest α → Nest β
  | .leaf a => .leaf (f a)
  | .pair opening inner closing => .pair (f opening) (mapList f inner) (f closing)

/-- The same brackets in a list of images of the siblings. -/
def mapList (f : α → β) : List (Nest α) → List (Nest β)
  | [] => []
  | n :: ns => n.map f :: mapList f ns

end

mutual

/-- Mapping the siblings of a nest keeps its shape. -/
theorem related_map (f : α → β) : ∀ n : Nest α, n.Related (fun a b ↦ f a = b) (n.map f)
  | .leaf _ => rfl
  | .pair _ inner _ => ⟨rfl, relatedLists_mapList f inner, rfl⟩

theorem relatedLists_mapList (f : α → β) :
    ∀ ns : List (Nest α), RelatedLists (fun a b ↦ f a = b) ns (mapList f ns)
  | [] => trivial
  | n :: ns => ⟨related_map f n, relatedLists_mapList f ns⟩

end

/-- Mapping and flattening may be done in either order. -/
theorem flattenList_mapList (f : α → β) (ns : List (Nest α)) :
    flattenList (mapList f ns) = (flattenList ns).map f := by
  have h := forall₂_flattenList (relatedLists_mapList f ns)
  rw [← List.forall₂_map_left_iff, List.forall₂_eq_eq_eq] at h
  exact h.symm

/-- Mapping leaves the brackets where they are. -/
theorem bracketsOf_mapList (f : α → β) (start : Nat) (ns : List (Nest α)) :
    bracketsOf start (mapList f ns) = bracketsOf start ns :=
  (bracketsOf_eq_of_related (relatedLists_mapList f ns)).symm

/-! ### What holds of the siblings -/

section Forall

variable {L L' P : α → Prop} {R R' : α → α → Prop}

mutual

/-- A nest whose leaves and ends satisfy conditions satisfies weaker ones. -/
theorem Nest.Forall.imp (hL : ∀ a, L a → L' a) (hR : ∀ a b, R a b → R' a b) :
    ∀ {n : Nest α}, n.Forall L R → n.Forall L' R'
  | .leaf a, h => hL a h
  | .pair opening _ closing, ⟨hends, hinner⟩ => ⟨hR opening closing hends, hinner.imp hL hR⟩

theorem ForallList.imp (hL : ∀ a, L a → L' a) (hR : ∀ a b, R a b → R' a b) :
    ∀ {ns : List (Nest α)}, ForallList L R ns → ForallList L' R' ns
  | [], _ => trivial
  | _ :: _, ⟨hn, hns⟩ => ⟨hn.imp hL hR, hns.imp hL hR⟩

end

mutual

/-- What conditions on leaves and on ends imply holds of every sibling. -/
theorem Nest.Forall.forall_mem (hL : ∀ a, L a → P a) (hR : ∀ a b, R a b → P a ∧ P b) :
    ∀ {n : Nest α}, n.Forall L R → ∀ a ∈ n.flatten, P a
  | .leaf a, h => List.forall_mem_singleton.2 (hL a h)
  | .pair opening _ closing, ⟨hends, hinner⟩ => by
    obtain ⟨hopening, hclosing⟩ := hR opening closing hends
    have hrest := List.forall_mem_append.2
      ⟨hinner.forall_mem hL hR, List.forall_mem_singleton.2 hclosing⟩
    exact List.forall_mem_cons.2 ⟨hopening, hrest⟩

theorem ForallList.forall_mem (hL : ∀ a, L a → P a) (hR : ∀ a b, R a b → P a ∧ P b) :
    ∀ {ns : List (Nest α)}, ForallList L R ns → ∀ a ∈ flattenList ns, P a
  | [], _ => List.forall_mem_nil P
  | _ :: _, ⟨hn, hns⟩ =>
    List.forall_mem_append.2 ⟨hn.forall_mem hL hR, hns.forall_mem hL hR⟩

end

end Forall

/-! ### The brackets are the pairs -/

/-- The bracketed list is one of tags, by the roles of its siblings: what is not an end of a bracket
is no tag, and the ends of a bracket are a start tag and an end tag of one name. -/
def Nested (role : α → TagRole) : List (Nest α) → Prop :=
  ForallList (fun a ↦ role a = .neither)
    fun opening closing ↦ ∃ name, role opening = .opening name ∧ role closing = .closing name

section Pairs

variable {role : α → TagRole} {position i j : Nat}

/-- An end tag pairs with a start tag of its name that is nearest. -/
theorem pairsFrom_closing_cons_self (position start : Nat) (name : String)
    (pending : List (String × Nat)) (roles : List TagRole) :
    pairsFrom position ((name, start) :: pending) (.closing name :: roles) =
      (start, position) :: pairsFrom (position + 1) pending roles := by
  have herase : ((name, start) :: pending).eraseP (fun p ↦ p.1 == name) = pending :=
    List.eraseP_cons_of_pos (beq_self_eq_true name)
  rw [pairsFrom, List.lookup_cons_self, herase]

mutual

/-- The pairs found from the siblings of a nest on are its brackets and the pairs of what follows.
The induction is on the nest, for any tags that are open before. -/
theorem mem_pairsFrom_flatten_iff {pending : List (String × Nat)} {roles : List TagRole} :
    ∀ {n : Nest α} {position : Nat}, Nested role [n] →
      ((i, j) ∈ pairsFrom position pending (n.flatten.map role ++ roles) ↔
        (i, j) ∈ n.brackets position ∨
          (i, j) ∈ pairsFrom (position + n.flatten.length) pending roles)
  | .leaf a, position, ⟨ha, _⟩ => by
    have hpass : pairsFrom position pending ((Nest.leaf a).flatten.map role ++ roles) =
        pairsFrom (position + 1) pending roles := by
      show pairsFrom position pending (role a :: roles) = _
      rw [show role a = .neither from ha, pairsFrom]
    rw [hpass, Nest.brackets, or_iff_right List.not_mem_nil]
    rfl
  | .pair opening inner closing, position, ⟨⟨⟨name, hopening, hclosing⟩, hinner⟩, _⟩ => by
    have hroles : (Nest.pair opening inner closing).flatten.map role ++ roles =
        .opening name :: ((flattenList inner).map role ++ .closing name :: roles) := by
      simp [Nest.flatten, hopening, hclosing]
    have hend : position + ((flattenList inner).length + 2) =
        position + 1 + (flattenList inner).length + 1 := by
      omega
    rw [hroles, pairsFrom, mem_pairsFrom_flattenList_iff hinner, pairsFrom_closing_cons_self,
      length_flatten_pair, hend, Nest.brackets, List.mem_cons, List.mem_cons, or_left_comm,
      or_assoc]

/-- **The pairs among the siblings of a bracketed list of tags are its brackets.** -/
theorem mem_pairsFrom_flattenList_iff {pending : List (String × Nat)} {roles : List TagRole} :
    ∀ {ns : List (Nest α)} {position : Nat}, Nested role ns →
      ((i, j) ∈ pairsFrom position pending ((flattenList ns).map role ++ roles) ↔
        (i, j) ∈ bracketsOf position ns ∨
          (i, j) ∈ pairsFrom (position + (flattenList ns).length) pending roles)
  | [], position, _ => (or_iff_right List.not_mem_nil).symm
  | n :: ns, position, ⟨hn, hns⟩ => by
    rw [flattenList, List.map_append, List.append_assoc,
      mem_pairsFrom_flatten_iff (n := n) ⟨hn, trivial⟩, mem_pairsFrom_flattenList_iff hns,
      bracketsOf, List.mem_append, List.length_append, or_assoc, Nat.add_assoc]

end

/-- **The pairs of a nested list are its brackets.** -/
theorem mem_pairTags_flattenList_iff {kind : Kind} {ns : List (Nest Node)}
    (h : Nested (Node.role kind) ns) :
    (i, j) ∈ pairTags kind (flattenList ns) ↔ (i, j) ∈ bracketsOf 0 ns := by
  have hpairs : (i, j) ∈ pairsFrom 0 [] ((flattenList ns).map (Node.role kind) ++ []) ↔
      (i, j) ∈ bracketsOf 0 ns ∨ (i, j) ∈ pairsFrom (0 + (flattenList ns).length) [] [] :=
    mem_pairsFrom_flattenList_iff h
  rwa [List.append_nil, pairsFrom, or_iff_left List.not_mem_nil] at hpairs

end Pairs

/-! ### Brackets that do not cross are all made -/

section Build

variable {pairs : List (Nat × Nat)} {start stop : Nat} {x closing : α} {rest inner after : List α}

/-- A sibling that begins no pair is a leaf. -/
theorem build_cons_of_lookup_eq_none (h : pairs.lookup start = none) :
    Nest.build pairs start (x :: rest) = .leaf x :: Nest.build pairs (start + 1) rest := by
  rw [Nest.build]
  split
  · rfl
  · rename_i stop hstop
    rw [h] at hstop
    cases hstop

/-- So is one whose pair ends beyond the list. -/
theorem build_cons_of_drop_eq_nil (h : pairs.lookup start = some stop)
    (hdrop : rest.drop (stop - start - 1) = []) :
    Nest.build pairs start (x :: rest) = .leaf x :: Nest.build pairs (start + 1) rest := by
  rw [Nest.build]
  split
  · rfl
  · rename_i stop' hstop'
    obtain rfl : stop = stop' := Option.some.inj (h.symm.trans hstop')
    split
    · rfl
    · rename_i hdrop'
      rw [hdrop] at hdrop'
      cases hdrop'

/-- Any other begins a bracket. -/
theorem build_cons_of_drop_eq_cons (h : pairs.lookup start = some stop)
    (hdrop : rest.drop (stop - start - 1) = closing :: after) :
    Nest.build pairs start (x :: rest) =
      .pair x (Nest.build pairs (start + 1) (rest.take (stop - start - 1))) closing ::
        Nest.build pairs (stop + 1) after := by
  rw [Nest.build]
  split
  · rename_i hstop'
    rw [h] at hstop'
    cases hstop'
  · rename_i stop' hstop'
    obtain rfl : stop = stop' := Option.some.inj (h.symm.trans hstop')
    split
    · rename_i hdrop'
      rw [hdrop] at hdrop'
      cases hdrop'
    · rename_i closing' after' hdrop'
      obtain ⟨rfl, rfl⟩ := List.cons.inj (hdrop.symm.trans hdrop')
      rfl

/-- A bracket is made from its ends and what stands between them. -/
theorem build_cons_of_lookup_eq_some
    (h : pairs.lookup start = some (start + 1 + inner.length)) :
    Nest.build pairs start (x :: (inner ++ closing :: after)) =
      .pair x (Nest.build pairs (start + 1) inner) closing ::
        Nest.build pairs (start + 1 + inner.length + 1) after := by
  have hlen : start + 1 + inner.length - start - 1 = inner.length := by omega
  have hdrop : (inner ++ closing :: after).drop (start + 1 + inner.length - start - 1) =
      closing :: after := by
    rw [hlen, List.drop_left]
  rw [build_cons_of_drop_eq_cons h hdrop, hlen, List.take_left]

/-- Which brackets are built is a matter of positions alone. -/
theorem build_map (f : α → β) (pairs : List (Nat × Nat)) (start : Nat) (xs : List α) :
    Nest.build pairs start (xs.map f) = mapList f (Nest.build pairs start xs) := by
  fun_induction Nest.build pairs start xs with
  | case1 => rw [List.map_nil, Nest.build, mapList]
  | case2 start x rest hnone ih =>
    rw [List.map_cons, build_cons_of_lookup_eq_none hnone, ih, mapList, Nest.map]
  | case3 start x rest stop hstop hdrop ih =>
    have hdrop' : (rest.map f).drop (stop - start - 1) = [] := by
      rw [← List.map_drop, hdrop, List.map_nil]
    rw [List.map_cons, build_cons_of_drop_eq_nil hstop hdrop', ih, mapList, Nest.map]
  | case4 start x rest stop hstop closing after hdrop ih₁ ih₂ =>
    have hdrop' : (rest.map f).drop (stop - start - 1) = f closing :: after.map f := by
      rw [← List.map_drop, hdrop, List.map_cons]
    rw [List.map_cons, build_cons_of_drop_eq_cons hstop hdrop', ← List.map_take, ih₁, ih₂,
      mapList, Nest.map]

/-- From `start` on, `len` positions far, the pairs are looked up as the brackets are. -/
def LooksUp (pairs brackets : List (Nat × Nat)) (start len : Nat) : Prop :=
  ∀ i j, start ≤ i → i < start + len → (pairs.lookup i = some j ↔ (i, j) ∈ brackets)

mutual

/-- A nest in front is made again from its siblings, if its brackets are what looking up gives. -/
theorem build_flatten_append {xs : List α} : ∀ {n : Nest α} {start : Nat},
    LooksUp pairs (n.brackets start) start n.flatten.length →
      Nest.build pairs start (n.flatten ++ xs) =
        n :: Nest.build pairs (start + n.flatten.length) xs
  | .leaf a, start, h => by
    have hnone : pairs.lookup start = none := by
      refine Option.eq_none_iff_forall_ne_some.2 fun j hj ↦ ?_
      exact List.not_mem_nil ((h start j (Nat.le_refl start) (Nat.lt_add_one start)).1 hj)
    exact build_cons_of_lookup_eq_none hnone
  | .pair opening inner closing, start, h => by
    rw [length_flatten_pair] at h ⊢
    have hsome : pairs.lookup start = some (start + 1 + (flattenList inner).length) :=
      (h _ _ (Nat.le_refl start) (by omega)).2 List.mem_cons_self
    have hinner : LooksUp pairs (bracketsOf (start + 1) inner) (start + 1)
        (flattenList inner).length := by
      intro i j hi hj
      rw [h i j (by omega) (by omega), Nest.brackets, List.mem_cons]
      refine or_iff_right fun heq ↦ ?_
      obtain ⟨rfl, -⟩ := Prod.mk.inj heq
      omega
    have hend : start + ((flattenList inner).length + 2) =
        start + 1 + (flattenList inner).length + 1 := by
      omega
    rw [Nest.flatten, List.cons_append, List.append_assoc, List.singleton_append,
      build_cons_of_lookup_eq_some hsome, build_flattenList hinner, hend]

/-- **A bracketed list is built again from its siblings**, when the pairs are its brackets. -/
theorem build_flattenList : ∀ {ns : List (Nest α)} {start : Nat},
    LooksUp pairs (bracketsOf start ns) start (flattenList ns).length →
      Nest.build pairs start (flattenList ns) = ns
  | [], _, _ => by rw [flattenList, Nest.build]
  | n :: ns, start, h => by
    rw [length_flattenList_cons] at h
    -- a bracket is one of the first list's or of the rest's by where it opens
    have hhead : LooksUp pairs (n.brackets start) start n.flatten.length := by
      intro i j hi hj
      rw [h i j hi (by omega), bracketsOf, List.mem_append]
      refine or_iff_left fun hmem ↦ ?_
      have := bounds_of_mem_bracketsOf hmem
      omega
    have htail : LooksUp pairs (bracketsOf (start + n.flatten.length) ns)
        (start + n.flatten.length) (flattenList ns).length := by
      intro i j hi hj
      rw [h i j (by omega) (by omega), bracketsOf, List.mem_append]
      refine or_iff_right fun hmem ↦ ?_
      have := bounds_of_mem_brackets hmem
      omega
    rw [flattenList, build_flatten_append hhead, build_flattenList htail]

end

end Build

/-- **Bracketing undoes flattening**: a bracketed list whose brackets are tags is what pairing makes
of its siblings, and of anything that stands in their places. -/
theorem build_pairTags_flattenList {kind : Kind} {ns : List (Nest Node)}
    (h : Nested (Node.role kind) ns) (f : Node → β) :
    Nest.build (pairTags kind (flattenList ns)) 0 ((flattenList ns).map f) = mapList f ns := by
  rw [← flattenList_mapList]
  refine build_flattenList fun i j _ _ ↦ ?_
  rw [bracketsOf_mapList, lookup_pairTags_iff_mem, mem_pairTags_flattenList_iff h]

end SafeMarkdown.Syntax
