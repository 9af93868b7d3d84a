/-!
# Sets of names

An allow-list is a finite set of names. It is kept as the strictly increasing list of its members,
compared by code point, so two sets with the same members are equal and the list is also the
canonical way to write the set down.
-/

namespace SafeMarkdown

/-- Puts a name into an increasing list of names, unless it is there. -/
def insertName (x : String) : List String → List String
  | [] => [x]
  | y :: ys =>
    if x < y then x :: y :: ys
    else if x = y then y :: ys
    else y :: insertName x ys

/-- Inserting a name brings in that name only. -/
theorem mem_insertName {x z : String} {l : List String} :
    z ∈ insertName x l ↔ z = x ∨ z ∈ l := by
  induction l with
  | nil => simp [insertName]
  | cons y ys ih =>
    unfold insertName
    split
    · simp
    · split
      · rename_i h; subst h; simp
      · simp only [List.mem_cons, ih]
        constructor <;> rintro (h | h | h) <;> simp [h]

/-- Inserting keeps the list strictly increasing: the name is put in its place, or is there already.
-/
theorem pairwise_insertName {x : String} {l : List String} (h : l.Pairwise (· < ·)) :
    (insertName x l).Pairwise (· < ·) := by
  induction l with
  | nil => simp [insertName]
  | cons y ys ih =>
    rw [List.pairwise_cons] at h
    unfold insertName
    split
    · rename_i hxy
      refine List.pairwise_cons.2 ⟨?_, List.pairwise_cons.2 h⟩
      intro z hz
      rcases List.mem_cons.1 hz with rfl | hz
      · exact hxy
      · exact String.lt_trans hxy (h.1 z hz)
    · split
      · exact List.pairwise_cons.2 h
      · rename_i hxy hne
        refine List.pairwise_cons.2 ⟨?_, ih h.2⟩
        intro z hz
        rcases mem_insertName.1 hz with rfl | hz
        · rcases Std.lt_trichotomy (a := z) (b := y) with h' | h' | h'
          · exact absurd h' hxy
          · exact absurd h' hne
          · exact h'
        · exact h.1 z hz

/-- A finite set of names. -/
structure NameSet where
  /-- The members in increasing order. -/
  toList : List String
  increasing : toList.Pairwise (· < ·)
deriving DecidableEq, Repr

namespace NameSet

instance : Membership String NameSet where
  mem s x := x ∈ s.toList

instance (x : String) (s : NameSet) : Decidable (x ∈ s) :=
  inferInstanceAs (Decidable (x ∈ s.toList))

/-- The set without members. -/
def empty : NameSet := ⟨[], List.Pairwise.nil⟩

instance : Inhabited NameSet := ⟨empty⟩

/-- Adds a name. -/
def insert (s : NameSet) (x : String) : NameSet :=
  ⟨insertName x s.toList, pairwise_insertName s.increasing⟩

/-- The set of the names in a list, whatever their order and repetition. -/
def ofList : List String → NameSet
  | [] => empty
  | x :: xs => (ofList xs).insert x

/-- The members are those of the list. -/
theorem mem_def {x : String} {s : NameSet} : x ∈ s ↔ x ∈ s.toList := Iff.rfl

/-- The empty set has no member. -/
@[simp] theorem not_mem_empty {x : String} : ¬x ∈ empty := by
  simp [mem_def, empty]

/-- Inserting a name makes it a member. -/
@[simp] theorem mem_insert {x y : String} {s : NameSet} : x ∈ s.insert y ↔ x = y ∨ x ∈ s :=
  mem_insertName

/-- A set that is made from a list has its members. -/
@[simp] theorem mem_ofList {x : String} {l : List String} : x ∈ ofList l ↔ x ∈ l := by
  induction l with
  | nil => simp [ofList]
  | cons y ys ih => simp [ofList, ih]

end NameSet

end SafeMarkdown
