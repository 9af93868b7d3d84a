import SafeMarkdown.Syntax.Tag

/-!
# Pairs of tags

Among siblings, each end tag is paired with the nearest start tag of its name that is still open.
Tags of different names do not see each other, so pairs may cross. `Nest` is a list of siblings
with some of the pairs made into brackets: from left to right, a pair is taken when it ends inside
the bracket that is open, and what crosses stays unpaired.
-/

namespace SafeMarkdown.Syntax

/-- The pairs of opening and closing positions among the roles, the first of which is at
`position`. The start tags that are still open are in `pending`, nearest first. -/
def pairsFrom (position : Nat) (pending : List (String × Nat)) : List TagRole → List (Nat × Nat)
  | [] => []
  | .neither :: roles => pairsFrom (position + 1) pending roles
  | .opening name :: roles => pairsFrom (position + 1) ((name, position) :: pending) roles
  | .closing name :: roles =>
    match pending.lookup name with
    | none => pairsFrom (position + 1) pending roles
    | some start =>
      (start, position) ::
        pairsFrom (position + 1) (pending.eraseP fun p ↦ p.1 == name) roles

/-- The pairs among siblings where only nodes of `kind` count as tags. -/
def pairTags (kind : Kind) (nodes : List Node) : List (Nat × Nat) :=
  pairsFrom 0 [] (nodes.map (Node.role kind))

/-- Siblings with brackets. -/
inductive Nest (α : Type) where
  | leaf (a : α)
  | pair (opening : α) (inner : List (Nest α)) (closing : α)
deriving Repr

/-- Puts brackets around what stands between the two ends of a pair, for siblings of which the
first is at position `start`. -/
def Nest.build {α : Type} (pairs : List (Nat × Nat)) (start : Nat) (xs : List α) :
    List (Nest α) :=
  match xs with
  | [] => []
  | x :: rest =>
    match pairs.lookup start with
    | none => leaf x :: build pairs (start + 1) rest
    | some stop =>
      match h : rest.drop (stop - start - 1) with
      | [] => leaf x :: build pairs (start + 1) rest
      | closing :: after =>
        pair x (build pairs (start + 1) (rest.take (stop - start - 1))) closing ::
          build pairs (stop + 1) after
termination_by xs.length
decreasing_by
  · simp
  · simp
  · simp only [List.length_take, List.length_cons]
    omega
  · have := congrArg List.length h
    simp only [List.length_drop, List.length_cons] at this ⊢
    omega

end SafeMarkdown.Syntax
