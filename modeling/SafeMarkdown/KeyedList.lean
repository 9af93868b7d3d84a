/-!
# Keyed lists

A keyed list holds pairs with distinct keys in the order in which the keys first came. Setting a
key that is there keeps its place.
-/

namespace SafeMarkdown

/-- Sets the value of a key: in its place where the key is there, at the end where it is not. -/
def setEntry {κ α : Type} [DecidableEq κ] (k : κ) (a : α) : List (κ × α) → List (κ × α)
  | [] => [(k, a)]
  | (k', a') :: rest => if k' = k then (k, a) :: rest else (k', a') :: setEntry k a rest

/-- The pairs with each key once: at its first place, with its last value. -/
def mergePairs {κ α : Type} [DecidableEq κ] (pairs : List (κ × α)) : List (κ × α) :=
  pairs.foldl (fun acc p ↦ setEntry p.1 p.2 acc) []

end SafeMarkdown
