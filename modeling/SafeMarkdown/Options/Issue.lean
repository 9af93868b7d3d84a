/-!
# Issues with a request

What is wrong with a value that should have been options or a request: the kind of fault and the
path to the faulty part.
-/

namespace SafeMarkdown

/-- One step into a JSON value. -/
inductive PathStep where
  | field (name : String)
  | index (position : Nat)
deriving DecidableEq, Repr

/-- The kinds of fault. -/
inductive IssueKind where
  /-- Not an object, where the fields of a model were expected. -/
  | modelType
  /-- Not an object, where any object with the fields of a model would do. -/
  | modelAttributesType
  /-- The field that selects the mode is missing. -/
  | unionTagNotFound
  /-- The field that selects the mode names none. -/
  | unionTagInvalid
  /-- Not an array, where a set was expected. -/
  | frozenSetType
  /-- Not a string. -/
  | stringType
  /-- A string with half of a surrogate pair. -/
  | stringUnicode
  /-- A text or an integer that is neither yes nor no. -/
  | boolParsing
  /-- A value that could not be read as yes or no. -/
  | boolType
  /-- Nothing, where a value was required. -/
  | missing
  /-- A text that is not JSON. -/
  | jsonInvalid
deriving DecidableEq, Repr

/-- The word for a kind of fault in a response. -/
def IssueKind.code : IssueKind → String
  | modelType => "model_type"
  | modelAttributesType => "model_attributes_type"
  | unionTagNotFound => "union_tag_not_found"
  | unionTagInvalid => "union_tag_invalid"
  | frozenSetType => "frozen_set_type"
  | stringType => "string_type"
  | stringUnicode => "string_unicode"
  | boolParsing => "bool_parsing"
  | boolType => "bool_type"
  | missing => "missing"
  | jsonInvalid => "json_invalid"

/-- A fault and the path to it. -/
structure Issue where
  kind : IssueKind
  path : List PathStep
deriving DecidableEq, Repr

/-- The issue seen from outside the part that `step` leads to. -/
def Issue.under (step : PathStep) (issue : Issue) : Issue :=
  { issue with path := step :: issue.path }

/-- A value, or all that is wrong with its source. -/
abbrev Validated (α : Type) := Except (List Issue) α

namespace Validated

/-- One fault at the place itself. -/
def fail {α : Type} (kind : IssueKind) : Validated α :=
  .error [⟨kind, []⟩]

/-- A validation of the part that `step` leads to. -/
def within {α : Type} (step : PathStep) : Validated α → Validated α
  | .ok a => .ok a
  | .error issues => .error (issues.map (Issue.under step))

/-- Two independent validations: the issues of both are reported, the first one's first. -/
def both {α β γ : Type} (f : α → β → γ) : Validated α → Validated β → Validated γ
  | .ok a, .ok b => .ok (f a b)
  | .ok _, .error issues => .error issues
  | .error issues, .ok _ => .error issues
  | .error first, .error second => .error (first ++ second)

end Validated

end SafeMarkdown
