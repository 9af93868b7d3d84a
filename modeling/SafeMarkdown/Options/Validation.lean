import SafeMarkdown.Json.Value
import SafeMarkdown.Options.Basic
import SafeMarkdown.Options.Issue
import SafeMarkdown.Text.Case

/-!
# Validating options

Options are read from JSON leniently: a missing field takes its default, an unknown field is
ignored, only the fields of the selected mode are looked at, and a yes or no may be written as a
number or a word. Every fault is reported, in the order of the fields. `Options.toJson` writes
options in full, with each allow-list in increasing order.
-/

namespace SafeMarkdown

open Json (Value)

/-- The words for yes and no, in lower case. -/
def flagWords : List (String × Bool) :=
  [("0", false), ("off", false), ("f", false), ("false", false), ("n", false), ("no", false),
    ("1", true), ("on", true), ("t", true), ("true", true), ("y", true), ("yes", true)]

/-- An integer as yes or no. Beyond 64 bits it is not looked at as an integer. -/
def flagOfInt? (n : Int) : Except IssueKind Bool :=
  if n = 0 then .ok false
  else if n = 1 then .ok true
  else if -0x8000000000000000 ≤ n ∧ n < 0x8000000000000000 then .error .boolParsing
  else .error .boolType

/-- A real number as yes or no: it has to be whole and to lie strictly inside 64 bits. -/
def flagOfFloat? (x : Float) : Except IssueKind Bool :=
  if x == 0.0 then .ok false
  else if x == 1.0 then .ok true
  else if x.floor == x && -9223372036854775808.0 < x && x < 9223372036854775808.0 then
    .error .boolParsing
  else .error .boolType

/-- A value as yes or no. -/
def validateFlag : Value → Validated Bool
  | .bool b => .ok b
  | .string s =>
    match flagWords.lookup (.ofList (Text.asciiLower s.toList)) with
    | some b => .ok b
    | none => .fail .boolParsing
  | .brokenString => .fail .stringUnicode
  | .number (.integer n) => (flagOfInt? n).mapError fun kind ↦ [⟨kind, []⟩]
  | .number (.real literal) =>
    (flagOfFloat? (Json.Number.floatOfLiteral literal.toList)).mapError fun kind ↦ [⟨kind, []⟩]
  | _ => .fail .boolType

/-- A value as text. -/
def validateString : Value → Validated String
  | .string s => .ok s
  | .brokenString => .fail .stringUnicode
  | _ => .fail .stringType

/-- The items of an array as texts, the first of them at position `i`. -/
def validateNames (i : Nat) : List Value → Validated (List String)
  | [] => .ok []
  | v :: vs =>
    .both List.cons ((validateString v).within (.index i)) (validateNames (i + 1) vs)

/-- A value as a set of names. -/
def validateNameSet : Value → Validated NameSet
  | .array items => (validateNames 0 items).map NameSet.ofList
  | _ => .fail .frozenSetType

/-- The field of that name, read by `validate`; its default where it is missing. -/
def validateField {α : Type} (name : String) (fallback : α) (validate : Value → Validated α)
    (fields : List (String × Value)) : Validated α :=
  match Json.lastField? name fields with
  | some v => (validate v).within (.field name)
  | none => .ok fallback

/-- A value as a policy; `notObject` is the fault of a value that is no object. -/
def validatePolicy (notObject : IssueKind) : Value → Validated Policy
  | .object fields =>
    .both Policy.mk
      (validateField "allowed_elements" Policy.defaultElements validateNameSet fields)
      (validateField "allowed_attributes" Policy.defaultAttributes validateNameSet fields)
  | _ => .fail notObject

/-- A value as the handling of raw HTML, selected by its field `mode`. -/
def validateMode (notObject : IssueKind) : Value → Validated HtmlMode
  | .object fields =>
    match Json.lastField? "mode" fields with
    | none => .fail .unionTagNotFound
    | some (.string "parse_unsafe") => .ok .parseUnsafe
    | some (.string "dont_parse") => .ok .dontParse
    | some (.string "sanitize") =>
      Validated.within (.field "sanitize") <|
        (validateField "options" Policy.standard (validatePolicy notObject) fields).map
          HtmlMode.sanitize
    | some _ => .fail .unionTagInvalid
  | _ => .fail .modelAttributesType

/-- A value as options. -/
def Options.validate (notObject : IssueKind) : Value → Validated Options
  | .object fields =>
    .both Options.mk
      (validateField "soft_as_hard_line_break" false validateFlag fields)
      (validateField "html" HtmlMode.standard (validateMode notObject) fields)
  | _ => .fail notObject

/-- A value as options by itself, not as part of a request. -/
def Options.ofJson : Value → Validated Options :=
  Options.validate .modelType

/-- A value as a policy by itself. -/
def Policy.ofJson : Value → Validated Policy :=
  validatePolicy .modelType

/-- A set of names as an increasing array. -/
def NameSet.toJson (s : NameSet) : Value :=
  .array (s.toList.map Value.string)

/-- A policy with both of its lists. -/
def Policy.toJson (p : Policy) : Value :=
  .object [("allowed_elements", p.elements.toJson), ("allowed_attributes", p.attributes.toJson)]

/-- The handling of raw HTML with the name of its mode; the policy is written where there is
one. -/
def HtmlMode.toJson : HtmlMode → Value
  | parseUnsafe => .object [("mode", .string "parse_unsafe")]
  | sanitize policy => .object [("mode", .string "sanitize"), ("options", policy.toJson)]
  | dontParse => .object [("mode", .string "dont_parse")]

/-- Options with every field. -/
def Options.toJson (o : Options) : Value :=
  .object [("soft_as_hard_line_break", .bool o.softAsHardLineBreak), ("html", o.html.toJson)]

end SafeMarkdown
