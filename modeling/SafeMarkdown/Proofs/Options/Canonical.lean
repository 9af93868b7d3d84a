import SafeMarkdown.Options.Validation
import SafeMarkdown.Proofs.Options.Intersection
import SafeMarkdown.Proofs.Outcome

/-!
# The canonical way to write options

Options can be written in many ways: a yes or no as a word or a number, an allow-list in any order
and with repetitions, a default by leaving it out. Reading takes all of them to the same options,
and `Options.toJson` writes options in one way. So writing and reading again gives the options back,
and what is written of an accepted value depends only on what the value says
(`Options.toJson_canonical`).

What a value says is taken from the value itself, by following the names of its fields:
`statedFlag`, `statedMode` and `statedNames`, with the entries of a list as they stand there.
`SaysTheSame` compares two values in these, and their lists as sets.

## Two readings of a value

Reading a value checks and repairs it, and says at which field something is wrong. What a value says
is defined without reading: a field is looked up by its path, and where it is missing, the default
stands for it. That the two agree on every accepted value is `states_of_validate`. Everything about
canonical form follows from it, because options are determined by what they say.
-/

namespace SafeMarkdown

namespace Json

/-- The part of a value that a path of field names leads to. -/
def Value.at? : (path : List String) → Value → Option Value
  | [], v => some v
  | name :: path, v => (v.fields?.bind (lastField? name)).bind (at? path)

/-- A path is followed step by step. -/
theorem Value.at?_append (path rest : List String) (v : Value) :
    v.at? (path ++ rest) = (v.at? path).bind (at? rest) := by
  induction path generalizing v with
  | nil => rfl
  | cons name path ih =>
    show ((v.fields?.bind (lastField? name)).bind (at? (path ++ rest))) =
      ((v.fields?.bind (lastField? name)).bind (at? path)).bind (at? rest)
    cases v.fields?.bind (lastField? name) with
    | none => rfl
    | some w => exact ih w

/-- The text, where the value is one. -/
def Value.text? : Value → Option String
  | .string s => some s
  | _ => none

/-- The texts among the items of an array. -/
def Value.texts : Value → List String
  | .array items => items.filterMap Value.text?
  | _ => []

end Json

open Json (Value)

/-! ### What a value says -/

/-- What a value says on soft breaks: no where it says nothing. -/
def statedFlag (v : Value) : Option Bool :=
  match v.at? ["soft_as_hard_line_break"] with
  | some flag => (validateFlag flag).toOption
  | none => some false

/-- The name of the mode that a value selects. -/
def statedMode (v : Value) : Value :=
  (v.at? ["html", "mode"]).getD (.string "sanitize")

/-- The entries of an allow-list in a value, as they stand there; those of the default where the
list is left out. -/
def statedNames (list : String) (fallback : NameSet) (v : Value) : List String :=
  (v.at? ["html", "options", list]).elim fallback.toList Value.texts

/-- The entries of the allow-list of elements. -/
def statedElements : Value → List String :=
  statedNames "allowed_elements" Policy.defaultElements

/-- The entries of the allow-list of attributes. -/
def statedAttributes : Value → List String :=
  statedNames "allowed_attributes" Policy.defaultAttributes

/-- Two values say the same: on soft breaks, on the mode, and where they select sanitising, on what
is allowed, whatever the order and the repetitions. -/
structure SaysTheSame (v w : Value) : Prop where
  flag : statedFlag v = statedFlag w
  mode : statedMode v = statedMode w
  elements : statedMode v = .string "sanitize" →
    ∀ x, x ∈ statedElements v ↔ x ∈ statedElements w
  attributes : statedMode v = .string "sanitize" →
    ∀ x, x ∈ statedAttributes v ↔ x ∈ statedAttributes w

/-! ### Steps of validation -/

section Steps

variable {α β γ : Type}

/-- Two values are validated together when each is. -/
theorem both_eq_ok_iff {f : α → β → γ} {x : Validated α} {y : Validated β} {c : γ} :
    Validated.both f x y = .ok c ↔ ∃ a b, x = .ok a ∧ y = .ok b ∧ f a b = c := by
  cases x <;> cases y <;> simp [Validated.both]

/-- Where an issue is found does not matter to success. -/
theorem within_eq_ok_iff {step : PathStep} {x : Validated α} {a : α} :
    Validated.within step x = .ok a ↔ x = .ok a := by
  cases x <;> simp [Validated.within]

/-- A field is read where it is there, and takes its default where it is not. -/
theorem validateField_eq_ok_iff {name : String} {fallback a : α} {validate : Value → Validated α}
    {fields : List (String × Value)} :
    validateField name fallback validate fields = .ok a ↔
      (Json.lastField? name fields = none ∧ fallback = a) ∨
        ∃ v, Json.lastField? name fields = some v ∧ validate v = .ok a := by
  unfold validateField
  cases Json.lastField? name fields with
  | none => simp
  | some v => simp [within_eq_ok_iff]

end Steps

/-- Only a string is validated as one. -/
theorem validateString_eq_ok_iff {v : Value} {s : String} :
    validateString v = .ok s ↔ v = .string s := by
  cases v <;> simp [validateString, Validated.fail]

/-- An array is read as names when its items are these names. -/
theorem validateNames_eq_ok_iff {i : Nat} {items : List Value} {names : List String} :
    validateNames i items = .ok names ↔ items = names.map Value.string := by
  induction items generalizing i names with
  | nil => cases names <;> simp [validateNames]
  | cons v items ih =>
    rw [validateNames, both_eq_ok_iff]
    constructor
    · rintro ⟨s, rest, hs, hrest, rfl⟩
      rw [within_eq_ok_iff, validateString_eq_ok_iff] at hs
      rw [hs, ih.1 hrest, List.map_cons]
    · intro h
      obtain ⟨s, rest, rfl, rfl, rfl⟩ := List.map_eq_cons_iff.1 h.symm
      exact ⟨s, rest, rfl, ih.2 rfl, rfl⟩

/-- The texts of a list of strings are those strings. -/
theorem filterMap_text?_map_string (names : List String) :
    (names.map Value.string).filterMap Value.text? = names := by
  rw [List.filterMap_map]
  exact List.filterMap_some

/-- A value is read as a set of names when it is an array of texts, and the names are these. -/
theorem validateNameSet_eq_ok_iff {v : Value} {s : NameSet} :
    validateNameSet v = .ok s ↔
      ∃ names, v = .array (names.map Value.string) ∧ NameSet.ofList names = s := by
  cases v with
  | array items =>
    rw [validateNameSet, map_eq_ok_iff]
    simp only [validateNames_eq_ok_iff, Value.array.injEq]
  | _ => simp [validateNameSet, Validated.fail]

/-- A set of names has the texts of its list as members. -/
theorem mem_texts_of_validateNameSet {v : Value} {s : NameSet} (h : validateNameSet v = .ok s)
    (x : String) : x ∈ v.texts ↔ x ∈ s := by
  obtain ⟨names, rfl, rfl⟩ := validateNameSet_eq_ok_iff.1 h
  rw [Value.texts, filterMap_text?_map_string, NameSet.mem_ofList]

/-! ### Reading what was written -/

namespace NameSet

/-- The list of a set makes the set again. -/
theorem ofList_toList (s : NameSet) : ofList s.toList = s :=
  ext_mem fun _ ↦ mem_ofList

/-- A set of names that was written is validated to itself. -/
theorem validateNameSet_toJson (s : NameSet) : validateNameSet s.toJson = .ok s :=
  validateNameSet_eq_ok_iff.2 ⟨s.toList, rfl, s.ofList_toList⟩

end NameSet

/-- So is a policy. -/
theorem Policy.validatePolicy_toJson (notObject : IssueKind) (p : Policy) :
    validatePolicy notObject p.toJson = .ok p := by
  rw [Policy.toJson, validatePolicy, both_eq_ok_iff]
  refine ⟨p.elements, p.attributes, ?_, ?_, rfl⟩
  · exact validateField_eq_ok_iff.2 (.inr ⟨_, rfl, p.elements.validateNameSet_toJson⟩)
  · exact validateField_eq_ok_iff.2 (.inr ⟨_, rfl, p.attributes.validateNameSet_toJson⟩)

/-- So is a mode. -/
theorem HtmlMode.validateMode_toJson (notObject : IssueKind) (mode : HtmlMode) :
    validateMode notObject mode.toJson = .ok mode := by
  cases mode with
  | parseUnsafe => rfl
  | dontParse => rfl
  | sanitize p =>
    have hfield : validateField "options" Policy.standard (validatePolicy notObject)
        [("mode", .string "sanitize"), ("options", p.toJson)] = .ok p :=
      validateField_eq_ok_iff.2 (.inr ⟨_, rfl, p.validatePolicy_toJson notObject⟩)
    show Validated.within _ (Except.map HtmlMode.sanitize (validateField _ _ _ _)) = _
    rw [hfield]
    rfl

/-- Options that were written are read back. -/
theorem Options.validate_toJson (notObject : IssueKind) (o : Options) :
    Options.validate notObject o.toJson = .ok o := by
  rw [Options.toJson, Options.validate, both_eq_ok_iff]
  refine ⟨o.softAsHardLineBreak, o.html, ?_, ?_, rfl⟩
  · exact validateField_eq_ok_iff.2 (.inr ⟨_, rfl, rfl⟩)
  · exact validateField_eq_ok_iff.2 (.inr ⟨_, rfl, o.html.validateMode_toJson notObject⟩)

/-- Options are determined by how they are written. -/
theorem Options.toJson_injective {o o' : Options} (h : o.toJson = o'.toJson) : o = o' := by
  have hread := Options.validate_toJson .modelType o
  rw [h, Options.validate_toJson] at hread
  exact (Except.ok.inj hread).symm

/-! ### What is read is what the value says -/

/-- The name of a mode. -/
def HtmlMode.name : HtmlMode → String
  | parseUnsafe => "parse_unsafe"
  | sanitize _ => "sanitize"
  | dontParse => "dont_parse"

/-- The allow-lists are those that a part of a value states, the part being where options of
sanitising are expected. -/
structure StatesPolicy (part : Option Value) (p : Policy) : Prop where
  elements : ∀ x, x ∈ (part.bind (Value.at? ["allowed_elements"])).elim
    Policy.defaultElements.toList Value.texts ↔ x ∈ p.elements
  attributes : ∀ x, x ∈ (part.bind (Value.at? ["allowed_attributes"])).elim
    Policy.defaultAttributes.toList Value.texts ↔ x ∈ p.attributes

/-- The options are those that a value states. -/
structure States (v : Value) (o : Options) : Prop where
  flag : statedFlag v = some o.softAsHardLineBreak
  mode : statedMode v = .string o.html.name
  policy : ∀ p, o.html = .sanitize p → StatesPolicy (v.at? ["html", "options"]) p

/-- What a field says is what it is validated to, or the default where it is missing. -/
theorem mem_of_validateField {list : String} {fallback s : NameSet}
    {fields : List (String × Value)}
    (h : validateField list fallback validateNameSet fields = .ok s) (x : String) :
    x ∈ ((some (Value.object fields)).bind (Value.at? [list])).elim fallback.toList Value.texts ↔
      x ∈ s := by
  rw [Option.bind_some, Value.at?, Value.fields?, Option.bind_some]
  rcases validateField_eq_ok_iff.1 h with ⟨hnone, rfl⟩ | ⟨names, hnames, hread⟩
  · rw [hnone]
    exact Iff.rfl
  · rw [hnames]
    exact mem_texts_of_validateNameSet hread x

/-- A value that is validated to a policy states it. -/
theorem statesPolicy_of_validatePolicy {notObject : IssueKind} {v : Value} {p : Policy}
    (h : validatePolicy notObject v = .ok p) : StatesPolicy (some v) p := by
  cases v with
  | object fields =>
    obtain ⟨elements, attributes, helements, hattributes, rfl⟩ := both_eq_ok_iff.1 h
    exact ⟨mem_of_validateField helements, mem_of_validateField hattributes⟩
  | _ => cases h

/-- No value states the standard policy. -/
theorem statesPolicy_standard : StatesPolicy none .standard :=
  ⟨fun _ ↦ Iff.rfl, fun _ ↦ Iff.rfl⟩

/-- A mode is read by its name, and its policy is the one that its options state. -/
theorem stated_of_validateMode {notObject : IssueKind} {v : Value} {mode : HtmlMode}
    (h : validateMode notObject v = .ok mode) :
    v.at? ["mode"] = some (.string mode.name) ∧
      ∀ p, mode = .sanitize p → StatesPolicy (v.at? ["options"]) p := by
  cases v with
  | object fields =>
    have hat (name : String) :
        (Value.object fields).at? [name] = (Json.lastField? name fields).bind some := rfl
    rw [hat, hat, Option.bind_fun_some, Option.bind_fun_some]
    rw [validateMode] at h
    split at h
    · cases h
    · rename_i hmode
      cases h
      exact ⟨hmode, by rintro p ⟨⟩⟩
    · rename_i hmode
      cases h
      exact ⟨hmode, by rintro p ⟨⟩⟩
    · rename_i hmode
      obtain ⟨p, hp, rfl⟩ := map_eq_ok_iff.1 (within_eq_ok_iff.1 h)
      refine ⟨hmode, ?_⟩
      rintro _ ⟨⟩
      rcases validateField_eq_ok_iff.1 hp with ⟨hnone, rfl⟩ | ⟨w, hw, hread⟩
      · rw [hnone]
        exact statesPolicy_standard
      · rw [hw]
        exact statesPolicy_of_validatePolicy hread
    · cases h
  | _ => cases h

/-- **Reading options takes a value at its word.** -/
theorem states_of_validate {notObject : IssueKind} {v : Value} {o : Options}
    (h : Options.validate notObject v = .ok o) : States v o := by
  cases v with
  | object fields =>
    obtain ⟨flag, mode, hflag, hmode, rfl⟩ := both_eq_ok_iff.1 h
    have hat (name : String) (path : List String) :
        (Value.object fields).at? (name :: path) =
          (Json.lastField? name fields).bind (Value.at? path) := rfl
    refine ⟨?_, ?_, ?_⟩
    · rw [statedFlag, hat]
      rcases validateField_eq_ok_iff.1 hflag with ⟨hnone, rfl⟩ | ⟨w, hw, hread⟩
      · rw [hnone]
        rfl
      · rw [hw]
        show (validateFlag w).toOption = some flag
        rw [hread]
        rfl
    · rw [statedMode, hat]
      rcases validateField_eq_ok_iff.1 hmode with ⟨hnone, rfl⟩ | ⟨w, hw, hread⟩
      · rw [hnone]
        rfl
      · rw [hw, Option.bind_some, (stated_of_validateMode hread).1]
        rfl
    · intro p hp
      rw [hat]
      rcases validateField_eq_ok_iff.1 hmode with ⟨hnone, rfl⟩ | ⟨w, hw, hread⟩
      · rw [hnone]
        cases hp
        exact statesPolicy_standard
      · rw [hw]
        exact (stated_of_validateMode hread).2 p hp
  | _ => cases h

/-! ### The order of code points -/

/-- The code points of a text. -/
def codePoints (s : String) : List Nat :=
  s.toList.map Char.toNat

/-- Comparing characters is comparing code points. -/
theorem map_toNat_lt_iff (s t : List Char) : s.map Char.toNat < t.map Char.toNat ↔ s < t := by
  induction s generalizing t with
  | nil => cases t <;> simp
  | cons c s ih =>
    cases t with
    | nil => simp
    | cons d t =>
      have hlt : c.toNat < d.toNat ↔ c < d := Iff.rfl
      rw [List.map_cons, List.map_cons, List.cons_lt_cons_iff, List.cons_lt_cons_iff, ih, hlt,
        Char.toNat_inj]

/-- So is comparing strings. -/
theorem codePoints_lt_iff {s t : String} : codePoints s < codePoints t ↔ s < t := by
  rw [String.lt_iff]
  exact map_toNat_lt_iff s.toList t.toList

/-- The array holds exactly these names, as texts that strictly increase by code point. -/
def ListsInOrder (array : Value) (names : List String) : Prop :=
  ∃ l : List String, array = .array (l.map Value.string) ∧
    l.Pairwise (fun x y ↦ codePoints x < codePoints y) ∧ ∀ x, x ∈ l ↔ x ∈ names

/-- A set is written in order. -/
theorem NameSet.listsInOrder_toJson {s : NameSet} {names : List String}
    (h : ∀ x, x ∈ names ↔ x ∈ s) : ListsInOrder s.toJson names := by
  have hincreasing : s.toList.Pairwise fun x y ↦ codePoints x < codePoints y :=
    s.increasing.imp codePoints_lt_iff.2
  exact ⟨s.toList, rfl, hincreasing, fun x ↦ (h x).symm⟩

/-! ### The dump of an accepted value -/

/-- Only a mode with a policy is named for sanitising. -/
theorem HtmlMode.exists_eq_sanitize {mode : HtmlMode} (h : mode.name = "sanitize") :
    ∃ p, mode = .sanitize p := by
  cases mode with
  | sanitize p => exact ⟨p, rfl⟩
  | parseUnsafe => simp [name] at h
  | dontParse => simp [name] at h

/-- Modes of one name are equal when their policies are. -/
theorem HtmlMode.eq_of_name_eq {mode mode' : HtmlMode} (hname : mode.name = mode'.name)
    (hpolicy : ∀ p p', mode = .sanitize p → mode' = .sanitize p' → p = p') : mode = mode' := by
  cases mode with
  | sanitize p =>
    obtain ⟨p', rfl⟩ := exists_eq_sanitize hname.symm
    rw [hpolicy p p' rfl rfl]
  | parseUnsafe => cases mode' <;> simp [name] at hname ⊢
  | dontParse => cases mode' <;> simp [name] at hname ⊢

namespace States

variable {v w : Value} {o o' : Options}

/-- The elements that are stated are those of the policy. -/
theorem elements (h : States v o) {p : Policy} (hp : o.html = .sanitize p) (x : String) :
    x ∈ statedElements v ↔ x ∈ p.elements := by
  have hat := Value.at?_append ["html", "options"] ["allowed_elements"] v
  rw [statedElements, statedNames]
  exact hat ▸ (h.policy p hp).elements x

/-- The attributes that are stated are those of the policy. -/
theorem attributes (h : States v o) {p : Policy} (hp : o.html = .sanitize p) (x : String) :
    x ∈ statedAttributes v ↔ x ∈ p.attributes := by
  have hat := Value.at?_append ["html", "options"] ["allowed_attributes"] v
  rw [statedAttributes, statedNames]
  exact hat ▸ (h.policy p hp).attributes x

/-- Where sanitising is stated, there is a policy. -/
theorem exists_policy (h : States v o) (hmode : statedMode v = .string "sanitize") :
    ∃ p, o.html = .sanitize p := by
  rw [h.mode, Value.string.injEq] at hmode
  exact HtmlMode.exists_eq_sanitize hmode

/-- Values that say the same are read to the same options, and no others are. -/
theorem eq_iff (h : States v o) (h' : States w o') : o = o' ↔ SaysTheSame v w := by
  constructor
  · rintro rfl
    refine ⟨h.flag.trans h'.flag.symm, h.mode.trans h'.mode.symm, ?_, ?_⟩
    · intro hmode x
      obtain ⟨p, hp⟩ := h.exists_policy hmode
      rw [h.elements hp, h'.elements hp]
    · intro hmode x
      obtain ⟨p, hp⟩ := h.exists_policy hmode
      rw [h.attributes hp, h'.attributes hp]
  · intro hsame
    have hflag : o.softAsHardLineBreak = o'.softAsHardLineBreak := by
      have hflags := hsame.flag
      rw [h.flag, h'.flag] at hflags
      exact Option.some.inj hflags
    have hname : o.html.name = o'.html.name := by
      have hmodes := hsame.mode
      rw [h.mode, h'.mode] at hmodes
      exact Value.string.inj hmodes
    have hhtml : o.html = o'.html := by
      refine HtmlMode.eq_of_name_eq hname fun p p' hp hp' ↦ ?_
      have hmode : statedMode v = .string "sanitize" := by
        rw [h.mode, hp, HtmlMode.name]
      have helements : p.elements = p'.elements := NameSet.ext_mem fun x ↦ by
        rw [← h.elements hp, ← h'.elements hp', hsame.elements hmode]
      have hattributes : p.attributes = p'.attributes := NameSet.ext_mem fun x ↦ by
        rw [← h.attributes hp, ← h'.attributes hp', hsame.attributes hmode]
      cases p
      cases p'
      rw [Policy.mk.injEq]
      exact ⟨helements, hattributes⟩
    cases o
    cases o'
    rw [Options.mk.injEq]
    exact ⟨hflag, hhtml⟩

/-- What is written of the options of sanitising lists what the value states. -/
theorem listsInOrder (h : States v o) (hmode : statedMode v = .string "sanitize") :
    ∃ elements attributes,
      o.toJson.at? ["html", "options", "allowed_elements"] = some elements ∧
        ListsInOrder elements (statedElements v) ∧
      o.toJson.at? ["html", "options", "allowed_attributes"] = some attributes ∧
        ListsInOrder attributes (statedAttributes v) := by
  obtain ⟨p, hp⟩ := h.exists_policy hmode
  have hpart : o.toJson.at? ["html", "options"] = some p.toJson := by
    show (o.html.toJson).at? ["options"] = _
    rw [hp]
    rfl
  have hat (list : String) :
      o.toJson.at? ["html", "options", list] = p.toJson.at? [list] := by
    have happend := Value.at?_append ["html", "options"] [list] o.toJson
    rw [hpart] at happend
    exact happend
  refine ⟨p.elements.toJson, p.attributes.toJson, hat _,
    NameSet.listsInOrder_toJson (h.elements hp), hat _,
    NameSet.listsInOrder_toJson (h.attributes hp)⟩

end States

/-- **Options have one canonical form.** Options that were written are read back as they were. What
is written of an accepted value is itself accepted, and written again as it is; it is the same for
two accepted values exactly when they say the same, and it lists the names that a value allows in
increasing order, each once. -/
theorem Options.toJson_canonical :
    (∀ o : Options, ofJson o.toJson = .ok o) ∧
      ∀ {v : Value} {o : Options}, ofJson v = .ok o →
        (∃ o', ofJson o.toJson = .ok o' ∧ o'.toJson = o.toJson) ∧
        (∀ {w : Value} {o' : Options}, ofJson w = .ok o' →
          (o.toJson = o'.toJson ↔ SaysTheSame v w)) ∧
        (statedMode v = .string "sanitize" → ∃ elements attributes,
          o.toJson.at? ["html", "options", "allowed_elements"] = some elements ∧
            ListsInOrder elements (statedElements v) ∧
          o.toJson.at? ["html", "options", "allowed_attributes"] = some attributes ∧
            ListsInOrder attributes (statedAttributes v)) := by
  refine ⟨validate_toJson .modelType, fun {v o} hv ↦ ?_⟩
  have hstates := states_of_validate hv
  refine ⟨⟨o, validate_toJson .modelType o, rfl⟩, fun {w o'} hw ↦ ?_, hstates.listsInOrder⟩
  rw [← hstates.eq_iff (states_of_validate hw)]
  exact ⟨toJson_injective, congrArg toJson⟩

/-- Options written carelessly: a name twice and out of order, a word for yes, one list left out
and a field that is none of the options. -/
def carelessOptions : Value :=
  .object [("html", .object [("mode", .string "sanitize"), ("options", .object
    [("allowed_elements", .array [.string "p", .string "b", .string "p"])])]),
    ("soft_as_hard_line_break", .string "YES"), ("theme", .null)]

/-- The same options with a number for yes and with both lists. -/
def tidyOptions : Value :=
  .object [("soft_as_hard_line_break", .number (.integer 1)), ("html", .object
    [("mode", .string "sanitize"), ("options", .object
      [("allowed_elements", .array [.string "b", .string "p"]),
        ("allowed_attributes", .array [.string "name", .string "class"])])])]

/-- What both of them are read as. -/
def boldOptions : Options :=
  ⟨true, .sanitize ⟨.ofList ["b", "p"], Policy.defaultAttributes⟩⟩

theorem toJson_carelessOptions :
    Options.ofJson carelessOptions = .ok boldOptions ∧
      Options.ofJson tidyOptions = .ok boldOptions ∧
      SaysTheSame carelessOptions tidyOptions ∧ ∃ elements,
        boldOptions.toJson.at? ["html", "options", "allowed_elements"] = some elements ∧
          ListsInOrder elements ["p", "b", "p"] := by
  have hcareless : Options.ofJson carelessOptions = .ok boldOptions := by decide +kernel
  have htidy : Options.ofJson tidyOptions = .ok boldOptions := by decide +kernel
  obtain ⟨-, hsame, hlists⟩ := Options.toJson_canonical.2 hcareless
  obtain ⟨elements, _, hat, horder, -⟩ := hlists rfl
  exact ⟨hcareless, htidy, (hsame htidy).1 rfl, elements, hat, horder⟩

end SafeMarkdown
