import SafeMarkdown.KeyedList
import SafeMarkdown.Renderer.Basic
import SafeMarkdown.Text.Quoted

/-!
# Renderer tables

A renderer table gives each construct an entry. A new table is made from pairs of key and entry
and has to be complete; overriding a table replaces entries and keeps their places. Either fails
on a key that names no construct or an entry that cannot be called, and a table that could not be
made leaves the old one as it was. The type of the entries is a parameter: the rules are about
keys and order only.

The entries of an override are its arguments, by name, next to the table that is overridden. So a
key that is no name cannot be given there, nor can the name under which the table itself is taken.
-/

namespace SafeMarkdown

/-- A key offered to a table: a name, or another scalar, known by its literal. -/
inductive TableKey where
  | name (text : String)
  | scalar (literal : String)
deriving DecidableEq, Repr

namespace TableKey

/-- The construct that the key names. -/
def construct? : TableKey → Option Construct
  | name text => Construct.ofName? text
  | scalar _ => none

/-- The key is a name. -/
def isName : TableKey → Bool
  | name _ => true
  | scalar _ => false

/-- The key as a message shows it. -/
def literal : TableKey → String
  | name text => Text.Quoted.quoted text
  | scalar literal => literal

end TableKey

/-- Why a table could not be made. -/
inductive TableError where
  | nameExpected
  | nameTaken (name : String)
  | unknownConstruct (key : TableKey)
  | notCallable (construct : Construct)
  | missing (constructs : List Construct)
deriving DecidableEq, Repr

/-- The text of the error. -/
def TableError.message : TableError → String
  | nameExpected => "keywords must be strings"
  | nameTaken name =>
    "ElementRenderers.override() got multiple values for argument " ++ Text.Quoted.quoted name
  | unknownConstruct key => "Unknown construct: " ++ key.literal
  | notCallable c => "Renderer for " ++ c.name ++ " is not callable."
  | missing cs => "Missing renderers for: " ++ ", ".intercalate (cs.map Construct.name)

/-- A table of entries, one for each construct. -/
structure RendererTable (α : Type) where
  entries : List (Construct × α)
deriving Repr

namespace RendererTable

variable {α : Type}

/-- The table with the entries that `f` gives, in the order of the constructs. -/
def ofFn (f : Construct → α) : RendererTable α :=
  ⟨Construct.all.map fun c ↦ (c, f c)⟩

/-- The constructs without an entry. -/
def missing (entries : List (Construct × α)) : List Construct :=
  Construct.all.filter fun c ↦ !(entries.map Prod.fst).contains c

/-- Adds pairs to the entries, one by one: the key of a pair is looked at before its entry. -/
def addPairs (callable : α → Bool) (entries : List (Construct × α)) :
    List (TableKey × α) → Except TableError (List (Construct × α))
  | [] => .ok entries
  | (key, entry) :: rest =>
    match key.construct? with
    | none => .error (.unknownConstruct key)
    | some c =>
      if callable entry then addPairs callable (setEntry c entry entries) rest
      else .error (.notCallable c)

/-- A table from pairs, if all of them are good and none is missing. -/
def ofPairs (callable : α → Bool) (pairs : List (TableKey × α)) :
    Except TableError (RendererTable α) := do
  let entries ← addPairs callable [] (mergePairs pairs)
  match missing entries with
  | [] => return ⟨entries⟩
  | cs => throw (.missing cs)

/-- The name under which overriding takes the table itself. -/
def ownName : String := "self"

/-- Refuses keys that cannot be given to an override. -/
def checkNames (pairs : List (TableKey × α)) : Except TableError Unit :=
  if pairs.any fun p ↦ !p.1.isName then .error .nameExpected
  else if pairs.any fun p ↦ p.1 = .name ownName then .error (.nameTaken ownName)
  else .ok ()

/-- Replaces entries; every key has to name a construct. -/
def replace (entries : List (Construct × α)) :
    List (TableKey × α) → Except TableError (List (Construct × α))
  | [] => .ok entries
  | (key, entry) :: rest =>
    match key.construct? with
    | none => .error (.unknownConstruct key)
    | some c => replace (setEntry c entry entries) rest

/-- The table with some entries replaced. All keys are looked at before any entry. -/
def override (callable : α → Bool) (t : RendererTable α) (pairs : List (TableKey × α)) :
    Except TableError (RendererTable α) := do
  checkNames pairs
  let entries ← replace t.entries (mergePairs pairs)
  ofPairs callable (entries.map fun e ↦ (.name e.1.name, e.2))

/-- The entry of the construct that the key names. -/
def get? (t : RendererTable α) (key : TableKey) : Option α := do
  t.entries.lookup (← key.construct?)

/-- The number of entries. -/
def size (t : RendererTable α) : Nat :=
  t.entries.length

/-- The constructs whose entry is not the one that `f` gives. -/
def overridden [DecidableEq α] (f : Construct → α) (t : RendererTable α) : List Construct :=
  (t.entries.filter fun e ↦ e.2 ≠ f e.1).map Prod.fst

/-- The table as a message shows it: the names of the constructs that were overridden. -/
def text [DecidableEq α] (f : Construct → α) (t : RendererTable α) : String :=
  "ElementRenderers(overridden=[" ++
    ", ".intercalate ((t.overridden f).map fun c ↦ Text.Quoted.quoted c.name) ++ "])"

/-- The renderers of a table whose entries are wrappers, or nothing for the standard renderer. -/
def renderers (t : RendererTable (Option Wrapper)) : Renderers :=
  t.entries.foldl (fun r e ↦ e.2.elim r (r.override e.1)) .standard

end RendererTable

/-- The standard renderers with some replaced by wrappers. -/
def Renderers.ofWrappers (pairs : List (TableKey × Wrapper)) : Except TableError Renderers := do
  let table := RendererTable.ofFn fun _ ↦ (none : Option Wrapper)
  let table ← table.override (fun _ ↦ true) (pairs.map fun p ↦ (p.1, some p.2))
  return table.renderers

end SafeMarkdown
