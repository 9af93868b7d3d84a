import SafeMarkdown.Entity.NameTable
import SafeMarkdown.Text.Ascii
import Std.Data.HashMap

/-!
# Named character references

The characters that a named character reference stands for. The four names that escaped text
needs are looked up in a list of their own, before the large table.
-/

namespace SafeMarkdown.Entity

/-- The names for the characters that escaping takes away. -/
def coreNames : List (String × String) :=
  [("amp", "&"), ("lt", "<"), ("gt", ">"), ("quot", "\"")]

/-- A table entry, a name and its codes, as a pair of strings. -/
def readEntry (entry : String) : String × String :=
  match entry.splitOn ":" with
  | [name, codes] =>
    (name, .ofList ((codes.splitOn "+").map fun h ↦ Char.ofNat (Text.hexValue h.toList)))
  | _ => (entry, "")

/-- The table by name. -/
def byName : Std.HashMap String String :=
  nameTable.foldl (fun m line ↦ (line.splitOn " ").foldl (fun m e ↦
    let (name, characters) := readEntry e
    m.insert name characters) m) ∅

/-- The set of the names that need no semicolon. -/
def semicolonFree : Std.HashMap String Unit :=
  semicolonFreeNames.foldl (fun m line ↦ (line.splitOn " ").foldl (fun m n ↦ m.insert n ()) m) ∅

/-- The characters that the name stands for. -/
def characters? (name : String) : Option String :=
  match coreNames.lookup name with
  | some s => some s
  | none => byName[name]?

/-- In an attribute value the name may stand without a semicolon. -/
def isSemicolonFree (name : String) : Bool :=
  (coreNames.lookup name).isSome || semicolonFree.contains name

end SafeMarkdown.Entity
