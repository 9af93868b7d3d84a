/-!
# The nesting limit

Reading a document and rendering it both refuse to go deeper than a fixed number of levels.
-/

namespace SafeMarkdown.Document

/-- The deepest level that a document may reach, its outermost blocks being at level 0. -/
def depthLimit : Nat := 100

/-- What a document that nests too deep is told. -/
def depthMessage : String :=
  s!"Document nesting exceeds the limit of {depthLimit} levels."

end SafeMarkdown.Document
