/-!
# Tables of code point spans

A character class is given as an array of inclusive spans of code points.
-/

namespace SafeMarkdown.Text

/-- The code point of the character lies in one of the spans. -/
def inSpans (table : Array (Nat × Nat)) (c : Char) : Bool :=
  table.any fun s ↦ s.1 ≤ c.toNat && c.toNat ≤ s.2

end SafeMarkdown.Text
