import SafeMarkdown.Options.Policy

/-!
# Options of rendering

Raw HTML in a document is kept as written, filtered by a policy, or shown as literal text; and a
line break inside a paragraph is a line feed or a hard break.
-/

namespace SafeMarkdown

/-- What becomes of raw HTML. -/
inductive HtmlMode where
  /-- Raw HTML reaches the output unchanged, scripts and event handlers included. -/
  | parseUnsafe
  /-- Raw HTML is filtered by the allow-lists of a policy. -/
  | sanitize (policy : Policy)
  /-- Raw HTML is shown as text. -/
  | dontParse
deriving DecidableEq, Repr

/-- The options of rendering. -/
structure Options where
  softAsHardLineBreak : Bool
  html : HtmlMode
deriving DecidableEq, Repr

/-- Filtering by the standard policy. -/
def HtmlMode.standard : HtmlMode :=
  .sanitize .standard

instance : Inhabited HtmlMode := ⟨.standard⟩

/-- The options in force when none are given. -/
def Options.standard : Options :=
  ⟨false, .standard⟩

instance : Inhabited Options := ⟨.standard⟩

end SafeMarkdown
