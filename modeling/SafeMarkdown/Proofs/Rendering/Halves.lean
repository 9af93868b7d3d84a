import SafeMarkdown.Proofs.Rendering.Rewrite

/-!
# The half of raw HTML that a mode reads

A raw HTML node says everything twice: as it is written, in its sources, and as it was read, in its
tag, its attributes and the nodes inside. A mode that shows raw HTML as text reads the first half
and the two that parse it read the second. The other half has no influence at all: two documents
that agree in the half that is read have the same outcome, the same markup or the same error
(`renderDocument_eq_of_half_eq`). In particular no tag, attribute or leading content can decide
whether a document that is shown as text nests too deep, and no source whether a parsed one does.

A document forgets a half by having it replaced, at every node, by what all documents have there;
two documents that differ in that half only are those that become equal.
-/

namespace SafeMarkdown

namespace Document

/-- The node without what was read from its raw HTML: tag, attributes and whether it is void, the
nodes of a block and the leading part of a section. -/
def Node.forgetReading : Node → Node
  | .htmlElement _ _ children startSource endSource _ =>
    .htmlElement "" [] children startSource endSource false
  | .htmlBlock source _ => .htmlBlock source []
  | .htmlSection _ _ _ children startSource endSource =>
    .htmlSection "" [] [] children startSource endSource
  | n => n

/-- The node without the text that its raw HTML was read from. -/
def Node.forgetSource : Node → Node
  | .htmlElement tag attrs children _ _ void => .htmlElement tag attrs children "" "" void
  | .htmlBlock _ nodes => .htmlBlock "" nodes
  | .htmlSection tag attrs leading children _ _ => .htmlSection tag attrs leading children "" ""
  | .rawHtml _ => .rawHtml ""
  | n => n

end Document

open Document (Node rewriteAll)

variable {soft : Bool} {r : Renderers}

/-- Where raw HTML is shown as text, what was read from it does not show. -/
theorem keepsRendering_forgetReading :
    KeepsRendering ⟨soft, .dontParse⟩ ⟨soft, .dontParse⟩ r Node.forgetReading
      Node.forgetReading :=
  .of_forall (fun _ n ↦ by cases n <;> rfl) fun _ _ n ↦ by cases n <;> rfl

/-- Where raw HTML is parsed, the text that it was read from does not show. -/
theorem keepsRendering_forgetSource {mode : HtmlMode} (hmode : mode ≠ .dontParse) :
    KeepsRendering ⟨soft, mode⟩ ⟨soft, mode⟩ r Node.forgetSource Node.forgetSource := by
  refine .of_forall (fun _ n ↦ ?_) fun _ _ n ↦ ?_
  · cases mode with
    | dontParse => exact absurd rfl hmode
    | parseUnsafe | sanitize _ => cases n <;> rfl
  · cases mode with
    | dontParse => exact absurd rfl hmode
    | parseUnsafe | sanitize _ => cases n <;> rfl

/-- **A mode reads one half of raw HTML.** Documents that differ only in what was read from their
raw HTML have the same outcome where it is shown as text, and documents that differ only in its
text have the same outcome where it is parsed. -/
theorem renderDocument_eq_of_half_eq (soft : Bool) (r : Renderers) (blocks others : List Node) :
    (rewriteAll Node.forgetReading blocks = rewriteAll Node.forgetReading others →
      renderDocument ⟨soft, .dontParse⟩ r blocks = renderDocument ⟨soft, .dontParse⟩ r others) ∧
    (rewriteAll Node.forgetSource blocks = rewriteAll Node.forgetSource others →
      ∀ mode, mode ≠ .dontParse →
        renderDocument ⟨soft, mode⟩ r blocks = renderDocument ⟨soft, mode⟩ r others) := by
  constructor
  · intro hsame
    have hkeeps : KeepsRendering ⟨soft, .dontParse⟩ ⟨soft, .dontParse⟩ r Node.forgetReading
      Node.forgetReading := keepsRendering_forgetReading
    rw [← hkeeps.renderDocument_rewriteAll blocks, hsame, hkeeps.renderDocument_rewriteAll]
  · intro hsame mode hmode
    have hkeeps : KeepsRendering ⟨soft, mode⟩ ⟨soft, mode⟩ r Node.forgetSource Node.forgetSource :=
      keepsRendering_forgetSource hmode
    rw [← hkeeps.renderDocument_rewriteAll blocks, hsame, hkeeps.renderDocument_rewriteAll]

/-- A section with its tags as written, and a stray end tag inside it. -/
def writtenSection (tag startSource strayTag : String) (leading : List Node) : List Node :=
  [.htmlSection tag [] leading [.paragraph [.text "a", .rawHtml strayTag]] startSource "</div>"]

theorem renderDocument_eq_writtenSection :
    (rewriteAll Node.forgetReading (writtenSection "div" "<div>x" "</b>" [.text "x"]) =
        rewriteAll Node.forgetReading (writtenSection "p" "<div>x" "</b>" []) ∧
      renderDocument ⟨false, .dontParse⟩ .standard
          (writtenSection "div" "<div>x" "</b>" [.text "x"]) =
        renderDocument ⟨false, .dontParse⟩ .standard
          (writtenSection "p" "<div>x" "</b>" [])) ∧
    (rewriteAll Node.forgetSource (writtenSection "div" "<div>x" "</b>" [.text "x"]) =
        rewriteAll Node.forgetSource (writtenSection "div" "<DIV>x" "</i>" [.text "x"]) ∧
      renderDocument ⟨false, .parseUnsafe⟩ .standard
          (writtenSection "div" "<div>x" "</b>" [.text "x"]) =
        renderDocument ⟨false, .parseUnsafe⟩ .standard
          (writtenSection "div" "<DIV>x" "</i>" [.text "x"])) :=
  ⟨⟨rfl, (renderDocument_eq_of_half_eq _ _ _ _).1 rfl⟩,
    rfl, (renderDocument_eq_of_half_eq _ _ _ _).2 rfl _ (by decide)⟩

end SafeMarkdown
