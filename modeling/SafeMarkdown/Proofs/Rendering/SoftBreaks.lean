import SafeMarkdown.Proofs.Rendering.Rewrite

/-!
# Soft breaks

The option on soft breaks could as well be a change of the document. With the option on, a document
has the outcome that it has when every soft break in it is a hard break, and with the option off the
one that it has when every soft break is a line feed; and where the soft breaks are replaced, the
option has no effect any more (`renderDocument_replaceSoftBreaks`). The outcome is markup or an
error, in every mode and with any renderers.

A soft break stands in a list of inlines. One in a list of blocks is no break: it is refused there
by its kind, like any other inline, so `replaceSoftBreaks` leaves it where it is. In a well-sorted
document there is none, and replacing soft breaks there is replacing them at every node
(`replaceSoftBreaks_eq_rewriteAll`).
-/

namespace SafeMarkdown

namespace Document

/-- The node, or `b` where it is a soft break. -/
def Node.breakAs (b : Node) : Node → Node
  | .softBreak => b
  | n => n

/-- The document with `b` for every soft break in a list of inlines. -/
def replaceSoftBreaks (b : Node) (blocks : List Node) : List Node :=
  rewriteBlocks (Node.breakAs b) id blocks

/-- In a well-sorted document, soft breaks are replaced at every node. -/
theorem replaceSoftBreaks_eq_rewriteAll (b : Node) {blocks : List Node} (h : SortedBlocks blocks) :
    replaceSoftBreaks b blocks = rewriteAll (Node.breakAs b) blocks := by
  have hblock (n : Node) (hn : n.isBlock = true) : id n = Node.breakAs b n := by
    cases n with
    | softBreak => cases hn
    | _ => rfl
  exact rewriteBlocks_eq_of_sorted hblock h

end Document

open Document (Node SortedBlocks rewriteAll replaceSoftBreaks replaceSoftBreaks_eq_rewriteAll)

/-! ### Rendering -/

/-- A node that is rendered as soft breaks are under the first options may stand for them under the
second. -/
theorem keepsRendering_breakAs {o o' : Options} {r : Renderers} {b : Node}
    (hhtml : o'.html = o.html)
    (hb : ∀ depth, renderInline o' r depth b = renderInline o r depth .softBreak) :
    KeepsRendering o o' r (Node.breakAs b) id where
  html := hhtml
  inline depth n hn := by
    cases n with
    | softBreak => exact absurd rfl hn
    | _ => rfl
  softBreak := hb
  block _ _ _ := rfl

/-- **The option on soft breaks is a change of the document.** Whatever the mode, the renderers and
the document are, a document with its soft breaks made hard has, with the option on or off, the
outcome of the document itself with the option on, and one with line feeds for its soft breaks has
that of the document with the option off. In a well-sorted document every soft break is replaced,
at every node. -/
theorem renderDocument_replaceSoftBreaks (html : HtmlMode) (r : Renderers) (blocks : List Node) :
    (∀ flag, renderDocument ⟨flag, html⟩ r (replaceSoftBreaks .hardBreak blocks) =
        renderDocument ⟨true, html⟩ r blocks ∧
      renderDocument ⟨flag, html⟩ r (replaceSoftBreaks (.text "\n") blocks) =
        renderDocument ⟨false, html⟩ r blocks) ∧
    (SortedBlocks blocks →
      ∀ b, replaceSoftBreaks b blocks = rewriteAll (Node.breakAs b) blocks) := by
  constructor
  · intro flag
    have hhard : KeepsRendering ⟨true, html⟩ ⟨flag, html⟩ r (Node.breakAs .hardBreak) id :=
      keepsRendering_breakAs rfl fun _ ↦ rfl
    have hfeed : KeepsRendering ⟨false, html⟩ ⟨flag, html⟩ r (Node.breakAs (.text "\n")) id :=
      keepsRendering_breakAs rfl fun _ ↦ rfl
    exact ⟨hhard.renderDocument_rewriteBlocks blocks, hfeed.renderDocument_rewriteBlocks blocks⟩
  · intro hsorted b
    exact replaceSoftBreaks_eq_rewriteAll b hsorted

/-- A node in a paragraph, in a link, in a raw element, in an item of a list, in an HTML block and
in the leading part of a section. -/
def linesBrokenBy (b : Node) : List Node :=
  [.paragraph [.text "a", b, .link ⟨"u", none⟩ [b], .htmlElement "b" [] [b] "<b>" "</b>" false],
    .list .unordered [[.paragraph [b]]] true,
    .htmlBlock "<i>\n</i>" [.htmlElement "i" [] [b] "" "" false],
    .htmlSection "div" [] [b] [.paragraph [b]] "<div>\n" "</div>"]

theorem renderDocument_linesBrokenBy :
    SortedBlocks (linesBrokenBy .softBreak) ∧
      renderDocument ⟨true, .parseUnsafe⟩ .standard (linesBrokenBy .softBreak) =
        renderDocument ⟨false, .parseUnsafe⟩ .standard (linesBrokenBy .hardBreak) ∧
      renderDocument ⟨false, .dontParse⟩ .standard (linesBrokenBy .softBreak) =
        renderDocument ⟨true, .dontParse⟩ .standard (linesBrokenBy (.text "\n")) := by
  have hsorted : SortedBlocks (linesBrokenBy .softBreak) := by
    simp [linesBrokenBy, SortedBlocks, Document.SortedItems, Document.Node.SortedBlock,
      Document.SortedInlines, Document.Node.SortedInline]
  have hkept := renderDocument_replaceSoftBreaks .parseUnsafe .standard (linesBrokenBy .softBreak)
  have hshown := renderDocument_replaceSoftBreaks .dontParse .standard (linesBrokenBy .softBreak)
  have hhard : replaceSoftBreaks .hardBreak (linesBrokenBy .softBreak) = linesBrokenBy .hardBreak :=
    hkept.2 hsorted .hardBreak
  have hfeed : replaceSoftBreaks (.text "\n") (linesBrokenBy .softBreak) =
      linesBrokenBy (.text "\n") := hshown.2 hsorted (.text "\n")
  refine ⟨hsorted, ?_, ?_⟩
  · rw [← hhard, (hkept.1 false).1]
  · rw [← hfeed, (hshown.1 true).2]

end SafeMarkdown
