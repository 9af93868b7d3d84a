import SafeMarkdown.Proofs.Rendering.Depth

/-!
# Keeping raw HTML is the strictest mode

The mode that keeps raw HTML renders every list of a document. A policy may drop a raw element
without looking at its children, and where raw HTML is shown as text nobody looks at what was read
from it; but no mode renders a list that keeping does not render, and none renders it at another
depth. So a document that can be rendered with its raw HTML kept can be rendered in every mode
(`succeeds_renderDocument_of_parseUnsafe`), well-sorted or not.

The proof goes along the recursion of rendering, one lemma for each of the five functions. Success
is all that is compared: the two results have different nodes, and often a different number of them.
The converse fails, because a document may be too deep only inside an element that a policy drops.
-/

namespace SafeMarkdown

open Document (Node depthLimit)

variable {soft : Bool} {r : Renderers} {mode : HtmlMode}

mutual

/-- An inline that is rendered with raw HTML kept is rendered in every mode, at the same depth. -/
theorem succeeds_renderInline_of_parseUnsafe {depth : Nat} :
    ∀ {n : Node}, Succeeds (renderInline ⟨soft, .parseUnsafe⟩ r depth n) →
      Succeeds (renderInline ⟨soft, mode⟩ r depth n)
  | .text _, _ | .softBreak, _ | .hardBreak, _ | .codeSpan _, _ | .image _, _ => succeeds_ok _
  | .emphasis _, h | .strong _, h | .link _ _, h =>
    succeeds_bind_ok_iff.2
      (succeeds_renderInlines_of_parseUnsafe (succeeds_bind_ok_iff.1 h))
  | .htmlElement _ _ _ _ _ _, h =>
    succeeds_htmlElement (succeeds_renderInlines_of_parseUnsafe (succeeds_bind_ok_iff.1 h))
  | .rawHtml _, _ => by cases mode <;> exact succeeds_ok _
  | .heading _ _, h | .paragraph _, h | .blockQuote _, h | .codeBlock _, h | .list _ _ _, h
  | .thematicBreak, h | .htmlBlock _ _, h | .htmlSection _ _ _ _ _ _, h =>
    absurd h (not_succeeds_error _)

theorem succeeds_renderInlines_of_parseUnsafe {depth : Nat} :
    ∀ {ns : List Node}, Succeeds (renderInlines ⟨soft, .parseUnsafe⟩ r depth ns) →
      Succeeds (renderInlines ⟨soft, mode⟩ r depth ns)
  | [], ⟨_, h⟩ => succeeds_renderInlines_nil (le_depthLimit_of_renderInlines h)
  | _ :: _, ⟨out, h⟩ => by
    have hdepth := le_depthLimit_of_renderInlines h
    obtain ⟨hn, hns⟩ := (succeeds_renderInlines_cons_iff hdepth).1 ⟨out, h⟩
    exact (succeeds_renderInlines_cons_iff hdepth).2
      ⟨succeeds_renderInline_of_parseUnsafe hn, succeeds_renderInlines_of_parseUnsafe hns⟩

end

mutual

/-- The same of a block, in a tight list or not. -/
theorem succeeds_renderBlock_of_parseUnsafe {depth : Nat} {tight : Bool} :
    ∀ {n : Node}, Succeeds (renderBlock ⟨soft, .parseUnsafe⟩ r depth tight n) →
      Succeeds (renderBlock ⟨soft, mode⟩ r depth tight n)
  | .paragraph _, h | .heading _ _, h =>
    succeeds_bind_ok_iff.2
      (succeeds_renderInlines_of_parseUnsafe (succeeds_bind_ok_iff.1 h))
  | .blockQuote _, h =>
    succeeds_bind_ok_iff.2
      (succeeds_renderBlocks_of_parseUnsafe (succeeds_bind_ok_iff.1 h))
  | .codeBlock _, _ | .thematicBreak, _ => succeeds_ok _
  | .list _ _ _, h =>
    succeeds_bind_ok_iff.2
      (succeeds_renderItems_of_parseUnsafe (succeeds_bind_ok_iff.1 h))
  | .htmlBlock _ _, h => by
    cases mode with
    | dontParse => exact succeeds_ok _
    | parseUnsafe => exact h
    | sanitize policy => exact succeeds_renderInlines_of_parseUnsafe h
  | .htmlSection tag _ leading children _ _, h => by
    obtain ⟨hleading, hchildren⟩ := succeeds_both_iff.1 h
    have hleading : Succeeds (renderInlines ⟨soft, mode⟩ r (depth + 1) leading) :=
      succeeds_renderInlines_of_parseUnsafe hleading
    have hchildren : Succeeds (renderBlocks ⟨soft, mode⟩ r (depth + 1) false children) :=
      succeeds_renderBlocks_of_parseUnsafe hchildren
    cases mode with
    | dontParse => exact succeeds_bind_ok_iff.2 hchildren
    | parseUnsafe => exact h
    | sanitize policy =>
      obtain ⟨first, hfirst⟩ := hleading
      obtain ⟨rest, hrest⟩ := hchildren
      rw [renderBlock, hfirst, hrest]
      show Succeeds (if policy.allowsElement tag then .ok [.element tag _ (first ++ rest)] else
        .ok (first ++ rest))
      split <;> exact succeeds_ok _
  | .text _, h | .softBreak, h | .hardBreak, h | .codeSpan _, h | .emphasis _, h | .strong _, h
  | .link _ _, h | .image _, h | .htmlElement _ _ _ _ _ _, h | .rawHtml _, h =>
    absurd h (not_succeeds_error _)

theorem succeeds_renderBlocks_of_parseUnsafe {depth : Nat} {tight : Bool} :
    ∀ {ns : List Node}, Succeeds (renderBlocks ⟨soft, .parseUnsafe⟩ r depth tight ns) →
      Succeeds (renderBlocks ⟨soft, mode⟩ r depth tight ns)
  | [], ⟨_, h⟩ => succeeds_renderBlocks_nil (le_depthLimit_of_renderBlocks h)
  | _ :: _, ⟨out, h⟩ => by
    have hdepth := le_depthLimit_of_renderBlocks h
    obtain ⟨hn, hns⟩ := (succeeds_renderBlocks_cons_iff hdepth).1 ⟨out, h⟩
    exact (succeeds_renderBlocks_cons_iff hdepth).2
      ⟨succeeds_renderBlock_of_parseUnsafe hn, succeeds_renderBlocks_of_parseUnsafe hns⟩

theorem succeeds_renderItems_of_parseUnsafe {depth : Nat} {tight : Bool} :
    ∀ {items : List (List Node)},
      Succeeds (renderItems ⟨soft, .parseUnsafe⟩ r depth tight items) →
        Succeeds (renderItems ⟨soft, mode⟩ r depth tight items)
  | [], _ => succeeds_ok _
  | _ :: _, h =>
    have ⟨hitem, hitems⟩ := succeeds_both_iff.1 h
    succeeds_both_iff.2 ⟨succeeds_renderBlocks_of_parseUnsafe hitem,
      succeeds_renderItems_of_parseUnsafe hitems⟩

end

/-- **A document that is rendered with its raw HTML kept is rendered in every mode.** -/
theorem succeeds_renderDocument_of_parseUnsafe {blocks : List Node} {nodes : List Markup}
    (h : renderDocument ⟨soft, .parseUnsafe⟩ r blocks = .ok nodes) (mode : HtmlMode) :
    ∃ out, renderDocument ⟨soft, mode⟩ r blocks = .ok out :=
  succeeds_renderBlocks_of_parseUnsafe ⟨nodes, h⟩

end SafeMarkdown
