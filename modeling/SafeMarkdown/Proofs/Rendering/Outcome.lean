import SafeMarkdown.Proofs.Outcome
import SafeMarkdown.Render

/-!
# How rendering ends

Rendering fails for two reasons. A node may stand at a place of the other sort, a block among
inlines or an inline among blocks; it is refused there by its kind. And a list may stand below the
limit of depth; it is refused before anything in it is looked at, even when it is empty. A
well-sorted document has no node of the first kind, so its rendering fails at the limit only
(`eq_tooDeep_of_renderDocument`), whatever the options and the renderers are. `DepthOnly` says so of
any computation, and is kept when computations are chained (`DepthOnly.bind`). The proof is then the
recursion of rendering itself, with one case for each construct.

The second part turns to lists that are rendered. Such a list stands within the limit
(`le_depthLimit_of_renderInlines`, `le_depthLimit_of_renderBlocks`), since the check comes first
even where there is nothing to render. Within the limit, a list is rendered part by part, and the
results are joined in order: `renderInlines_append` and `renderBlocks_append` say this of a list cut
in two, without any condition on depth, because a part that was rendered brings it along. What is
proved elsewhere about the rendering of lists is proved from these.
-/

namespace SafeMarkdown

open Document (Node depthLimit SortedInlines SortedBlocks SortedItems)

/-- The computation fails at the limit of depth, if it fails. -/
def DepthOnly {α : Type} (x : Except RenderError α) : Prop :=
  ∀ e, x = .error e → e = .tooDeep

variable {α β : Type}

/-- A computation that succeeds has no error at all. -/
theorem depthOnly_ok (a : α) : DepthOnly (.ok a) := fun _ h ↦ by cases h

/-- The check of the depth has one error only. -/
theorem depthOnly_checkDepth (depth : Nat) : DepthOnly (checkDepth depth) := by
  intro e h
  unfold checkDepth at h
  split at h
  · exact (Except.error.inj h).symm
  · cases h

/-- Two steps fail at the limit only if each of them does. -/
theorem DepthOnly.bind {x : Except RenderError α} {f : α → Except RenderError β}
    (hx : DepthOnly x) (hf : ∀ a, DepthOnly (f a)) : DepthOnly (x >>= f) := by
  intro e h
  rcases bind_eq_error_iff.1 h with h | ⟨a, -, h⟩
  · exact hx e h
  · exact hf a e h

/-- What is done with the result of a step cannot fail. -/
theorem DepthOnly.bind_pure {x : Except RenderError α} {f : α → β} (hx : DepthOnly x) :
    DepthOnly (x >>= fun a ↦ .ok (f a)) :=
  hx.bind fun _ ↦ depthOnly_ok _

variable {o : Options} {r : Renderers}

mutual

/-- One inline, by its construct. A raw element has a case for each mode, and a policy that drops
the element may still render its children. -/
theorem depthOnly_renderInline {depth : Nat} :
    ∀ {n : Node}, n.SortedInline → DepthOnly (renderInline o r depth n)
  | .text _, _ | .softBreak, _ | .hardBreak, _ | .codeSpan _, _ | .image _, _ => depthOnly_ok _
  | .emphasis _, h | .strong _, h | .link _ _, h => (depthOnly_renderInlines h).bind_pure
  | .htmlElement _ _ _ _ _ _, h => by
    unfold renderInline
    split
    · exact (depthOnly_renderInlines h).bind_pure
    · split
      · exact (depthOnly_renderInlines h).bind_pure
      · split
        · exact depthOnly_ok _
        · exact depthOnly_renderInlines h
    · exact (depthOnly_renderInlines h).bind_pure
  | .rawHtml _, _ => by
    unfold renderInline
    split
    · exact depthOnly_ok _
    · exact depthOnly_ok _

/-- A list of inlines: the check of the depth, then node by node. -/
theorem depthOnly_renderInlines {depth : Nat} :
    ∀ {ns : List Node}, SortedInlines ns → DepthOnly (renderInlines o r depth ns)
  | [], _ => (depthOnly_checkDepth depth).bind_pure
  | _ :: _, ⟨hn, hns⟩ =>
    (depthOnly_checkDepth depth).bind fun _ ↦
      (depthOnly_renderInline hn).bind fun _ ↦ (depthOnly_renderInlines hns).bind_pure

end

mutual

/-- One block, by its construct. What an HTML block or a section holds is rendered in some modes and
left aside in others; neither fails otherwise. -/
theorem depthOnly_renderBlock {depth : Nat} {tight : Bool} :
    ∀ {n : Node}, n.SortedBlock → DepthOnly (renderBlock o r depth tight n)
  | .paragraph _, h | .heading _ _, h => (depthOnly_renderInlines h).bind_pure
  | .blockQuote _, h => (depthOnly_renderBlocks h).bind_pure
  | .codeBlock _, _ | .thematicBreak, _ => depthOnly_ok _
  | .list _ _ _, h => (depthOnly_renderItems h).bind_pure
  | .htmlBlock _ _, h => by
    unfold renderBlock
    split
    · exact depthOnly_ok _
    · exact depthOnly_renderInlines h
  | .htmlSection _ _ _ _ _ _, ⟨hleading, hchildren⟩ => by
    unfold renderBlock
    split
    · exact (depthOnly_renderBlocks hchildren).bind_pure
    · exact (depthOnly_renderInlines hleading).bind fun _ ↦
        (depthOnly_renderBlocks hchildren).bind_pure
    · refine (depthOnly_renderInlines hleading).bind fun _ ↦
        (depthOnly_renderBlocks hchildren).bind fun _ ↦ ?_
      split
      · exact depthOnly_ok _
      · exact depthOnly_ok _

/-- A list of blocks: the check of the depth, then node by node. -/
theorem depthOnly_renderBlocks {depth : Nat} {tight : Bool} :
    ∀ {ns : List Node}, SortedBlocks ns → DepthOnly (renderBlocks o r depth tight ns)
  | [], _ => (depthOnly_checkDepth depth).bind_pure
  | _ :: _, ⟨hn, hns⟩ =>
    (depthOnly_checkDepth depth).bind fun _ ↦
      (depthOnly_renderBlock hn).bind fun _ ↦ (depthOnly_renderBlocks hns).bind_pure

/-- The items of a list; the list itself has no check, since each item has its own. -/
theorem depthOnly_renderItems {depth : Nat} {tight : Bool} :
    ∀ {items : List (List Node)}, SortedItems items → DepthOnly (renderItems o r depth tight items)
  | [], _ => depthOnly_ok _
  | _ :: _, ⟨hitem, hitems⟩ =>
    (depthOnly_renderBlocks hitem).bind fun _ ↦ (depthOnly_renderItems hitems).bind_pure

end

/-- **Rendering a well-sorted document fails at the limit of depth only.** -/
theorem eq_tooDeep_of_renderDocument {blocks : List Node} {e : RenderError}
    (hsorted : SortedBlocks blocks) (h : renderDocument o r blocks = .error e) : e = .tooDeep :=
  depthOnly_renderBlocks hsorted e h

/-! ### Lists within the limit -/

variable {depth : Nat}

/-- Within the limit, the check passes. -/
theorem checkDepth_of_le (h : depth ≤ depthLimit) : checkDepth depth = .ok () :=
  if_neg (by omega)

/-- The check passes within the limit only. -/
theorem le_depthLimit_of_checkDepth {u : Unit} (h : checkDepth depth = .ok u) :
    depth ≤ depthLimit := by
  unfold checkDepth at h
  split at h
  · cases h
  · omega

/-- **A list of inlines that is rendered stands within the limit**, even an empty one. -/
theorem le_depthLimit_of_renderInlines {ns : List Node} {out : List Markup}
    (h : renderInlines o r depth ns = .ok out) : depth ≤ depthLimit := by
  cases ns <;>
  · obtain ⟨_, hdepth, -⟩ := bind_eq_ok_iff.1 h
    exact le_depthLimit_of_checkDepth hdepth

/-- **A list of blocks that is rendered stands within the limit**, even an empty one. -/
theorem le_depthLimit_of_renderBlocks {tight : Bool} {ns : List Node} {out : List Markup}
    (h : renderBlocks o r depth tight ns = .ok out) : depth ≤ depthLimit := by
  cases ns <;>
  · obtain ⟨_, hdepth, -⟩ := bind_eq_ok_iff.1 h
    exact le_depthLimit_of_checkDepth hdepth

/-- An empty list of inlines is rendered to nothing, within the limit. -/
theorem renderInlines_nil (h : depth ≤ depthLimit) : renderInlines o r depth [] = .ok [] := by
  rw [renderInlines, checkDepth_of_le h]
  rfl

/-- An empty list of blocks is rendered to nothing, within the limit. -/
theorem renderBlocks_nil (h : depth ≤ depthLimit) {tight : Bool} :
    renderBlocks o r depth tight [] = .ok [] := by
  rw [renderBlocks, checkDepth_of_le h]
  rfl

/-- One inline more in front. The list behind it was rendered, so the depth need not be checked
again. -/
theorem renderInlines_cons {n : Node} {ns : List Node} {first rest : List Markup}
    (hn : renderInline o r depth n = .ok first) (hns : renderInlines o r depth ns = .ok rest) :
    renderInlines o r depth (n :: ns) = .ok (first ++ rest) := by
  rw [renderInlines, checkDepth_of_le (le_depthLimit_of_renderInlines hns), hn, hns]
  rfl

/-- One block more in front. The list behind it was rendered, so the depth need not be checked
again. -/
theorem renderBlocks_cons {tight : Bool} {n : Node} {ns : List Node} {first rest : List Markup}
    (hn : renderBlock o r depth tight n = .ok first)
    (hns : renderBlocks o r depth tight ns = .ok rest) :
    renderBlocks o r depth tight (n :: ns) = .ok (first ++ rest) := by
  rw [renderBlocks, checkDepth_of_le (le_depthLimit_of_renderBlocks hns), hn, hns]
  rfl

/-- A single inline is rendered as a list, within the limit; here nothing else vouches for the
depth. -/
theorem renderInlines_singleton (h : depth ≤ depthLimit) {n : Node} {out : List Markup}
    (hn : renderInline o r depth n = .ok out) : renderInlines o r depth [n] = .ok out := by
  have hlist := renderInlines_cons hn (renderInlines_nil h)
  rwa [List.append_nil] at hlist

/-- A single block is rendered as a list, within the limit; here nothing else vouches for the depth.
-/
theorem renderBlocks_singleton (h : depth ≤ depthLimit) {tight : Bool} {n : Node}
    {out : List Markup} (hn : renderBlock o r depth tight n = .ok out) :
    renderBlocks o r depth tight [n] = .ok out := by
  have hlist := renderBlocks_cons hn (renderBlocks_nil h)
  rwa [List.append_nil] at hlist

/-- **Inlines are rendered part by part.** Two lists that are rendered at one depth are rendered as
one list, one after the other. -/
theorem renderInlines_append {ns ms : List Node} {first rest : List Markup}
    (hns : renderInlines o r depth ns = .ok first) (hms : renderInlines o r depth ms = .ok rest) :
    renderInlines o r depth (ns ++ ms) = .ok (first ++ rest) := by
  induction ns generalizing first with
  | nil =>
    rw [renderInlines_nil (le_depthLimit_of_renderInlines hms)] at hns
    cases hns
    exact hms
  | cons n ns ih =>
    obtain ⟨_, _, hn, htail, rfl⟩ := exists_of_checked_eq_ok hns
    rw [List.append_assoc]
    exact renderInlines_cons hn (ih htail)

/-- **Blocks are rendered part by part.** Two lists that are rendered at one depth are rendered as
one list, one after the other. -/
theorem renderBlocks_append {tight : Bool} {ns ms : List Node} {first rest : List Markup}
    (hns : renderBlocks o r depth tight ns = .ok first)
    (hms : renderBlocks o r depth tight ms = .ok rest) :
    renderBlocks o r depth tight (ns ++ ms) = .ok (first ++ rest) := by
  induction ns generalizing first with
  | nil =>
    rw [renderBlocks_nil (le_depthLimit_of_renderBlocks hms)] at hns
    cases hns
    exact hms
  | cons n ns ih =>
    obtain ⟨_, _, hn, htail, rfl⟩ := exists_of_checked_eq_ok hns
    rw [List.append_assoc]
    exact renderBlocks_cons hn (ih htail)

end SafeMarkdown
