import SafeMarkdown.Render

/-!
# Changing a document node by node

A document is changed from the leaves up: each node is changed after the nodes below it. A node in a
list of inlines is changed by one function and a node in a list of blocks by another
(`rewriteInlines`, `rewriteBlocks`); `rewriteAll f` changes both by the same.

A change that no single node's rendering shows is not shown by the rendering of the document either
(`KeepsRendering.renderDocument_rewriteBlocks`), be it markup or an error. What has to be checked of
the two functions is `KeepsRendering`, which is about one node whose children are whatever they are,
and no statement about lists, levels or nesting is left to the one who uses it. The document may be
rendered with another option on soft breaks after the change, if the change makes up for that.
-/

namespace SafeMarkdown

namespace Document

mutual

/-- The node with the nodes below it changed, by `f` in lists of inlines and by `g` in lists of
blocks. -/
def Node.rewriteBelow (f g : Node → Node) : Node → Node
  | .heading level children => .heading level (rewriteInlines f g children)
  | .paragraph children => .paragraph (rewriteInlines f g children)
  | .blockQuote children => .blockQuote (rewriteBlocks f g children)
  | .codeBlock block => .codeBlock block
  | .list kind items tight => .list kind (rewriteItems f g items) tight
  | .thematicBreak => .thematicBreak
  | .htmlBlock source nodes => .htmlBlock source (rewriteInlines f g nodes)
  | .htmlSection tag attrs leading children startSource endSource =>
    .htmlSection tag attrs (rewriteInlines f g leading) (rewriteBlocks f g children) startSource
      endSource
  | .text value => .text value
  | .softBreak => .softBreak
  | .hardBreak => .hardBreak
  | .codeSpan text => .codeSpan text
  | .emphasis children => .emphasis (rewriteInlines f g children)
  | .strong children => .strong (rewriteInlines f g children)
  | .link link children => .link link (rewriteInlines f g children)
  | .image image => .image image
  | .htmlElement tag attrs children startSource endSource void =>
    .htmlElement tag attrs (rewriteInlines f g children) startSource endSource void
  | .rawHtml source => .rawHtml source

/-- A list of inlines with every node in it and below changed. -/
def rewriteInlines (f g : Node → Node) : List Node → List Node
  | [] => []
  | n :: ns => f (n.rewriteBelow f g) :: rewriteInlines f g ns

/-- A list of blocks with every node in it and below changed. -/
def rewriteBlocks (f g : Node → Node) : List Node → List Node
  | [] => []
  | n :: ns => g (n.rewriteBelow f g) :: rewriteBlocks f g ns

/-- The items of a list with every node in them and below changed. -/
def rewriteItems (f g : Node → Node) : List (List Node) → List (List Node)
  | [] => []
  | item :: items => rewriteBlocks f g item :: rewriteItems f g items

end

/-- The document with `f` applied at every node. -/
def rewriteAll (f : Node → Node) : List Node → List Node :=
  rewriteBlocks f f

variable {f g g' : Node → Node}

/-- A changed list is empty when the list was. -/
theorem isEmpty_rewriteInlines (f g : Node → Node) (ns : List Node) :
    (rewriteInlines f g ns).isEmpty = ns.isEmpty := by
  cases ns <;> rfl

/-! ### Well-sorted documents -/

mutual

/-- Below a well-sorted inline there are no lists of blocks. -/
theorem rewriteBelow_eq_of_sortedInline :
    ∀ {n : Node}, n.SortedInline → n.rewriteBelow f g = n.rewriteBelow f g'
  | .text _, _ | .softBreak, _ | .hardBreak, _ | .codeSpan _, _ | .image _, _ | .rawHtml _, _ => rfl
  | .emphasis _, h | .strong _, h | .link _ _, h | .htmlElement _ _ _ _ _ _, h => by
    rw [Node.rewriteBelow, Node.rewriteBelow, rewriteInlines_eq_of_sorted h]

/-- Among sorted inlines, the function for blocks is not used. -/
theorem rewriteInlines_eq_of_sorted :
    ∀ {ns : List Node}, SortedInlines ns → rewriteInlines f g ns = rewriteInlines f g' ns
  | [], _ => rfl
  | _ :: _, ⟨hn, hns⟩ => by
    rw [rewriteInlines, rewriteInlines, rewriteBelow_eq_of_sortedInline hn,
      rewriteInlines_eq_of_sorted hns]

end

/-- What is below a block is changed, and the block stays one. -/
theorem isBlock_rewriteBelow (f g : Node → Node) (n : Node) :
    (n.rewriteBelow f g).isBlock = n.isBlock := by
  cases n <;> rfl

/-- A sorted block is one of the blocks. -/
theorem isBlock_of_sortedBlock {n : Node} (h : n.SortedBlock) : n.isBlock = true := by
  cases n <;> first | rfl | cases h

mutual

/-- In sorted blocks, the function for blocks is used on blocks only. -/
theorem rewriteBelow_eq_of_sortedBlock (hg : ∀ n : Node, n.isBlock = true → g n = g' n) :
    ∀ {n : Node}, n.SortedBlock → n.rewriteBelow f g = n.rewriteBelow f g'
  | .codeBlock _, _ | .thematicBreak, _ => rfl
  | .heading _ _, h | .paragraph _, h | .htmlBlock _ _, h => by
    rw [Node.rewriteBelow, Node.rewriteBelow, rewriteInlines_eq_of_sorted h]
  | .blockQuote _, h => by
    rw [Node.rewriteBelow, Node.rewriteBelow, rewriteBlocks_eq_of_sorted hg h]
  | .list _ _ _, h => by
    rw [Node.rewriteBelow, Node.rewriteBelow, rewriteItems_eq_of_sorted hg h]
  | .htmlSection _ _ _ _ _ _, ⟨hleading, hchildren⟩ => by
    rw [Node.rewriteBelow, Node.rewriteBelow, rewriteInlines_eq_of_sorted hleading,
      rewriteBlocks_eq_of_sorted hg hchildren]

/-- In a well-sorted document, only what the second function does to blocks matters. -/
theorem rewriteBlocks_eq_of_sorted (hg : ∀ n : Node, n.isBlock = true → g n = g' n) :
    ∀ {ns : List Node}, SortedBlocks ns → rewriteBlocks f g ns = rewriteBlocks f g' ns
  | [], _ => rfl
  | n :: _, ⟨hn, hns⟩ => by
    have hblock : (n.rewriteBelow f g').isBlock = true := by
      rw [isBlock_rewriteBelow]
      exact isBlock_of_sortedBlock hn
    rw [rewriteBlocks, rewriteBlocks, rewriteBelow_eq_of_sortedBlock hg hn, hg _ hblock,
      rewriteBlocks_eq_of_sorted hg hns]

theorem rewriteItems_eq_of_sorted (hg : ∀ n : Node, n.isBlock = true → g n = g' n) :
    ∀ {items : List (List Node)}, SortedItems items →
      rewriteItems f g items = rewriteItems f g' items
  | [], _ => rfl
  | _ :: _, ⟨hitem, hitems⟩ => by
    rw [rewriteItems, rewriteItems, rewriteBlocks_eq_of_sorted hg hitem,
      rewriteItems_eq_of_sorted hg hitems]

end

end Document

open Document (Node rewriteInlines rewriteBlocks rewriteItems rewriteAll isEmpty_rewriteInlines)

/-! ### Rendering -/

/-- What a node is rendered to, wherever it stands, is what it is rendered to after the change that
fits its place. Soft breaks are changed into what they are rendered to under `o`, and all else is
rendered under `o'`, which treats raw HTML as `o` does. -/
structure KeepsRendering (o o' : Options) (r : Renderers) (f g : Node → Node) : Prop where
  html : o'.html = o.html
  inline : ∀ depth n, n ≠ .softBreak → renderInline o' r depth (f n) = renderInline o' r depth n
  softBreak : ∀ depth, renderInline o' r depth (f .softBreak) = renderInline o r depth .softBreak
  block : ∀ depth tight n, renderBlock o' r depth tight (g n) = renderBlock o' r depth tight n

namespace KeepsRendering

variable {o o' : Options} {r : Renderers} {f g : Node → Node}

/-- A change of all nodes, with the options left as they are. -/
theorem of_forall (hinline : ∀ depth n, renderInline o r depth (f n) = renderInline o r depth n)
    (hblock : ∀ depth tight n, renderBlock o r depth tight (f n) = renderBlock o r depth tight n) :
    KeepsRendering o o r f f :=
  ⟨rfl, fun depth n _ ↦ hinline depth n, fun depth ↦ hinline depth _, hblock⟩

mutual

/-- A changed inline is rendered as before. The nodes below it are changed already, and rendered as
before by induction. -/
theorem renderInline_rewriteBelow (hf : KeepsRendering o o' r f g) {depth : Nat} :
    ∀ n : Node, renderInline o' r depth (f (n.rewriteBelow f g)) = renderInline o r depth n
  | .softBreak => hf.softBreak depth
  | .text _ | .hardBreak | .codeSpan _ | .image _ => hf.inline depth _ (by simp [Node.rewriteBelow])
  | .rawHtml _ => by
    rw [Node.rewriteBelow, hf.inline _ _ (by simp), renderInline, renderInline, hf.html]
  | .emphasis _ | .strong _ | .link _ _ => by
    rw [Node.rewriteBelow, hf.inline _ _ (by simp), renderInline, renderInline,
      renderInlines_rewriteInlines hf]
  | .htmlElement _ _ _ _ _ _ => by
    -- the test for children comes out the same, so the same branch is taken
    rw [Node.rewriteBelow, hf.inline _ _ (by simp), renderInline, renderInline,
      renderInlines_rewriteInlines hf, isEmpty_rewriteInlines, hf.html]
  | .heading _ _ | .paragraph _ | .blockQuote _ | .codeBlock _ | .list _ _ _ | .thematicBreak
  | .htmlBlock _ _ | .htmlSection _ _ _ _ _ _ =>
    hf.inline depth _ (by simp [Node.rewriteBelow])

theorem renderInlines_rewriteInlines (hf : KeepsRendering o o' r f g) {depth : Nat} :
    ∀ ns : List Node,
      renderInlines o' r depth (rewriteInlines f g ns) = renderInlines o r depth ns
  | [] => rfl
  | n :: ns => by
    rw [rewriteInlines, renderInlines, renderInlines, renderInline_rewriteBelow hf n,
      renderInlines_rewriteInlines hf ns]

end

mutual

theorem renderBlock_rewriteBelow (hf : KeepsRendering o o' r f g) {depth : Nat} {tight : Bool} :
    ∀ n : Node,
      renderBlock o' r depth tight (g (n.rewriteBelow f g)) = renderBlock o r depth tight n
  | .codeBlock _ | .thematicBreak => hf.block depth tight _
  | .paragraph _ | .heading _ _ => by
    rw [Node.rewriteBelow, hf.block, renderBlock, renderBlock, hf.renderInlines_rewriteInlines]
  | .blockQuote _ => by
    rw [Node.rewriteBelow, hf.block, renderBlock, renderBlock, renderBlocks_rewriteBlocks hf]
  | .list _ _ _ => by
    rw [Node.rewriteBelow, hf.block, renderBlock, renderBlock, renderItems_rewriteItems hf]
  | .htmlBlock _ _ => by
    rw [Node.rewriteBelow, hf.block, renderBlock, renderBlock, hf.renderInlines_rewriteInlines,
      hf.html]
  | .htmlSection _ _ _ _ _ _ => by
    rw [Node.rewriteBelow, hf.block, renderBlock, renderBlock, hf.renderInlines_rewriteInlines,
      renderBlocks_rewriteBlocks hf, hf.html]
  -- an inline is refused by its kind, a soft break that stands here like any other
  | .text _ | .softBreak | .hardBreak | .codeSpan _ | .emphasis _ | .strong _ | .link _ _
  | .image _ | .htmlElement _ _ _ _ _ _ | .rawHtml _ => hf.block depth tight _

theorem renderBlocks_rewriteBlocks (hf : KeepsRendering o o' r f g) {depth : Nat} {tight : Bool} :
    ∀ ns : List Node,
      renderBlocks o' r depth tight (rewriteBlocks f g ns) = renderBlocks o r depth tight ns
  | [] => rfl
  | n :: ns => by
    rw [rewriteBlocks, renderBlocks, renderBlocks, renderBlock_rewriteBelow hf n,
      renderBlocks_rewriteBlocks hf ns]

theorem renderItems_rewriteItems (hf : KeepsRendering o o' r f g) {depth : Nat} {tight : Bool} :
    ∀ items : List (List Node),
      renderItems o' r depth tight (rewriteItems f g items) = renderItems o r depth tight items
  | [] => rfl
  | item :: items => by
    rw [rewriteItems, renderItems, renderItems, renderBlocks_rewriteBlocks hf item,
      renderItems_rewriteItems hf items]

end

/-- **A change that no node's rendering shows** is not shown by that of the document. -/
theorem renderDocument_rewriteBlocks (hf : KeepsRendering o o' r f g) (blocks : List Node) :
    renderDocument o' r (rewriteBlocks f g blocks) = renderDocument o r blocks :=
  hf.renderBlocks_rewriteBlocks blocks

/-- **A change by one function is not shown**, if it is not shown at any node. -/
theorem renderDocument_rewriteAll (hf : KeepsRendering o o r f f) (blocks : List Node) :
    renderDocument o r (rewriteAll f blocks) = renderDocument o r blocks :=
  hf.renderDocument_rewriteBlocks blocks

end KeepsRendering

end SafeMarkdown
