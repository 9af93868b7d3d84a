import SafeMarkdown.Proofs.Rendering.Strictness

/-!
# How deep a document may be

`heightOf` counts the levels of lists below a list of nodes. A node that holds a list, an empty one
too, has one level more than the list, and one that holds several has one level more than the
highest of them. So a list without items is as low as a rule, and an item without blocks is not.

The count is exactly what rendering measures. Where raw HTML is kept, a well-sorted document is
refused when its height is beyond the limit and rendered when it is not, and no other mode refuses a
document that is within the limit (`tooDeep_iff_limit_lt_heightOf`).

The induction is on the document, and carries the depth of the list that is rendered: success is
equivalent to the depth and the height not exceeding the limit together. A list can be checked only
where it stands, so for a single node the depth of its list is assumed to be within the limit.
-/

namespace SafeMarkdown

open Document (Node depthLimit SortedInlines SortedBlocks SortedItems)

mutual

/-- The number of levels of lists below a node. -/
def Document.Node.height : Node → Nat
  | .heading _ children | .paragraph children | .blockQuote children | .htmlBlock _ children
  | .emphasis children | .strong children | .link _ children
  | .htmlElement _ _ children _ _ _ => 1 + heightOf children
  | .list _ items _ => heightOfItems items
  | .htmlSection _ _ leading children _ _ => 1 + max (heightOf leading) (heightOf children)
  | .codeBlock _ | .thematicBreak | .text _ | .softBreak | .hardBreak | .codeSpan _ | .image _
  | .rawHtml _ => 0

/-- The number of levels of lists below a list of nodes. -/
def heightOf : List Node → Nat
  | [] => 0
  | n :: ns => max n.height (heightOf ns)

/-- The number of levels of lists that the items of a list make, each item being a list itself. -/
def heightOfItems : List (List Node) → Nat
  | [] => 0
  | item :: items => max (1 + heightOf item) (heightOfItems items)

end

variable {soft : Bool} {r : Renderers}

/-! ### What is within the limit is rendered, and nothing else -/

/-- An empty list of inlines is rendered within the limit only. -/
theorem succeeds_renderInlines_nil_iff {o : Options} {depth : Nat} :
    Succeeds (renderInlines o r depth []) ↔ depth ≤ depthLimit := by
  constructor
  · rintro ⟨out, hout⟩
    exact le_depthLimit_of_renderInlines hout
  · exact succeeds_renderInlines_nil

/-- So is an empty list of blocks. -/
theorem succeeds_renderBlocks_nil_iff {o : Options} {depth : Nat} {tight : Bool} :
    Succeeds (renderBlocks o r depth tight []) ↔ depth ≤ depthLimit := by
  constructor
  · rintro ⟨out, hout⟩
    exact le_depthLimit_of_renderBlocks hout
  · intro h
    exact succeeds_renderBlocks_nil h

mutual

/-- An inline is rendered when what is below it ends within the limit. -/
theorem succeeds_renderInline_iff_height {depth : Nat} (hdepth : depth ≤ depthLimit) :
    ∀ {n : Node}, n.SortedInline →
      (Succeeds (renderInline ⟨soft, .parseUnsafe⟩ r depth n) ↔ depth + n.height ≤ depthLimit)
  | .text _, _ | .softBreak, _ | .hardBreak, _ | .codeSpan _, _ | .image _, _ | .rawHtml _, _ =>
    iff_of_true (succeeds_ok _) hdepth
  | .emphasis children, h | .strong children, h | .link _ children, h
  | .htmlElement _ _ children _ _ _, h => by
    have hchildren : Succeeds (renderInlines ⟨soft, .parseUnsafe⟩ r (depth + 1) children) ↔
        depth + 1 + heightOf children ≤ depthLimit :=
      succeeds_renderInlines_iff_heightOf h
    rw [Node.height, ← Nat.add_assoc, ← hchildren]
    exact succeeds_bind_ok_iff

/-- A list of inlines is rendered when it and what is below it end within the limit. -/
theorem succeeds_renderInlines_iff_heightOf {depth : Nat} :
    ∀ {ns : List Node}, SortedInlines ns →
      (Succeeds (renderInlines ⟨soft, .parseUnsafe⟩ r depth ns) ↔
        depth + heightOf ns ≤ depthLimit)
  | [], _ => succeeds_renderInlines_nil_iff
  | n :: ns, ⟨hn, hns⟩ => by
    by_cases hdepth : depth ≤ depthLimit
    · rw [succeeds_renderInlines_cons_iff hdepth, succeeds_renderInline_iff_height hdepth hn,
        succeeds_renderInlines_iff_heightOf hns, heightOf]
      omega
    · refine iff_of_false ?_ (by omega)
      rintro ⟨out, hout⟩
      exact hdepth (le_depthLimit_of_renderInlines hout)

end

mutual

/-- A block is rendered when what is below it ends within the limit. -/
theorem succeeds_renderBlock_iff_height {depth : Nat} {tight : Bool}
    (hdepth : depth ≤ depthLimit) :
    ∀ {n : Node}, n.SortedBlock →
      (Succeeds (renderBlock ⟨soft, .parseUnsafe⟩ r depth tight n) ↔
        depth + n.height ≤ depthLimit)
  | .codeBlock _, _ | .thematicBreak, _ => iff_of_true (succeeds_ok _) hdepth
  | .paragraph children, h | .heading _ children, h => by
    have hchildren : Succeeds (renderInlines ⟨soft, .parseUnsafe⟩ r (depth + 1) children) ↔
        depth + 1 + heightOf children ≤ depthLimit :=
      succeeds_renderInlines_iff_heightOf h
    rw [Node.height, ← Nat.add_assoc, ← hchildren]
    exact succeeds_bind_ok_iff
  | .htmlBlock _ nodes, h => by
    rw [Node.height, ← Nat.add_assoc]
    exact succeeds_renderInlines_iff_heightOf h
  | .blockQuote children, h => by
    have hchildren : Succeeds (renderBlocks ⟨soft, .parseUnsafe⟩ r (depth + 1) false children) ↔
        depth + 1 + heightOf children ≤ depthLimit :=
      succeeds_renderBlocks_iff_heightOf h
    rw [Node.height, ← Nat.add_assoc, ← hchildren]
    exact succeeds_bind_ok_iff
  | .list _ items itemsTight, h => by
    have hitems : Succeeds (renderItems ⟨soft, .parseUnsafe⟩ r (depth + 1) itemsTight items) ↔
        depth + heightOfItems items ≤ depthLimit :=
      succeeds_renderItems_iff_heightOf hdepth h
    rw [Node.height, ← hitems]
    exact succeeds_bind_ok_iff
  | .htmlSection _ _ leading children _ _, ⟨hleading, hchildren⟩ => by
    have hfirst : Succeeds (renderInlines ⟨soft, .parseUnsafe⟩ r (depth + 1) leading) ↔
        depth + 1 + heightOf leading ≤ depthLimit :=
      succeeds_renderInlines_iff_heightOf hleading
    have hrest : Succeeds (renderBlocks ⟨soft, .parseUnsafe⟩ r (depth + 1) false children) ↔
        depth + 1 + heightOf children ≤ depthLimit :=
      succeeds_renderBlocks_iff_heightOf hchildren
    have hboth : depth + (1 + max (heightOf leading) (heightOf children)) ≤ depthLimit ↔
        depth + 1 + heightOf leading ≤ depthLimit ∧ depth + 1 + heightOf children ≤ depthLimit := by
      omega
    rw [Node.height, hboth, ← hfirst, ← hrest]
    exact succeeds_both_iff

/-- A list of blocks is rendered when it and what is below it end within the limit. -/
theorem succeeds_renderBlocks_iff_heightOf {depth : Nat} {tight : Bool} :
    ∀ {ns : List Node}, SortedBlocks ns →
      (Succeeds (renderBlocks ⟨soft, .parseUnsafe⟩ r depth tight ns) ↔
        depth + heightOf ns ≤ depthLimit)
  | [], _ => succeeds_renderBlocks_nil_iff
  | n :: ns, ⟨hn, hns⟩ => by
    by_cases hdepth : depth ≤ depthLimit
    · rw [succeeds_renderBlocks_cons_iff hdepth, succeeds_renderBlock_iff_height hdepth hn,
        succeeds_renderBlocks_iff_heightOf hns, heightOf]
      omega
    · refine iff_of_false ?_ (by omega)
      rintro ⟨out, hout⟩
      exact hdepth (le_depthLimit_of_renderBlocks hout)

/-- Items stand one level below their list, which may itself stand at the limit if it has none. -/
theorem succeeds_renderItems_iff_heightOf {depth : Nat} {tight : Bool}
    (hdepth : depth ≤ depthLimit) :
    ∀ {items : List (List Node)}, SortedItems items →
      (Succeeds (renderItems ⟨soft, .parseUnsafe⟩ r (depth + 1) tight items) ↔
        depth + heightOfItems items ≤ depthLimit)
  | [], _ => iff_of_true (succeeds_ok _) hdepth
  | item :: items, ⟨hitem, hitems⟩ => by
    have hfirst : Succeeds (renderBlocks ⟨soft, .parseUnsafe⟩ r (depth + 1) tight item) ↔
        depth + 1 + heightOf item ≤ depthLimit :=
      succeeds_renderBlocks_iff_heightOf hitem
    have hrest : Succeeds (renderItems ⟨soft, .parseUnsafe⟩ r (depth + 1) tight items) ↔
        depth + heightOfItems items ≤ depthLimit :=
      succeeds_renderItems_iff_heightOf hdepth hitems
    have hboth : depth + heightOfItems (item :: items) ≤ depthLimit ↔
        depth + 1 + heightOf item ≤ depthLimit ∧ depth + heightOfItems items ≤ depthLimit := by
      rw [heightOfItems]
      omega
    rw [hboth, ← hfirst, ← hrest]
    exact succeeds_both_iff

end

/-- **The limit of depth is exact, and keeping raw HTML is its worst case.** With its raw HTML kept,
a well-sorted document is refused as too deep exactly when its height is beyond the limit; a
document within the limit is rendered in every mode. -/
theorem tooDeep_iff_limit_lt_heightOf {blocks : List Node} (hsorted : SortedBlocks blocks)
    (soft : Bool) (r : Renderers) :
    (renderDocument ⟨soft, .parseUnsafe⟩ r blocks = .error .tooDeep ↔
        depthLimit < heightOf blocks) ∧
      (heightOf blocks ≤ depthLimit → ∀ mode : HtmlMode,
        ∃ nodes, renderDocument ⟨soft, mode⟩ r blocks = .ok nodes) := by
  have hsucceeds : Succeeds (renderDocument ⟨soft, .parseUnsafe⟩ r blocks) ↔
      0 + heightOf blocks ≤ depthLimit :=
    succeeds_renderBlocks_iff_heightOf hsorted
  rw [Nat.zero_add] at hsucceeds
  refine ⟨⟨fun herror ↦ ?_, fun hlt ↦ ?_⟩, fun hle mode ↦ ?_⟩
  · have hfails : ¬ Succeeds (renderDocument ⟨soft, .parseUnsafe⟩ r blocks) := by
      rw [herror]
      exact not_succeeds_error _
    exact Nat.lt_of_not_le fun hle ↦ hfails (hsucceeds.2 hle)
  · rcases hrender : renderDocument ⟨soft, .parseUnsafe⟩ r blocks with e | nodes
    · rw [eq_tooDeep_of_renderDocument hsorted hrender]
    · have hle := hsucceeds.1 ⟨nodes, hrender⟩
      omega
  · obtain ⟨nodes, hnodes⟩ := hsucceeds.2 hle
    exact succeeds_renderDocument_of_parseUnsafe hnodes mode

/-! ### Lists at the limit -/

/-- A block inside so many block quotes. -/
def quotedBlock (n : Node) : Nat → Node
  | 0 => n
  | levels + 1 => .blockQuote [quotedBlock n levels]

/-- Each quotation adds a level. -/
theorem height_quotedBlock (n : Node) (levels : Nat) :
    (quotedBlock n levels).height = levels + n.height := by
  induction levels with
  | zero => exact (Nat.zero_add _).symm
  | succ levels ih =>
    rw [quotedBlock, Node.height, heightOf, heightOf, ih]
    omega

/-- Quotations of a block are well-sorted. -/
theorem sortedBlock_quotedBlock {n : Node} (h : n.SortedBlock) (levels : Nat) :
    (quotedBlock n levels).SortedBlock := by
  induction levels with
  | zero => exact h
  | succ levels ih => exact ⟨ih, trivial⟩

/-- Inside a hundred block quotes there is room for a list without items, but not for one with an
empty item. -/
theorem tooDeep_iff_emptyItem :
    SortedBlocks [quotedBlock (.list .unordered [] true) 100] ∧
      SortedBlocks [quotedBlock (.list .unordered [[]] true) 100] ∧
      (∀ mode : HtmlMode, ∃ nodes, renderDocument ⟨false, mode⟩ .standard
        [quotedBlock (.list .unordered [] true) 100] = .ok nodes) ∧
      renderDocument ⟨false, .parseUnsafe⟩ .standard
        [quotedBlock (.list .unordered [[]] true) 100] = .error .tooDeep := by
  have hlist : (Node.list .unordered [] true).SortedBlock := trivial
  have hlist' : (Node.list .unordered [[]] true).SortedBlock := ⟨trivial, trivial⟩
  have hsorted : SortedBlocks [quotedBlock (.list .unordered [] true) 100] :=
    ⟨sortedBlock_quotedBlock hlist 100, trivial⟩
  have hsorted' : SortedBlocks [quotedBlock (.list .unordered [[]] true) 100] :=
    ⟨sortedBlock_quotedBlock hlist' 100, trivial⟩
  have hheight : heightOf [quotedBlock (.list .unordered [] true) 100] ≤ depthLimit := by
    rw [heightOf, height_quotedBlock]
    decide
  have hheight' : depthLimit < heightOf [quotedBlock (.list .unordered [[]] true) 100] := by
    rw [heightOf, height_quotedBlock]
    decide
  exact ⟨hsorted, hsorted', (tooDeep_iff_limit_lt_heightOf hsorted false .standard).2 hheight,
    (tooDeep_iff_limit_lt_heightOf hsorted' false .standard).1.2 hheight'⟩

end SafeMarkdown
