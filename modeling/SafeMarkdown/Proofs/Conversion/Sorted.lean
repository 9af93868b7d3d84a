import SafeMarkdown.Proofs.Conversion.Closure

/-!
# Documents from syntax trees are well-sorted

Conversion puts blocks where blocks belong and inlines where inlines belong, at every depth. This is
a pair of properties that conversion keeps (`conversionClosed_sorted`), and so it holds of every
document that comes from a syntax tree (`sortedBlocks_of_ofSyntax`).

Sortedness is defined by recursion on lists; the lemmas that come first say it member by member.
-/

namespace SafeMarkdown.Document

/-- Inlines are sorted when each of them is. -/
theorem sortedInlines_iff {ns : List Node} : SortedInlines ns ↔ ∀ n ∈ ns, n.SortedInline := by
  induction ns with
  | nil => simp [SortedInlines]
  | cons n ns ih => simp [SortedInlines, ih]

/-- Blocks are sorted when each of them is. -/
theorem sortedBlocks_iff {ns : List Node} : SortedBlocks ns ↔ ∀ n ∈ ns, n.SortedBlock := by
  induction ns with
  | nil => simp [SortedBlocks]
  | cons n ns ih => simp [SortedBlocks, ih]

/-- Items are sorted when each block of each of them is. -/
theorem sortedItems_iff {items : List (List Node)} :
    SortedItems items ↔ ∀ item ∈ items, ∀ n ∈ item, n.SortedBlock := by
  induction items with
  | nil => simp [SortedItems]
  | cons item items ih => simp [SortedItems, ih, sortedBlocks_iff]

/-- Every way in which conversion makes a node gives a sorted node. -/
theorem conversionClosed_sorted : ConversionClosed Node.SortedInline Node.SortedBlock where
  text _ := trivial
  softBreak := trivial
  hardBreak := trivial
  codeSpan _ := trivial
  image _ := trivial
  rawHtml _ := trivial
  emphasis := sortedInlines_iff.2
  strong := sortedInlines_iff.2
  link _ := sortedInlines_iff.2
  read _ _ _ := sortedInlines_iff.2
  lone _ _ := trivial
  paired _ _ _ := sortedInlines_iff.2
  paragraph := sortedInlines_iff.2
  heading _ := sortedInlines_iff.2
  blockQuote := sortedBlocks_iff.2
  codeBlock _ := trivial
  list _ _ _ := sortedItems_iff.2
  thematicBreak := trivial
  htmlBlock _ := sortedInlines_iff.2
  htmlSection _ _ _ hleading hchildren :=
    ⟨sortedInlines_iff.2 hleading, sortedBlocks_iff.2 hchildren⟩

/-- **A document that comes from a syntax tree is well-sorted.** -/
theorem sortedBlocks_of_ofSyntax {nodes : List Syntax.Node} {blocks : List Node}
    (h : ofSyntax nodes = .ok blocks) : SortedBlocks blocks :=
  sortedBlocks_iff.2 (conversionClosed_sorted.forall_of_ofSyntax h)

end SafeMarkdown.Document
