import SafeMarkdown.Proofs.Conversion.Rules
import SafeMarkdown.Proofs.Document.Nodes

/-!
# What conversion makes

Conversion makes each node of a document in one of a few ways, and knows something of it when it
does: an element with both tags comes from two sources that pair up and from an element that was
read, an element of an HTML block comes from the tree of its source, and so on. `ConversionClosed`
lists the ways, one field for each, with what is known. A pair of properties, one for inlines and
one for blocks, that has all fields holds of every document that comes from a syntax tree
(`forall_of_ofSyntax`).

The list is that of `ConversionRules` with the siblings and the depth left aside, and with one way
more: `read` speaks of the nodes that come from a tree of markup and not from siblings.
-/

namespace SafeMarkdown.Document

open Syntax (roleInline roleBlock)

/-- Every way to make an inline respects `I`, and every way to make a block respects `B`. -/
structure ConversionClosed (I B : Node → Prop) : Prop where
  text : ∀ value, I (.text value)
  softBreak : I .softBreak
  hardBreak : I .hardBreak
  codeSpan : ∀ text, I (.codeSpan text)
  image : ∀ target, I (.image target)
  rawHtml : ∀ source, I (.rawHtml source)
  emphasis : ∀ {children}, (∀ c ∈ children, I c) → I (.emphasis children)
  strong : ∀ {children}, (∀ c ∈ children, I c) → I (.strong children)
  link : ∀ target {children}, (∀ c ∈ children, I c) → I (.link target children)
  read : ∀ {source nodes tag attrs content depth children}, Html.parse source = .ok nodes →
    .element tag attrs content ∈ Markup.preorders nodes → ofMarkups depth content = .ok children →
    (∀ c ∈ children, I c) →
    I (.htmlElement tag attrs children "" "" (tag ∈ Html.voidTags))
  lone : ∀ {source tag attrs content}, Syntax.startTagName? source.toList = some tag →
    Finds source tag attrs content →
    I (.htmlElement tag attrs [] source "" (Syntax.isSelfClosing source.toList tag))
  paired : ∀ {startSource endSource tag attrs content children},
    roleInline startSource = .opening tag → roleInline endSource = .closing tag →
    Finds startSource tag attrs content → (∀ c ∈ children, I c) →
    I (.htmlElement tag attrs children startSource endSource false)
  paragraph : ∀ {children}, (∀ c ∈ children, I c) → B (.paragraph children)
  heading : ∀ level {children}, (∀ c ∈ children, I c) → B (.heading level children)
  blockQuote : ∀ {children}, (∀ c ∈ children, B c) → B (.blockQuote children)
  codeBlock : ∀ block, B (.codeBlock block)
  list : ∀ kind {items} tight, (∀ item ∈ items, ∀ c ∈ item, B c) → B (.list kind items tight)
  thematicBreak : B .thematicBreak
  htmlBlock : ∀ source {children}, (∀ c ∈ children, I c) → B (.htmlBlock source children)
  htmlSection : ∀ {startSource endSource tag attrs depth leading children},
    roleBlock startSource = .opening tag → roleBlock endSource = .closing tag →
    Starts startSource tag depth attrs leading →
    (∀ c ∈ leading, I c) → (∀ c ∈ children, B c) →
    B (.htmlSection tag attrs leading children startSource endSource)

/-! ### Lists -/

/-- If every node that is made has a property, so has every node of the list. -/
theorem Made.forall_mem {P : Node → Prop} {siblings : List Syntax.Node} {ns : List Node}
    (h : Made (fun _ n ↦ P n) siblings ns) : ∀ n ∈ ns, P n := by
  induction h with
  | nil => simp
  | cons head _ ih => exact List.forall_mem_cons.2 ⟨head, ih⟩

/-- The same of a list at a depth. -/
theorem MadeAt.forall_mem {P : Node → Prop} {depth : Nat} {siblings : List Syntax.Node}
    {ns : List Node} (h : MadeAt (fun _ _ n ↦ P n) depth siblings ns) : ∀ n ∈ ns, P n :=
  h.made.forall_mem

theorem forall_mem_of_forall₂ {P : Node → Prop} {depth : Nat} {parts : List Syntax.Node}
    {items : List (List Node)}
    (h : List.Forall₂ (fun part ns ↦ MadeAt (fun _ _ n ↦ P n) depth part.children ns) parts items) :
    ∀ item ∈ items, ∀ n ∈ item, P n := by
  induction h with
  | nil => simp
  | cons head _ ih => exact List.forall_mem_cons.2 ⟨head.forall_mem, ih⟩

/-! ### Nodes that are read -/

namespace ConversionClosed

variable {I B : Node → Prop}

mutual

/-- A node that is made from a node of a tree that was read has the first property. All nodes below
it are nodes of that tree too, which is what the induction carries. -/
theorem forall_of_ofMarkup (hC : ConversionClosed I B) {source : String} {nodes : List Markup}
    (hnodes : Html.parse source = .ok nodes) {depth : Nat} :
    ∀ {m : Markup} {n : Node}, m.preorder ⊆ Markup.preorders nodes →
      ofMarkup depth m = .ok n → I n
  | .text value, _, _, h => by
    cases h
    exact hC.text value
  | .element tag attrs content, _, hm, h => by
    rw [ofMarkup] at h
    obtain ⟨children, hchildren, h⟩ := bind_eq_ok_iff.1 h
    cases h
    have hmem := hm (Markup.self_mem_preorder _)
    exact hC.read hnodes hmem hchildren
      (forall_of_ofMarkups hC hnodes (Markup.preorders_subset_of_element_mem hmem) hchildren)

theorem forall_of_ofMarkups (hC : ConversionClosed I B) {source : String} {nodes : List Markup}
    (hnodes : Html.parse source = .ok nodes) {depth : Nat} :
    ∀ {ms : List Markup} {ns : List Node}, Markup.preorders ms ⊆ Markup.preorders nodes →
      ofMarkups depth ms = .ok ns → ∀ n ∈ ns, I n
  | [], _, _, h => by
    obtain ⟨-, -, h⟩ := bind_eq_ok_iff.1 h
    cases h
    simp
  | m :: ms, _, hms, h => by
    obtain ⟨first, rest, hfirst, hrest, rfl⟩ := exists_of_checked_eq_ok h
    rw [Markup.preorders, List.append_subset] at hms
    refine List.forall_mem_cons.2 ⟨?_, ?_⟩
    · exact forall_of_ofMarkup hC hnodes hms.1 hfirst
    · exact forall_of_ofMarkups hC hnodes hms.2 hrest

end

/-- So have the nodes that lead a section. -/
theorem forall_leading (hC : ConversionClosed I B) {source tag : String} {depth : Nat}
    {attrs : List Attr} {leading : List Node} (h : Starts source tag depth attrs leading) :
    ∀ n ∈ leading, I n := by
  obtain ⟨nodes, hnodes, ⟨-, -, rfl⟩ | ⟨content, hfind, hleading⟩⟩ := h
  · simp
  · exact hC.forall_of_ofMarkups hnodes
      (Markup.preorders_subset_of_element_mem (Html.mem_preorders_of_find hfind)) hleading

/-! ### Nodes that are made from siblings -/

/-- The properties as relations to the siblings that a node is made from, and to its depth. -/
theorem rules (hC : ConversionClosed I B) :
    ConversionRules (fun _ _ n ↦ I n) (fun _ _ n ↦ B n) where
  text _ := hC.text _
  softBreak _ := hC.softBreak
  hardBreak _ := hC.hardBreak
  codeSpan _ := hC.codeSpan _
  image _ := hC.image _
  emphasis _ h := hC.emphasis h.forall_mem
  strong _ h := hC.strong h.forall_mem
  link _ h := hC.link _ h.forall_mem
  rawHtml _ := hC.rawHtml _
  lone _ htag hfinds := hC.lone htag hfinds
  paired _ _ hopening hclosing hfinds h := hC.paired hopening hclosing hfinds h.forall_mem
  paragraph _ h := hC.paragraph h.forall_mem
  heading _ _ h := hC.heading _ h.forall_mem
  blockQuote _ h := hC.blockQuote h.forall_mem
  fence _ := hC.codeBlock _
  codeBlock _ := hC.codeBlock _
  bulletList _ h := hC.list _ _ (forall_mem_of_forall₂ h)
  orderedList _ _ h := hC.list _ _ (forall_mem_of_forall₂ h)
  thematicBreak _ := hC.thematicBreak
  htmlBlock _ hnodes h := hC.htmlBlock _ (hC.forall_of_ofMarkups hnodes (List.Subset.refl _) h)
  htmlSection _ _ hopening hclosing hstarts h :=
    hC.htmlSection hopening hclosing hstarts (hC.forall_leading hstarts) h.forall_mem

/-- **Every block of a converted list** has the second property. -/
theorem forall_of_ofBlocks (hC : ConversionClosed I B) {nodes : List Syntax.Node} {depth : Nat}
    {blocks : List Node} (h : ofBlocks (blockSiblings nodes) depth = .ok blocks) :
    ∀ b ∈ blocks, B b :=
  (hC.rules.madeAt_of_ofBlocks h).forall_mem

/-- **Conversion makes only nodes with the property**: every block of a document that comes from a
syntax tree satisfies `B`. -/
theorem forall_of_ofSyntax (hC : ConversionClosed I B) {nodes : List Syntax.Node}
    {blocks : List Node} (h : ofSyntax nodes = .ok blocks) : ∀ b ∈ blocks, B b :=
  hC.forall_of_ofBlocks h

/-! ### At every node -/

/-- If a property is closed under conversion, so is that it holds at a node and below it. -/
theorem throughout {P : Node → Prop} (hC : ConversionClosed P P) :
    ConversionClosed (Node.Throughout P) (Node.Throughout P) where
  text value := ⟨hC.text value, by simp [Node.inside]⟩
  softBreak := ⟨hC.softBreak, by simp [Node.inside]⟩
  hardBreak := ⟨hC.hardBreak, by simp [Node.inside]⟩
  codeSpan text := ⟨hC.codeSpan text, by simp [Node.inside]⟩
  image target := ⟨hC.image target, by simp [Node.inside]⟩
  rawHtml source := ⟨hC.rawHtml source, by simp [Node.inside]⟩
  emphasis h := ⟨hC.emphasis fun c hc ↦ (h c hc).1, forall_mem_nodesOf.2 h⟩
  strong h := ⟨hC.strong fun c hc ↦ (h c hc).1, forall_mem_nodesOf.2 h⟩
  link target _ h := ⟨hC.link target fun c hc ↦ (h c hc).1, forall_mem_nodesOf.2 h⟩
  read hnodes hmem hchildren h :=
    ⟨hC.read hnodes hmem hchildren fun c hc ↦ (h c hc).1, forall_mem_nodesOf.2 h⟩
  lone htag hfinds := ⟨hC.lone htag hfinds, by simp [Node.inside, nodesOf]⟩
  paired hopening hclosing hfinds h :=
    ⟨hC.paired hopening hclosing hfinds fun c hc ↦ (h c hc).1, forall_mem_nodesOf.2 h⟩
  paragraph h := ⟨hC.paragraph fun c hc ↦ (h c hc).1, forall_mem_nodesOf.2 h⟩
  heading level _ h := ⟨hC.heading level fun c hc ↦ (h c hc).1, forall_mem_nodesOf.2 h⟩
  blockQuote h := ⟨hC.blockQuote fun c hc ↦ (h c hc).1, forall_mem_nodesOf.2 h⟩
  codeBlock block := ⟨hC.codeBlock block, by simp [Node.inside]⟩
  list kind _ tight h :=
    ⟨hC.list kind tight fun item hitem c hc ↦ (h item hitem c hc).1,
      forall_mem_nodesOfItems.2 h⟩
  thematicBreak := ⟨hC.thematicBreak, by simp [Node.inside]⟩
  htmlBlock source _ h := ⟨hC.htmlBlock source fun c hc ↦ (h c hc).1, forall_mem_nodesOf.2 h⟩
  htmlSection hopening hclosing hstarts hleading hchildren :=
    ⟨hC.htmlSection hopening hclosing hstarts (fun c hc ↦ (hleading c hc).1)
      fun c hc ↦ (hchildren c hc).1,
      List.forall_mem_append.2 ⟨forall_mem_nodesOf.2 hleading, forall_mem_nodesOf.2 hchildren⟩⟩

/-- A property of every node that is made, inlines and blocks alike, holds at every node of the
blocks that come from a list of syntax nodes. -/
theorem forall_mem_nodesOf_of_ofBlocks {P : Node → Prop} (hC : ConversionClosed P P)
    {nodes : List Syntax.Node} {depth : Nat} {blocks : List Node}
    (h : ofBlocks (blockSiblings nodes) depth = .ok blocks) : ∀ m ∈ nodesOf blocks, P m :=
  forall_mem_nodesOf.2 (hC.throughout.forall_of_ofBlocks h)

end ConversionClosed

end SafeMarkdown.Document
