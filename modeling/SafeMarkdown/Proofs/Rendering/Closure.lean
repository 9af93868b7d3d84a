import SafeMarkdown.Proofs.Document.Nodes
import SafeMarkdown.Proofs.Markup.Vocabulary
import SafeMarkdown.Proofs.Outcome
import SafeMarkdown.Render

/-!
# What rendering puts into markup

Rendering makes markup from four sources: texts, the renderers of the constructs, the list items,
and the raw elements of the document that the mode keeps. A property of markup that all four
respect holds of every node that rendering gives. `ClosedAt` is the list of what has to be checked,
one field for each source, and `ClosedAt.forall_of_renderDocument` is the conclusion; what holds of
the output for all documents is an instance of it.

What is asked of the document is asked of its nodes one by one. Often only the tags and attributes
of the raw elements matter. They are listed by `rawElements`, and `Closed` is the list of what has
to be checked then.

The renderers are given the markup of their content and know nothing of where it came from. So the
property has to be one of markup, of which nothing is assumed but the fields, and the induction over
the document needs one lemma for each function of rendering and none for a renderer.
-/

namespace SafeMarkdown

open Document (Node)

namespace Document

mutual

/-- The tags and attributes of the raw elements and sections at and below a node, in document
order. -/
def Node.rawElements : Node → List (String × List Attr)
  | .heading _ children | .paragraph children | .blockQuote children | .htmlBlock _ children
  | .emphasis children | .strong children | .link _ children => rawElementsOf children
  | .list _ items _ => rawElementsOfItems items
  | .htmlSection tag attrs leading children _ _ =>
    (tag, attrs) :: (rawElementsOf leading ++ rawElementsOf children)
  | .htmlElement tag attrs children _ _ _ => (tag, attrs) :: rawElementsOf children
  | .codeBlock _ | .thematicBreak | .text _ | .softBreak | .hardBreak | .codeSpan _ | .image _
  | .rawHtml _ => []

/-- The raw elements of a list of nodes. -/
def rawElementsOf : List Node → List (String × List Attr)
  | [] => []
  | n :: ns => n.rawElements ++ rawElementsOf ns

/-- The raw elements of the items of a list. -/
def rawElementsOfItems : List (List Node) → List (String × List Attr)
  | [] => []
  | item :: items => rawElementsOf item ++ rawElementsOfItems items

end

/-- The tag and the attributes of a raw element or a section. -/
def Node.rawElement? : Node → Option (String × List Attr)
  | .htmlElement tag attrs .. | .htmlSection tag attrs .. => some (tag, attrs)
  | _ => none

mutual

/-- The raw elements of a node are those among it and the nodes below it. -/
theorem rawElements_eq : ∀ n : Node, n.rawElements = (n :: n.inside).filterMap Node.rawElement?
  | .heading _ children | .paragraph children | .blockQuote children | .htmlBlock _ children
  | .emphasis children | .strong children | .link _ children => rawElementsOf_eq children
  | .list _ items _ => rawElementsOfItems_eq items
  | .htmlSection tag attrs leading children _ _ => by
    rw [Node.rawElements, rawElementsOf_eq leading, rawElementsOf_eq children,
      List.filterMap_cons_some (by rfl), Node.inside, List.filterMap_append]
  | .htmlElement tag attrs children _ _ _ => by
    rw [Node.rawElements, rawElementsOf_eq children, List.filterMap_cons_some (by rfl), Node.inside]
  | .codeBlock _ | .thematicBreak | .text _ | .softBreak | .hardBreak | .codeSpan _ | .image _
  | .rawHtml _ => rfl

/-- The raw elements of a list are those among its nodes. -/
theorem rawElementsOf_eq : ∀ ns : List Node,
    rawElementsOf ns = (nodesOf ns).filterMap Node.rawElement?
  | [] => rfl
  | n :: ns => by
    rw [rawElementsOf, rawElements_eq n, rawElementsOf_eq ns, ← List.filterMap_append,
      List.cons_append, nodesOf]

theorem rawElementsOfItems_eq : ∀ items : List (List Node),
    rawElementsOfItems items = (nodesOfItems items).filterMap Node.rawElement?
  | [] => rfl
  | item :: items => by
    rw [rawElementsOfItems, rawElementsOf_eq item, rawElementsOfItems_eq items,
      ← List.filterMap_append, nodesOfItems]

end

end Document

open Document (rawElementsOf nodesOf nodesOfItems)
open Markup (All)

/-- What a mode leaves of the attributes of a raw element; nothing where the element itself does
not reach the markup. -/
def HtmlMode.keptAttrs? (mode : HtmlMode) (tag : String) (attrs : List Attr) : Option (List Attr) :=
  match mode with
  | .parseUnsafe => some attrs
  | .sanitize policy =>
    if policy.allowsElement tag then some (policy.filterAttrs attrs) else none
  | .dontParse => none

/-- Where raw HTML is kept, so are all attributes. -/
theorem keptAttrs?_of_parseUnsafe {o : Options} (h : o.html = .parseUnsafe) (tag : String)
    (attrs : List Attr) : o.html.keptAttrs? tag attrs = some attrs := by
  rw [h, HtmlMode.keptAttrs?]

/-- Under a policy that allows the element, the attributes that it allows are kept. -/
theorem keptAttrs?_of_allowsElement {o : Options} {policy : Policy} {tag : String}
    (h : o.html = .sanitize policy) (hallowed : policy.allowsElement tag = true)
    (attrs : List Attr) :
    o.html.keptAttrs? tag attrs = some (policy.filterAttrs attrs) := by
  rw [h, HtmlMode.keptAttrs?, if_pos hallowed]

/-- The renderers give markup that satisfies `P` when the markup that they are given does. -/
structure Renderers.Respect (r : Renderers) (P : Markup → Prop) : Prop where
  heading : ∀ level {children}, All P children → P (r.heading level children)
  paragraph : ∀ wrap {children}, All P children → All P (r.paragraph wrap children)
  blockQuote : ∀ {children}, All P children → P (r.blockQuote children)
  code : ∀ block, P (r.code block)
  list : ∀ kind {items}, All P items → P (r.list kind items)
  emphasis : ∀ {children}, All P children → P (r.emphasis children)
  strongEmphasis : ∀ {children}, All P children → P (r.strongEmphasis children)
  codeSpan : ∀ text, P (r.codeSpan text)
  link : ∀ target {children}, All P children → P (r.link target children)
  image : ∀ target, P (r.image target)
  thematicBreak : P r.thematicBreak
  hardLineBreak : P r.hardLineBreak

/-- Every source of markup respects `P`, given that the nodes of the document satisfy `Q`. -/
structure ClosedAt (o : Options) (r : Renderers) (Q : Node → Prop) (P : Markup → Prop) : Prop where
  text : ∀ value, P (.text value)
  renderers : r.Respect P
  item : ∀ {children}, All P children → P (.element "li" [] children)
  raw : ∀ {n tag attrs kept children}, Q n → n.rawElement? = some (tag, attrs) →
    o.html.keptAttrs? tag attrs = some kept → (n.childNodes = [] → children = []) →
    All P children → P (.element tag kept children)

namespace ClosedAt

variable {o : Options} {r : Renderers} {Q : Node → Prop} {P : Markup → Prop}

/-- No inlines are rendered to nothing. -/
theorem eq_nil_of_renderInlines {depth : Nat} {ns : List Node} {nodes : List Markup}
    (hnil : ns = []) (h : renderInlines o r depth ns = .ok nodes) : nodes = [] := by
  subst hnil
  obtain ⟨-, -, h⟩ := bind_eq_ok_iff.1 h
  cases h
  rfl

/-- No blocks are rendered to nothing. -/
theorem eq_nil_of_renderBlocks {depth : Nat} {tight : Bool} {ns : List Node} {nodes : List Markup}
    (hnil : ns = []) (h : renderBlocks o r depth tight ns = .ok nodes) : nodes = [] := by
  subst hnil
  obtain ⟨-, -, h⟩ := bind_eq_ok_iff.1 h
  cases h
  rfl

/-- A text that may be left out has the property. -/
theorem all_textUnlessEmpty (hP : ClosedAt o r Q P) (s : String) : All P (textUnlessEmpty s) := by
  unfold textUnlessEmpty
  split
  · simp [All]
  · simpa [All] using hP.text s

/-- So has raw HTML that is shown as text, around what has it. -/
theorem all_shown (hP : ClosedAt o r Q P) {children : List Markup} (hc : All P children)
    (startSource endSource : String) :
    All P (.text startSource :: children ++ textUnlessEmpty endSource) := by
  intro m hm
  rcases List.mem_append.1 hm with hm | hm
  · rcases List.mem_cons.1 hm with rfl | hm
    · exact hP.text startSource
    · exact hc m hm
  · exact hP.all_textUnlessEmpty endSource m hm

mutual

/-- Every node of a rendered inline has the property. -/
theorem forall_of_renderInline (hP : ClosedAt o r Q P) {depth : Nat} :
    ∀ {n : Node} {nodes : List Markup}, n.Throughout Q →
      renderInline o r depth n = .ok nodes → All P nodes
  | .text value, _, _, h => by
    cases h
    simpa [All] using hP.text value
  | .softBreak, _, _, h => by
    cases h
    simp only [All, List.mem_singleton, forall_eq]
    split
    · exact hP.renderers.hardLineBreak
    · exact hP.text "\n"
  | .hardBreak, _, _, h => by
    cases h
    simpa [All] using hP.renderers.hardLineBreak
  | .codeSpan text, _, _, h => by
    cases h
    simpa [All] using hP.renderers.codeSpan text
  | .emphasis children, _, hQ, h => by
    simp only [renderInline, bind_eq_ok_iff] at h
    obtain ⟨c, hc, h⟩ := h
    cases h
    simpa [All] using hP.renderers.emphasis (forall_of_renderInlines hP hQ.2 hc)
  | .strong children, _, hQ, h => by
    simp only [renderInline, bind_eq_ok_iff] at h
    obtain ⟨c, hc, h⟩ := h
    cases h
    simpa [All] using hP.renderers.strongEmphasis (forall_of_renderInlines hP hQ.2 hc)
  | .link target children, _, hQ, h => by
    simp only [renderInline, bind_eq_ok_iff] at h
    obtain ⟨c, hc, h⟩ := h
    cases h
    simpa [All] using hP.renderers.link target (forall_of_renderInlines hP hQ.2 hc)
  | .image target, _, _, h => by
    cases h
    simpa [All] using hP.renderers.image target
  | .htmlElement tag attrs children startSource endSource void, nodes, hQ, h => by
    obtain ⟨hself, hchildren⟩ := hQ
    replace hchildren : ∀ m ∈ nodesOf children, Q m := hchildren
    unfold renderInline at h
    split at h
    · rename_i hmode
      obtain ⟨c, hc, h⟩ := bind_eq_ok_iff.1 h
      cases h
      have hkept := keptAttrs?_of_parseUnsafe hmode tag attrs
      have hempty (hnil : children = []) : c = [] := eq_nil_of_renderInlines hnil hc
      simpa [All] using hP.raw hself rfl hkept hempty (forall_of_renderInlines hP hchildren hc)
    · rename_i policy hmode
      split at h
      · rename_i hallowed
        obtain ⟨c, hc, h⟩ := bind_eq_ok_iff.1 h
        cases h
        have hkept := keptAttrs?_of_allowsElement hmode hallowed attrs
        have hempty (hnil : children = []) : c = [] := eq_nil_of_renderInlines hnil hc
        simpa [All] using hP.raw hself rfl hkept hempty (forall_of_renderInlines hP hchildren hc)
      · split at h
        · cases h
          simp [All]
        · exact forall_of_renderInlines hP hchildren h
    · obtain ⟨c, hc, h⟩ := bind_eq_ok_iff.1 h
      cases h
      exact hP.all_shown (forall_of_renderInlines hP hchildren hc) startSource endSource
  | .rawHtml source, _, _, h => by
    unfold renderInline at h
    split at h <;> cases h
    · simpa [All] using hP.text source
    · simp [All]
  | .heading _ _, _, _, h | .paragraph _, _, _, h | .blockQuote _, _, _, h | .codeBlock _, _, _, h
  | .list _ _ _, _, _, h | .thematicBreak, _, _, h | .htmlBlock _ _, _, _, h
  | .htmlSection .., _, _, h => by cases h

theorem forall_of_renderInlines (hP : ClosedAt o r Q P) {depth : Nat} :
    ∀ {ns : List Node} {nodes : List Markup}, (∀ m ∈ nodesOf ns, Q m) →
      renderInlines o r depth ns = .ok nodes → All P nodes
  | [], _, _, h => by
    obtain ⟨-, -, h⟩ := bind_eq_ok_iff.1 h
    cases h
    simp [All]
  | n :: ns, _, hQ, h => by
    obtain ⟨first, rest, hfirst, hrest, rfl⟩ := exists_of_checked_eq_ok h
    obtain ⟨hself, hQ⟩ := List.forall_mem_cons.1 hQ
    obtain ⟨hinside, hns⟩ := List.forall_mem_append.1 hQ
    exact List.forall_mem_append.2
      ⟨forall_of_renderInline hP ⟨hself, hinside⟩ hfirst, forall_of_renderInlines hP hns hrest⟩

end

mutual

theorem forall_of_renderBlock (hP : ClosedAt o r Q P) {depth : Nat} {tight : Bool} :
    ∀ {n : Node} {nodes : List Markup}, n.Throughout Q →
      renderBlock o r depth tight n = .ok nodes → All P nodes
  | .paragraph children, _, hQ, h => by
    simp only [renderBlock, bind_eq_ok_iff] at h
    obtain ⟨c, hc, h⟩ := h
    cases h
    exact hP.renderers.paragraph _ (hP.forall_of_renderInlines hQ.2 hc)
  | .heading level children, _, hQ, h => by
    simp only [renderBlock, bind_eq_ok_iff] at h
    obtain ⟨c, hc, h⟩ := h
    cases h
    simpa [All] using hP.renderers.heading level (hP.forall_of_renderInlines hQ.2 hc)
  | .blockQuote children, _, hQ, h => by
    simp only [renderBlock, bind_eq_ok_iff] at h
    obtain ⟨c, hc, h⟩ := h
    cases h
    simpa [All] using hP.renderers.blockQuote (forall_of_renderBlocks hP hQ.2 hc)
  | .codeBlock block, _, _, h => by
    cases h
    simpa [All] using hP.renderers.code block
  | .list kind items _, _, hQ, h => by
    simp only [renderBlock, bind_eq_ok_iff] at h
    obtain ⟨c, hc, h⟩ := h
    cases h
    simpa [All] using hP.renderers.list kind (forall_of_renderItems hP hQ.2 hc)
  | .thematicBreak, _, _, h => by
    cases h
    simpa [All] using hP.renderers.thematicBreak
  | .htmlBlock source nodes, _, hQ, h => by
    unfold renderBlock at h
    split at h
    · cases h
      simpa [All] using hP.text source
    · exact hP.forall_of_renderInlines hQ.2 h
  | .htmlSection tag attrs leading children startSource endSource, nodes, hQ, h => by
    obtain ⟨hself, hinside⟩ := hQ
    obtain ⟨hleading, hchildren⟩ := List.forall_mem_append.1 hinside
    -- in the two modes that read the section, its content is that of the leading part and the
    -- blocks, whatever becomes of the tag
    have hcontent : ∀ {a b : List Markup}, renderInlines o r (depth + 1) leading = .ok a →
        renderBlocks o r (depth + 1) false children = .ok b → All P (a ++ b) := fun ha hb ↦
      List.forall_mem_append.2
        ⟨hP.forall_of_renderInlines hleading ha, forall_of_renderBlocks hP hchildren hb⟩
    have hnil : ∀ {a b : List Markup}, renderInlines o r (depth + 1) leading = .ok a →
        renderBlocks o r (depth + 1) false children = .ok b → leading ++ children = [] →
        a ++ b = [] := fun ha hb hnil ↦ by
      obtain ⟨hleading, hchildren⟩ := List.append_eq_nil_iff.1 hnil
      rw [eq_nil_of_renderInlines hleading ha, eq_nil_of_renderBlocks hchildren hb,
        List.append_nil]
    unfold renderBlock at h
    split at h
    · obtain ⟨c, hc, h⟩ := bind_eq_ok_iff.1 h
      cases h
      exact hP.all_shown (forall_of_renderBlocks hP hchildren hc) startSource endSource
    · rename_i hmode
      obtain ⟨a, ha, h⟩ := bind_eq_ok_iff.1 h
      obtain ⟨b, hb, h⟩ := bind_eq_ok_iff.1 h
      cases h
      have hkept := keptAttrs?_of_parseUnsafe hmode tag attrs
      simpa [All] using hP.raw hself rfl hkept (hnil ha hb) (hcontent ha hb)
    · rename_i policy hmode
      obtain ⟨a, ha, h⟩ := bind_eq_ok_iff.1 h
      obtain ⟨b, hb, h⟩ := bind_eq_ok_iff.1 h
      split at h
      · rename_i hallowed
        cases h
        have hkept := keptAttrs?_of_allowsElement hmode hallowed attrs
        simpa [All] using hP.raw hself rfl hkept (hnil ha hb) (hcontent ha hb)
      · cases h
        exact hcontent ha hb
  | .text _, _, _, h | .softBreak, _, _, h | .hardBreak, _, _, h | .codeSpan _, _, _, h
  | .emphasis _, _, _, h | .strong _, _, _, h | .link _ _, _, _, h | .image _, _, _, h
  | .htmlElement .., _, _, h | .rawHtml _, _, _, h => by cases h

theorem forall_of_renderBlocks (hP : ClosedAt o r Q P) {depth : Nat} {tight : Bool} :
    ∀ {ns : List Node} {nodes : List Markup}, (∀ m ∈ nodesOf ns, Q m) →
      renderBlocks o r depth tight ns = .ok nodes → All P nodes
  | [], _, _, h => by
    obtain ⟨-, -, h⟩ := bind_eq_ok_iff.1 h
    cases h
    simp [All]
  | n :: ns, _, hQ, h => by
    obtain ⟨first, rest, hfirst, hrest, rfl⟩ := exists_of_checked_eq_ok h
    obtain ⟨hself, hQ⟩ := List.forall_mem_cons.1 hQ
    obtain ⟨hinside, hns⟩ := List.forall_mem_append.1 hQ
    exact List.forall_mem_append.2
      ⟨forall_of_renderBlock hP ⟨hself, hinside⟩ hfirst, forall_of_renderBlocks hP hns hrest⟩

theorem forall_of_renderItems (hP : ClosedAt o r Q P) {depth : Nat} {tight : Bool} :
    ∀ {items : List (List Node)} {nodes : List Markup}, (∀ m ∈ nodesOfItems items, Q m) →
      renderItems o r depth tight items = .ok nodes → All P nodes
  | [], _, _, h => by
    cases h
    simp [All]
  | item :: items, _, hQ, h => by
    obtain ⟨content, hcontent, h⟩ := bind_eq_ok_iff.1 h
    obtain ⟨rest, hrest, h⟩ := bind_eq_ok_iff.1 h
    cases h
    obtain ⟨hitem, hitems⟩ := List.forall_mem_append.1 hQ
    exact List.forall_mem_cons.2
      ⟨hP.item (forall_of_renderBlocks hP hitem hcontent), forall_of_renderItems hP hitems hrest⟩

end

/-- **Rendering gives only markup with the property**, at every node of the output. -/
theorem forall_of_renderDocument (hP : ClosedAt o r Q P) {blocks : List Node} {nodes : List Markup}
    (hQ : ∀ m ∈ nodesOf blocks, Q m) (h : renderDocument o r blocks = .ok nodes) :
    All P nodes :=
  hP.forall_of_renderBlocks hQ h

end ClosedAt

/-- Every source of markup respects `P`, given that the raw elements of the document satisfy
`Q`. -/
structure Closed (o : Options) (r : Renderers) (Q : String × List Attr → Prop)
    (P : Markup → Prop) : Prop where
  text : ∀ value, P (.text value)
  renderers : r.Respect P
  item : ∀ {children}, All P children → P (.element "li" [] children)
  raw : ∀ {tag attrs kept children}, Q (tag, attrs) → o.html.keptAttrs? tag attrs = some kept →
    All P children → P (.element tag kept children)

/-- The raw elements of a document are what its nodes are, one by one. -/
theorem Closed.closedAt {o : Options} {r : Renderers} {Q : String × List Attr → Prop}
    {P : Markup → Prop} (hP : Closed o r Q P) :
    ClosedAt o r (fun n ↦ ∀ e ∈ n.rawElement?, Q e) P where
  text := hP.text
  renderers := hP.renderers
  item := hP.item
  raw hQ hraw hkept _ := hP.raw (hQ _ hraw) hkept

/-- **Rendering gives only markup with the property**, where only the raw elements of the document
matter. -/
theorem Closed.forall_of_renderDocument {o : Options} {r : Renderers}
    {Q : String × List Attr → Prop} {P : Markup → Prop} (hP : Closed o r Q P) {blocks : List Node}
    {nodes : List Markup} (hQ : ∀ e ∈ rawElementsOf blocks, Q e)
    (h : renderDocument o r blocks = .ok nodes) : All P nodes := by
  refine hP.closedAt.forall_of_renderDocument (fun n hn e he ↦ hQ e ?_) h
  rw [Document.rawElementsOf_eq]
  exact List.mem_filterMap.2 ⟨n, hn, he⟩

end SafeMarkdown
