import SafeMarkdown.Proofs.Markup.Preorder
import SafeMarkdown.Proofs.Rendering.RawElements

/-!
# What can be observed of a document

An observation picks something out of some nodes of markup: their text, or the marks that a
renderer left. `observe g` lists what the observation `g` picks, in document order. What rendering
does to a document is often asked as what it does to an observation, and the answer is another
observation, made at the nodes of the document.

`Mirrors` says what such a pair of observations has to satisfy: a renderer shows what is seen at
its node and then what its content shows, and the elements of raw HTML and of list items show
nothing of their own. From that alone, what is seen of the markup of a document is what is seen of
the document (`observe_renderDocument`). The mode comes in at two places. A policy drops a void
element with its children, and raw HTML that is shown as text hides what was read from it, so the
nodes of the document have to be such that nothing is lost there.

The induction is on the document and has one lemma for each function of rendering. The place of a
node matters for paragraphs, which are rendered differently in tight lists, so observations are made
at placed nodes: a node together with whether the list that it stands in directly is tight.
-/

namespace SafeMarkdown

open Document (Node PlacedNode placedNodes placedItems nodesOf eq_nil_of_dropped
  forall_mem_nodesOf forall_mem_nodesOfItems node_mem_nodesOf)

variable {α : Type}

/-- Everything that an observation picks out of a list of markup, in document order. -/
def Markup.observe (g : Markup → Option α) (ns : List Markup) : List α :=
  (preorders ns).filterMap g

namespace Markup

variable (g : Markup → Option α)

@[simp] theorem observe_nil : observe g [] = [] := rfl

/-- Two lists are observed list by list. -/
theorem observe_append (ms ns : List Markup) :
    observe g (ms ++ ns) = observe g ms ++ observe g ns := by
  rw [observe, preorders_append, List.filterMap_append, observe, observe]

/-- A list is observed node by node. -/
theorem observe_cons (n : Markup) (ns : List Markup) :
    observe g (n :: ns) = observe g [n] ++ observe g ns :=
  observe_append g [n] ns

/-- The nodes of a tree are seen after its root. -/
theorem filterMap_cons_eq {β : Type} (f : β → Option α) (b : β) (l : List β) :
    (b :: l).filterMap f = (f b).toList ++ l.filterMap f := by
  rw [List.filterMap_cons]
  cases f b <;> rfl

/-- An element is observed before its children. -/
theorem observe_element (tag : String) (attrs : List Attr) (children : List Markup) :
    observe g [.element tag attrs children] =
      (g (.element tag attrs children)).toList ++ observe g children := by
  rw [observe, preorders_singleton, preorder, filterMap_cons_eq, observe]

theorem observe_text (value : String) : observe g [.text value] = (g (.text value)).toList := by
  rw [observe, preorders_singleton, preorder, filterMap_cons_eq, List.filterMap_nil,
    List.append_nil]

end Markup

open Markup (observe observe_nil observe_append observe_cons observe_element observe_text
  filterMap_cons_eq remnant)

/-- Each renderer shows, to the observation `g`, what `f` sees at the node that it renders and then
what the content shows. -/
structure Renderers.Mirrors (r : Renderers) (soft : Bool) (f : PlacedNode → Option α)
    (g : Markup → Option α) : Prop where
  heading : ∀ tight level children content,
    observe g [r.heading level content] =
      (f ⟨tight, .heading level children⟩).toList ++ observe g content
  paragraph : ∀ tight children content,
    observe g (r.paragraph (!tight) content) =
      (f ⟨tight, .paragraph children⟩).toList ++ observe g content
  blockQuote : ∀ tight children content,
    observe g [r.blockQuote content] =
      (f ⟨tight, .blockQuote children⟩).toList ++ observe g content
  code : ∀ tight block, observe g [r.code block] = (f ⟨tight, .codeBlock block⟩).toList
  list : ∀ tight kind items itemsTight content,
    observe g [r.list kind content] =
      (f ⟨tight, .list kind items itemsTight⟩).toList ++ observe g content
  thematicBreak : ∀ tight, observe g [r.thematicBreak] = (f ⟨tight, .thematicBreak⟩).toList
  softBreak : ∀ tight,
    observe g [if soft then r.hardLineBreak else .text "\n"] = (f ⟨tight, .softBreak⟩).toList
  hardBreak : ∀ tight, observe g [r.hardLineBreak] = (f ⟨tight, .hardBreak⟩).toList
  codeSpan : ∀ tight text, observe g [r.codeSpan text] = (f ⟨tight, .codeSpan text⟩).toList
  emphasis : ∀ tight children content,
    observe g [r.emphasis content] = (f ⟨tight, .emphasis children⟩).toList ++ observe g content
  strong : ∀ tight children content,
    observe g [r.strongEmphasis content] =
      (f ⟨tight, .strong children⟩).toList ++ observe g content
  link : ∀ tight target children content,
    observe g [r.link target content] =
      (f ⟨tight, .link target children⟩).toList ++ observe g content
  image : ∀ tight target, observe g [r.image target] = (f ⟨tight, .image target⟩).toList

/-- What `g` sees of the rendering of a document whose nodes satisfy `P` is what `f` sees of the
document. -/
structure Mirrors (o : Options) (r : Renderers) (P : Node → Prop) (f : PlacedNode → Option α)
    (g : Markup → Option α) : Prop where
  renderers : r.Mirrors o.softAsHardLineBreak f g
  text : ∀ tight value, f ⟨tight, .text value⟩ = g (.text value)
  item : ∀ content, g (.element "li" [] content) = none
  /-- Raw HTML itself is not seen. -/
  raw : ∀ tight n, n.IsRaw → f ⟨tight, n⟩ = none
  /-- Nor are the elements made of it. -/
  kept : ∀ {n tag}, P n → n.rawTag? = some tag → ∀ attrs content,
    g (.element tag attrs content) = none
  /-- Nor is the text of it, where it is shown as text. -/
  shown : o.html = .dontParse → ∀ source, g (.text source) = none
  void : ∀ {n}, P n → n.VoidChildless
  html : o.html = .dontParse → ∀ {n}, P n → n.HoldsHtml

namespace Mirrors

variable {o : Options} {r : Renderers} {P : Node → Prop} {f : PlacedNode → Option α}
  {g : Markup → Option α}

/-- A node without nodes below it shows what is seen at the node. -/
theorem observe_leaf {tight : Bool} {n : Node} {out : List Markup}
    (hout : observe g out = (f ⟨tight, n⟩).toList) (hinside : n.placedInside = []) :
    observe g out = (⟨tight, n⟩ :: n.placedInside).filterMap f := by
  rw [hout, hinside, filterMap_cons_eq, List.filterMap_nil, List.append_nil]

/-- A node shows what is seen at the node and then what its content shows. -/
theorem observe_around {tight : Bool} {n : Node} {out content : List Markup}
    (hout : observe g out = (f ⟨tight, n⟩).toList ++ observe g content)
    (hcontent : observe g content = n.placedInside.filterMap f) :
    observe g out = (⟨tight, n⟩ :: n.placedInside).filterMap f := by
  rw [hout, hcontent, filterMap_cons_eq]

/-- Of raw HTML, only what is inside is seen. -/
theorem filterMap_cons_raw (h : Mirrors o r P f g) {n : Node} (hn : n.IsRaw) (tight : Bool)
    (inside : List PlacedNode) : (⟨tight, n⟩ :: inside).filterMap f = inside.filterMap f :=
  List.filterMap_cons_none (h.raw tight n hn)

/-- What is left of a raw element or section shows its content. -/
theorem observe_remnant (h : Mirrors o r P f g) {n : Node} {tag : String} (hP : P n)
    (htag : n.rawTag? = some tag) (kept? : Option (List Attr)) (content : List Markup) :
    observe g (remnant tag kept? content) = observe g content := by
  cases kept? with
  | none => rfl
  | some kept =>
    rw [remnant, observe_element, h.kept hP htag, Option.toList_none, List.nil_append]

/-- Raw HTML that is shown as text adds nothing to what is observed of its content. -/
theorem observe_shown (hshown : ∀ source, g (.text source) = none) (startSource endSource : String)
    (content : List Markup) :
    observe g (.text startSource :: content ++ textUnlessEmpty endSource) = observe g content := by
  have htext : ∀ source, observe g [.text source] = [] := fun source ↦ by
    rw [observe_text, hshown, Option.toList_none]
  have hend : observe g (textUnlessEmpty endSource) = [] := by
    unfold textUnlessEmpty
    split
    · exact observe_nil g
    · exact htext endSource
  rw [List.cons_append, observe_cons, htext, List.nil_append, observe_append, hend,
    List.append_nil]

/-- Nothing is seen of what raw HTML was read to, where it is shown as text. -/
theorem filterMap_placedNodes_eq_nil (h : Mirrors o r P f g) (hmode : o.html = .dontParse)
    {ns : List Node} (hhtml : ∀ n ∈ nodesOf ns, n.IsHtml) (tight : Bool) :
    (placedNodes tight ns).filterMap f = [] := by
  refine List.filterMap_eq_nil_iff.2 fun ⟨tight, n⟩ hn ↦ ?_
  have hn : n.IsHtml := hhtml n (node_mem_nodesOf hn)
  cases n with
  | text value => rw [h.text, h.shown hmode]
  | htmlElement => exact h.raw _ _ trivial
  | rawHtml => exact h.raw _ _ trivial
  | _ => exact hn.elim

mutual

/-- What is observed of a rendered inline is read off the inline. -/
theorem observe_renderInline (h : Mirrors o r P f g) {depth : Nat} :
    ∀ {n : Node} {out : List Markup}, n.Throughout P → renderInline o r depth n = .ok out →
      observe g out = (⟨false, n⟩ :: n.placedInside).filterMap f
  | .text value, _, _, hout => by
    cases hout
    exact observe_leaf (by rw [observe_text, h.text]) rfl
  | .softBreak, _, _, hout => by
    cases hout
    exact observe_leaf (h.renderers.softBreak false) rfl
  | .hardBreak, _, _, hout => by
    cases hout
    exact observe_leaf (h.renderers.hardBreak false) rfl
  | .codeSpan text, _, _, hout => by
    cases hout
    exact observe_leaf (h.renderers.codeSpan false text) rfl
  | .image target, _, _, hout => by
    cases hout
    exact observe_leaf (h.renderers.image false target) rfl
  | .emphasis children, _, hP, hout => by
    obtain ⟨content, hcontent, hout⟩ := bind_eq_ok_iff.1 hout
    cases hout
    exact observe_around (h.renderers.emphasis false children content)
      (observe_renderInlines h (forall_mem_nodesOf.1 hP.2) hcontent)
  | .strong children, _, hP, hout => by
    obtain ⟨content, hcontent, hout⟩ := bind_eq_ok_iff.1 hout
    cases hout
    exact observe_around (h.renderers.strong false children content)
      (observe_renderInlines h (forall_mem_nodesOf.1 hP.2) hcontent)
  | .link target children, _, hP, hout => by
    obtain ⟨content, hcontent, hout⟩ := bind_eq_ok_iff.1 hout
    cases hout
    exact observe_around (h.renderers.link false target children content)
      (observe_renderInlines h (forall_mem_nodesOf.1 hP.2) hcontent)
  | .htmlElement tag attrs children startSource endSource void, _, hP, hout => by
    have hbelow := forall_mem_nodesOf.1 hP.2
    -- whatever the mode does with the element, its children are what is seen of it
    rw [h.filterMap_cons_raw (by trivial), Node.placedInside]
    rcases cases_of_htmlElement hout with
      ⟨hmode, content, hcontent, rfl⟩ | ⟨-, hdropped, rfl⟩ | ⟨content, hcontent, rfl⟩
    · rw [observe_shown (h.shown hmode), observe_renderInlines h hbelow hcontent]
    · have hchildren : children = [] := eq_nil_of_dropped (h.void hP.1) hdropped
      rw [hchildren]
      rfl
    · rw [h.observe_remnant hP.1 rfl, observe_renderInlines h hbelow hcontent]
  | .rawHtml source, _, _, hout => by
    rw [h.filterMap_cons_raw (by trivial), Node.placedInside]
    rw [renderInline] at hout
    split at hout
    · rename_i hmode
      cases hout
      rw [observe_text, h.shown hmode]
      rfl
    · cases hout
      rfl
  | .heading _ _, _, _, hout | .paragraph _, _, _, hout | .blockQuote _, _, _, hout
  | .codeBlock _, _, _, hout | .list _ _ _, _, _, hout | .thematicBreak, _, _, hout
  | .htmlBlock _ _, _, _, hout | .htmlSection .., _, _, hout => by cases hout

theorem observe_renderInlines (h : Mirrors o r P f g) {depth : Nat} :
    ∀ {ns : List Node} {out : List Markup}, (∀ n ∈ ns, n.Throughout P) →
      renderInlines o r depth ns = .ok out → observe g out = (placedNodes false ns).filterMap f
  | [], _, _, hout => by
    obtain ⟨-, -, hout⟩ := bind_eq_ok_iff.1 hout
    cases hout
    rfl
  | n :: ns, _, hP, hout => by
    obtain ⟨first, rest, hfirst, hrest, rfl⟩ := exists_of_checked_eq_ok hout
    obtain ⟨hhead, htail⟩ := List.forall_mem_cons.1 hP
    rw [observe_append, observe_renderInline h hhead hfirst, observe_renderInlines h htail hrest,
      placedNodes, ← List.filterMap_append, List.cons_append]

end

mutual

/-- The same of a block, in a tight list or not. -/
theorem observe_renderBlock (h : Mirrors o r P f g) {depth : Nat} {tight : Bool} :
    ∀ {n : Node} {out : List Markup}, n.Throughout P → renderBlock o r depth tight n = .ok out →
      observe g out = (⟨tight, n⟩ :: n.placedInside).filterMap f
  | .paragraph children, _, hP, hout => by
    obtain ⟨content, hcontent, hout⟩ := bind_eq_ok_iff.1 hout
    cases hout
    exact observe_around (h.renderers.paragraph tight children content)
      (h.observe_renderInlines (forall_mem_nodesOf.1 hP.2) hcontent)
  | .heading level children, _, hP, hout => by
    obtain ⟨content, hcontent, hout⟩ := bind_eq_ok_iff.1 hout
    cases hout
    exact observe_around (h.renderers.heading tight level children content)
      (h.observe_renderInlines (forall_mem_nodesOf.1 hP.2) hcontent)
  | .blockQuote children, _, hP, hout => by
    obtain ⟨content, hcontent, hout⟩ := bind_eq_ok_iff.1 hout
    cases hout
    exact observe_around (h.renderers.blockQuote tight children content)
      (observe_renderBlocks h (forall_mem_nodesOf.1 hP.2) hcontent)
  | .codeBlock block, _, _, hout => by
    cases hout
    exact observe_leaf (h.renderers.code tight block) rfl
  | .list kind items itemsTight, _, hP, hout => by
    obtain ⟨content, hcontent, hout⟩ := bind_eq_ok_iff.1 hout
    cases hout
    exact observe_around (h.renderers.list tight kind items itemsTight content)
      (observe_renderItems h (forall_mem_nodesOfItems.1 hP.2) hcontent)
  | .thematicBreak, _, _, hout => by
    cases hout
    exact observe_leaf (h.renderers.thematicBreak tight) rfl
  | .htmlBlock source nodes, _, hP, hout => by
    rw [h.filterMap_cons_raw (by trivial), Node.placedInside]
    rw [renderBlock] at hout
    split at hout
    · rename_i hmode
      cases hout
      rw [observe_text, h.shown hmode, h.filterMap_placedNodes_eq_nil hmode (h.html hmode hP.1)]
      rfl
    · exact h.observe_renderInlines (forall_mem_nodesOf.1 hP.2) hout
  | .htmlSection tag attrs leading children startSource endSource, _, hP, hout => by
    obtain ⟨hleading, hchildren⟩ := List.forall_mem_append.1 hP.2
    have hleading := forall_mem_nodesOf.1 hleading
    have hchildren := forall_mem_nodesOf.1 hchildren
    rw [h.filterMap_cons_raw (by trivial), Node.placedInside, List.filterMap_append]
    rcases cases_of_htmlSection hout with
      ⟨hmode, content, hcontent, rfl⟩ | ⟨first, rest, hfirst, hrest, rfl⟩
    · -- the leading part is part of the source that is shown, and holds nothing to be seen
      rw [observe_shown (h.shown hmode), observe_renderBlocks h hchildren hcontent,
        h.filterMap_placedNodes_eq_nil hmode (h.html hmode hP.1), List.nil_append]
    · rw [h.observe_remnant hP.1 rfl, observe_append, h.observe_renderInlines hleading hfirst,
        observe_renderBlocks h hchildren hrest]
  | .text _, _, _, hout | .softBreak, _, _, hout | .hardBreak, _, _, hout
  | .codeSpan _, _, _, hout | .emphasis _, _, _, hout | .strong _, _, _, hout
  | .link _ _, _, _, hout | .image _, _, _, hout | .htmlElement .., _, _, hout
  | .rawHtml _, _, _, hout => by cases hout

theorem observe_renderBlocks (h : Mirrors o r P f g) {depth : Nat} {tight : Bool} :
    ∀ {ns : List Node} {out : List Markup}, (∀ n ∈ ns, n.Throughout P) →
      renderBlocks o r depth tight ns = .ok out →
        observe g out = (placedNodes tight ns).filterMap f
  | [], _, _, hout => by
    obtain ⟨-, -, hout⟩ := bind_eq_ok_iff.1 hout
    cases hout
    rfl
  | n :: ns, _, hP, hout => by
    obtain ⟨first, rest, hfirst, hrest, rfl⟩ := exists_of_checked_eq_ok hout
    obtain ⟨hhead, htail⟩ := List.forall_mem_cons.1 hP
    rw [observe_append, observe_renderBlock h hhead hfirst, observe_renderBlocks h htail hrest,
      placedNodes, ← List.filterMap_append, List.cons_append]

theorem observe_renderItems (h : Mirrors o r P f g) {depth : Nat} {tight : Bool} :
    ∀ {items : List (List Node)} {out : List Markup},
      (∀ item ∈ items, ∀ n ∈ item, n.Throughout P) →
        renderItems o r depth tight items = .ok out →
          observe g out = (placedItems tight items).filterMap f
  | [], _, _, hout => by
    cases hout
    rfl
  | item :: items, _, hP, hout => by
    obtain ⟨content, hcontent, hout⟩ := bind_eq_ok_iff.1 hout
    obtain ⟨rest, hrest, hout⟩ := bind_eq_ok_iff.1 hout
    cases hout
    obtain ⟨hhead, htail⟩ := List.forall_mem_cons.1 hP
    rw [observe_cons, observe_element, h.item, Option.toList_none, List.nil_append,
      observe_renderBlocks h hhead hcontent, observe_renderItems h htail hrest, placedItems,
      List.filterMap_append]

end

/-- **What is seen of the markup of a document is what is seen of the document.** -/
theorem observe_renderDocument (h : Mirrors o r P f g) {blocks : List Node} {nodes : List Markup}
    (hP : ∀ n ∈ nodesOf blocks, P n) (hrender : renderDocument o r blocks = .ok nodes) :
    observe g nodes = (placedNodes false blocks).filterMap f :=
  h.observe_renderBlocks (forall_mem_nodesOf.1 hP) hrender

end Mirrors

end SafeMarkdown
