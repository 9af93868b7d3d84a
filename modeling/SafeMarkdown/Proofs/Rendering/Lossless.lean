import SafeMarkdown.Proofs.Conversion.Rules
import SafeMarkdown.Proofs.Rendering.Outcome

/-!
# Raw HTML shown as text

Where raw HTML is shown as text, the way from a syntax tree to markup changes the order of nothing
and loses nothing. Pairs of tags are made into elements and sections on the way, and their tags are
kept apart from what stands between them; rendering writes the two around it again.

`literalTexts` is the text of a syntax tree that is to come out, read off the tree alone. The texts
of the rendered document, one after the other, are exactly that (`innerTexts_eq_literalTexts`),
however the tags in it pair up.

The proof is an instance of the rules of conversion. `InlineShows` and `BlockShows` relate a node to
the stretch of siblings that it is made from: whatever it is rendered to, at any depth, has the
literal text of the stretch. One lemma for each shape of node gives the field of the rules, and an
element or a section has to put its two tags around what its children show.
-/

namespace SafeMarkdown

namespace Syntax

mutual

/-- The text of a node of a syntax tree with raw HTML as it is written. An image and a line break
have none, and `soft` tells that the same goes for the end of a line within a paragraph. -/
def Node.literalText (soft : Bool) : Node → String
  | ⟨kind, content, _, _, _, _, children⟩ =>
    match kind with
    | .text | .textSpecial | .codeInline | .fence | .codeBlock | .htmlInline | .htmlBlock => content
    | .softBreak => if soft then "" else "\n"
    | .em | .strong | .link | .blockquote => literalTexts soft children
    | .paragraph | .heading => literalParts soft (fun kind ↦ kind = .inline) children
    | .bulletList | .orderedList => literalParts soft (fun _ ↦ true) children
    | _ => ""

/-- The texts of a list of nodes, one after the other. -/
def literalTexts (soft : Bool) : List Node → String
  | [] => ""
  | n :: ns => n.literalText soft ++ literalTexts soft ns

/-- The texts of the children of those parts whose kind counts, one after the other. -/
def literalParts (soft : Bool) (counts : Kind → Bool) : List Node → String
  | [] => ""
  | ⟨kind, _, _, _, _, _, children⟩ :: ns =>
    (if counts kind then literalTexts soft children else "") ++ literalParts soft counts ns

end

variable {soft : Bool}

/-- The literal text of a node depends on its kind only: its own content, or that of its children.
-/
theorem literalText_eq (n : Node) :
    n.literalText soft =
      match n.kind with
      | .text | .textSpecial | .codeInline | .fence | .codeBlock | .htmlInline | .htmlBlock =>
        n.content
      | .softBreak => if soft then "" else "\n"
      | .em | .strong | .link | .blockquote => literalTexts soft n.children
      | .paragraph | .heading => literalParts soft (fun kind ↦ kind = .inline) n.children
      | .bulletList | .orderedList => literalParts soft (fun _ ↦ true) n.children
      | _ => "" := by
  obtain ⟨kind, _, _, _, _, _, _⟩ := n
  cases kind <;> rfl

@[simp] theorem literalTexts_singleton (n : Node) : literalTexts soft [n] = n.literalText soft := by
  rw [literalTexts, literalTexts, String.append_empty]

/-- Literal texts of two lists follow one another. -/
theorem literalTexts_append (ns ms : List Node) :
    literalTexts soft (ns ++ ms) = literalTexts soft ns ++ literalTexts soft ms := by
  induction ns with
  | nil => exact String.empty_append.symm
  | cons n ns ih => rw [List.cons_append, literalTexts, literalTexts, ih, String.append_assoc]

/-- The parts that count are taken in order. -/
theorem literalParts_cons (counts : Kind → Bool) (n : Node) (ns : List Node) :
    literalParts soft counts (n :: ns) =
      (if counts n.kind then literalTexts soft n.children else "") ++
        literalParts soft counts ns := by
  cases n
  rfl

/-- The literal text of parts is that of the children of those that count. -/
theorem literalParts_eq (counts : Kind → Bool) (parts : List Node) :
    literalParts soft counts parts =
      literalTexts soft ((parts.filter fun p ↦ counts p.kind).flatMap Node.children) := by
  induction parts with
  | nil => rfl
  | cons part parts ih =>
    rw [literalParts_cons, ih, List.filter_cons]
    split
    · rw [List.flatMap_cons, literalTexts_append]
    · rw [String.empty_append]

end Syntax

open Document (Node MadeAt ConversionRules ofSyntax)
open Markup (innerTexts)
open Syntax (literalTexts literalTexts_singleton literalTexts_append literalText_eq literalParts_eq)

/-- Inner texts of two lists follow one another. -/
theorem innerTexts_append (ms ns : List Markup) :
    innerTexts (ms ++ ns) = innerTexts ms ++ innerTexts ns := by
  induction ms with
  | nil => exact String.empty_append.symm
  | cons m ms ih => rw [List.cons_append, innerTexts, innerTexts, ih, String.append_assoc]

/-- The text of an element alone is that of its children. -/
theorem innerTexts_element (tag : String) (attrs : List Attr) (children : List Markup) :
    innerTexts [.element tag attrs children] = innerTexts children := by
  rw [innerTexts, innerTexts, String.append_empty, Markup.innerText]

theorem innerTexts_text (value : String) : innerTexts [.text value] = value :=
  String.append_empty

/-- A text that is left out when it is empty is no loss. -/
theorem innerTexts_textUnlessEmpty (s : String) : innerTexts (textUnlessEmpty s) = s := by
  unfold textUnlessEmpty
  split
  · rename_i hempty
    rw [hempty]
    rfl
  · exact innerTexts_text s

/-- What is shown of an element or a section: the start tag, the content and the end tag. -/
theorem innerTexts_shown (startSource endSource : String) (content : List Markup) :
    innerTexts (.text startSource :: content ++ textUnlessEmpty endSource) =
      startSource ++ (innerTexts content ++ endSource) := by
  rw [List.cons_append, innerTexts, innerTexts_append, innerTexts_textUnlessEmpty, Markup.innerText]

variable {soft : Bool}

/-- The inline is rendered to the text of the siblings that it was made from. -/
def InlineShows (soft : Bool) (_ : Nat) (stretch : List Syntax.Node) (n : Node) : Prop :=
  ∀ depth out, renderInline ⟨soft, .dontParse⟩ .standard depth n = .ok out →
    innerTexts out = literalTexts soft stretch

/-- The block is rendered to the text of the siblings that it was made from. -/
def BlockShows (soft : Bool) (_ : Nat) (stretch : List Syntax.Node) (n : Node) : Prop :=
  ∀ depth tight out, renderBlock ⟨soft, .dontParse⟩ .standard depth tight n = .ok out →
    innerTexts out = literalTexts soft stretch

/-- A list of inlines shows the literal text of its siblings. -/
theorem innerTexts_of_renderInlines {d depth : Nat} {siblings : List Syntax.Node} {ns : List Node}
    {out : List Markup} (hmade : MadeAt (InlineShows soft) d siblings ns)
    (h : renderInlines ⟨soft, .dontParse⟩ .standard depth ns = .ok out) :
    innerTexts out = literalTexts soft siblings := by
  obtain ⟨-, hmade⟩ := hmade
  induction hmade generalizing out with
  | nil =>
    rw [renderInlines_nil (le_depthLimit_of_renderInlines h)] at h
    cases h
    rfl
  | cons head _ ih =>
    obtain ⟨first, rest, hfirst, hrest, rfl⟩ := exists_of_checked_eq_ok h
    rw [innerTexts_append, literalTexts_append, head depth first hfirst, ih hrest]

/-- So does a list of blocks. -/
theorem innerTexts_of_renderBlocks {d depth : Nat} {tight : Bool} {siblings : List Syntax.Node}
    {ns : List Node} {out : List Markup} (hmade : MadeAt (BlockShows soft) d siblings ns)
    (h : renderBlocks ⟨soft, .dontParse⟩ .standard depth tight ns = .ok out) :
    innerTexts out = literalTexts soft siblings := by
  obtain ⟨-, hmade⟩ := hmade
  induction hmade generalizing out with
  | nil =>
    rw [renderBlocks_nil (le_depthLimit_of_renderBlocks h)] at h
    cases h
    rfl
  | cons head _ ih =>
    obtain ⟨first, rest, hfirst, hrest, rfl⟩ := exists_of_checked_eq_ok h
    rw [innerTexts_append, literalTexts_append, head depth tight first hfirst, ih hrest]

/-- So do the items of a list. -/
theorem innerTexts_of_renderItems {d depth : Nat} {tight : Bool} {parts : List Syntax.Node}
    {items : List (List Node)} {out : List Markup}
    (hmade : List.Forall₂ (fun part item ↦ MadeAt (BlockShows soft) d part.children item) parts
      items)
    (h : renderItems ⟨soft, .dontParse⟩ .standard depth tight items = .ok out) :
    innerTexts out = Syntax.literalParts soft (fun _ ↦ true) parts := by
  induction hmade generalizing out with
  | nil =>
    cases h
    rfl
  | cons head _ ih =>
    obtain ⟨content, hcontent, h⟩ := bind_eq_ok_iff.1 h
    obtain ⟨rest, hrest, h⟩ := bind_eq_ok_iff.1 h
    cases h
    rw [innerTexts, Markup.innerText, Syntax.literalParts_cons, if_pos rfl, ih hrest,
      innerTexts_of_renderBlocks head hcontent]

/-! ### Inlines -/

variable {depth : Nat} {m : Syntax.Node} {n : Node}

/-- An inline without children is rendered to the same markup everywhere. -/
theorem inlineShows_leaf {out : List Markup}
    (hrender : ∀ d, renderInline ⟨soft, .dontParse⟩ .standard d n = .ok out)
    (htext : innerTexts out = m.literalText soft) : InlineShows soft depth [m] n := by
  intro d nodes h
  rw [hrender] at h
  cases h
  rw [htext, literalTexts_singleton]

/-- An inline with children is rendered to one element around them. -/
theorem inlineShows_element {children : List Node} {tag : String} {attrs : List Attr}
    (htext : m.literalText soft = literalTexts soft m.children)
    (hmade : MadeAt (InlineShows soft) (depth + 1) m.children children)
    (hrender : ∀ d, renderInline ⟨soft, .dontParse⟩ .standard d n = do
      return [.element tag attrs
        (← renderInlines ⟨soft, .dontParse⟩ .standard (d + 1) children)]) :
    InlineShows soft depth [m] n := by
  intro d out h
  rw [hrender] at h
  obtain ⟨content, hcontent, h⟩ := bind_eq_ok_iff.1 h
  cases h
  rw [innerTexts_element, innerTexts_of_renderInlines hmade hcontent, literalTexts_singleton, htext]

/-- The text of a pair of tags and what stands between them. -/
theorem literalTexts_pair {opening closing : Syntax.Node} {inner : List Syntax.Node}
    (hopening : opening.literalText soft = opening.content)
    (hclosing : closing.literalText soft = closing.content) :
    literalTexts soft (opening :: (inner ++ [closing])) =
      opening.content ++ (literalTexts soft inner ++ closing.content) := by
  rw [literalTexts, literalTexts_append, literalTexts_singleton, hopening, hclosing]

/-- A tag without its end tag shows its source. -/
theorem inlineShows_lone {tag : String} {attrs : List Attr} {void : Bool}
    (htext : m.literalText soft = m.content) :
    InlineShows soft depth [m] (.htmlElement tag attrs [] m.content "" void) := by
  intro d out h
  obtain ⟨content, hcontent, h⟩ := bind_eq_ok_iff.1 h
  rw [renderInlines_nil (le_depthLimit_of_renderInlines hcontent)] at hcontent
  cases hcontent
  cases h
  rw [innerTexts_shown, literalTexts_singleton, htext]
  exact String.append_empty

/-- An element with both tags shows their sources, around what its children show. -/
theorem inlineShows_paired {opening closing : Syntax.Node} {inner : List Syntax.Node}
    {tag : String} {attrs : List Attr} {children : List Node}
    (hopening : opening.literalText soft = opening.content)
    (hclosing : closing.literalText soft = closing.content)
    (hmade : MadeAt (InlineShows soft) (depth + 1) inner children) :
    InlineShows soft depth (opening :: (inner ++ [closing]))
      (.htmlElement tag attrs children opening.content closing.content false) := by
  intro d out h
  obtain ⟨content, hcontent, h⟩ := bind_eq_ok_iff.1 h
  cases h
  rw [innerTexts_shown, innerTexts_of_renderInlines hmade hcontent,
    literalTexts_pair hopening hclosing]

/-! ### Blocks -/

/-- A block without children shows what it is rendered to everywhere. -/
theorem blockShows_leaf {out : List Markup}
    (hrender : ∀ d tight, renderBlock ⟨soft, .dontParse⟩ .standard d tight n = .ok out)
    (htext : innerTexts out = m.literalText soft) : BlockShows soft depth [m] n := by
  intro d tight nodes h
  rw [hrender] at h
  cases h
  rw [htext, literalTexts_singleton]

/-- A paragraph or a heading is rendered to its inlines, with or without an element around them. -/
theorem blockShows_inlines {children : List Node} {wrap : Bool → List Markup → List Markup}
    (htext : m.literalText soft =
      Syntax.literalParts soft (fun kind ↦ kind = .inline) m.children)
    (hmade : MadeAt (InlineShows soft) (depth + 1)
      ((m.children.filter fun p ↦ p.kind = .inline).flatMap Syntax.Node.children) children)
    (hrender : ∀ d tight, renderBlock ⟨soft, .dontParse⟩ .standard d tight n = do
      return wrap tight (← renderInlines ⟨soft, .dontParse⟩ .standard (d + 1) children))
    (hwrap : ∀ tight content, innerTexts (wrap tight content) = innerTexts content) :
    BlockShows soft depth [m] n := by
  intro d tight out h
  rw [hrender] at h
  obtain ⟨content, hcontent, h⟩ := bind_eq_ok_iff.1 h
  cases h
  rw [hwrap, innerTexts_of_renderInlines hmade hcontent, literalTexts_singleton, htext,
    literalParts_eq]

theorem innerTexts_paragraph (wrap : Bool) (content : List Markup) :
    innerTexts (Renderers.standard.paragraph wrap content) = innerTexts content := by
  cases wrap with
  | false => rfl
  | true => exact innerTexts_element "p" [] content

/-- A quotation shows what its blocks show. -/
theorem blockShows_blockQuote {children : List Node}
    (htext : m.literalText soft = literalTexts soft m.children)
    (hmade : MadeAt (BlockShows soft) (depth + 1) m.children children) :
    BlockShows soft depth [m] (.blockQuote children) := by
  intro d tight out h
  obtain ⟨content, hcontent, h⟩ := bind_eq_ok_iff.1 h
  cases h
  rw [literalTexts_singleton, htext, ← innerTexts_of_renderBlocks hmade hcontent]
  exact innerTexts_element _ _ content

/-- A list shows what its items show. -/
theorem blockShows_list {kind : Document.ListKind} {items : List (List Node)} {itemsTight : Bool}
    (htext : m.literalText soft = Syntax.literalParts soft (fun _ ↦ true) m.children)
    (hmade : List.Forall₂ (fun part item ↦ MadeAt (BlockShows soft) (depth + 1) part.children item)
      m.children items) :
    BlockShows soft depth [m] (.list kind items itemsTight) := by
  intro d tight out h
  obtain ⟨content, hcontent, h⟩ := bind_eq_ok_iff.1 h
  cases h
  rw [literalTexts_singleton, htext, ← innerTexts_of_renderItems hmade hcontent]
  cases kind with
  | unordered => exact innerTexts_element _ _ content
  | ordered start => exact innerTexts_element _ _ content

/-- A section shows the sources of its ends, around what its blocks show. -/
theorem blockShows_htmlSection {opening closing : Syntax.Node} {inner : List Syntax.Node}
    {tag : String} {attrs : List Attr} {leading children : List Node}
    (hopening : opening.literalText soft = opening.content)
    (hclosing : closing.literalText soft = closing.content)
    (hmade : MadeAt (BlockShows soft) (depth + 1) inner children) :
    BlockShows soft depth (opening :: (inner ++ [closing]))
      (.htmlSection tag attrs leading children opening.content closing.content) := by
  intro d tight out h
  obtain ⟨content, hcontent, h⟩ := bind_eq_ok_iff.1 h
  cases h
  rw [innerTexts_shown, innerTexts_of_renderBlocks hmade hcontent,
    literalTexts_pair hopening hclosing]

/-! ### Documents -/

/-- **Every rule of conversion shows the stretch that it is applied to.** -/
theorem conversionRules_shows (soft : Bool) :
    ConversionRules (InlineShows soft) (BlockShows soft) where
  text hkind := inlineShows_leaf (fun _ ↦ rfl) (by
    rw [innerTexts_text, literalText_eq]
    rcases hkind with hkind | hkind <;> rw [hkind])
  softBreak hkind := inlineShows_leaf (fun _ ↦ rfl) (by
    rw [literalText_eq, hkind]
    cases soft <;> rfl)
  hardBreak hkind := inlineShows_leaf (fun _ ↦ rfl) (by
    rw [literalText_eq, hkind]
    rfl)
  codeSpan hkind := inlineShows_leaf (fun _ ↦ rfl) (by
    rw [literalText_eq, hkind, Renderers.standard, innerTexts_element, innerTexts_text])
  image hkind := inlineShows_leaf (fun _ ↦ rfl) (by
    rw [literalText_eq, hkind]
    rfl)
  emphasis hkind h := inlineShows_element (by rw [literalText_eq, hkind]) h fun _ ↦ rfl
  strong hkind h := inlineShows_element (by rw [literalText_eq, hkind]) h fun _ ↦ rfl
  link hkind h := inlineShows_element (by rw [literalText_eq, hkind]) h fun _ ↦ rfl
  rawHtml hkind := inlineShows_leaf (fun _ ↦ rfl) (by
    rw [innerTexts_text, literalText_eq, hkind])
  lone hkind _ _ := inlineShows_lone (by rw [literalText_eq, hkind])
  paired hopening hclosing _ _ _ h :=
    inlineShows_paired (by rw [literalText_eq, hopening]) (by rw [literalText_eq, hclosing]) h
  paragraph hkind h := blockShows_inlines (by rw [literalText_eq, hkind]) h (fun _ _ ↦ rfl)
    fun tight content ↦ innerTexts_paragraph (!tight) content
  heading hkind _ h := blockShows_inlines (by rw [literalText_eq, hkind]) h (fun _ _ ↦ rfl)
    fun _ content ↦ innerTexts_element _ [] content
  blockQuote hkind h := blockShows_blockQuote (by rw [literalText_eq, hkind]) h
  fence hkind := blockShows_leaf (fun _ _ ↦ rfl) (by
    rw [literalText_eq, hkind, Renderers.standard, innerTexts_element, innerTexts_element,
      innerTexts_text])
  codeBlock hkind := blockShows_leaf (fun _ _ ↦ rfl) (by
    rw [literalText_eq, hkind, Renderers.standard, innerTexts_element, innerTexts_element,
      innerTexts_text])
  bulletList hkind h := blockShows_list (by rw [literalText_eq, hkind]) h
  orderedList hkind _ h := blockShows_list (by rw [literalText_eq, hkind]) h
  thematicBreak hkind := blockShows_leaf (fun _ _ ↦ rfl) (by
    rw [literalText_eq, hkind]
    rfl)
  htmlBlock hkind _ _ := blockShows_leaf (fun _ _ ↦ rfl) (by
    rw [innerTexts_text, literalText_eq, hkind])
  htmlSection hopening hclosing _ _ _ h :=
    blockShows_htmlSection (by rw [literalText_eq, hopening]) (by rw [literalText_eq, hclosing]) h

/-- **Showing raw HTML as text loses nothing.** The texts of what a syntax tree is rendered to are
the texts of the tree, with its raw HTML as it is written, in the same order. -/
theorem innerTexts_eq_literalTexts {tree : List Syntax.Node} {blocks : List Node}
    {nodes : List Markup} (hconv : ofSyntax tree = .ok blocks)
    (hrender : renderDocument ⟨soft, .dontParse⟩ .standard blocks = .ok nodes) :
    innerTexts nodes = literalTexts soft tree :=
  innerTexts_of_renderBlocks ((conversionRules_shows soft).madeAt_ofSyntax hconv) hrender

/-- Tags that cross in running text. -/
def crossingInlines : List Syntax.Node :=
  [{ kind := .htmlInline, content := "<b>" }, { kind := .text, content := "x" },
    { kind := .htmlInline, content := "<i>" }, { kind := .softBreak },
    { kind := .htmlInline, content := "</b>" }, { kind := .htmlInline, content := "</i>" }]

/-- A paragraph with tags that cross, and a section around a rule. -/
def crossingTags : List Syntax.Node :=
  [{ kind := .paragraph, children := [{ kind := .inline, children := crossingInlines }] },
    { kind := .htmlBlock, content := "<div>y" }, { kind := .hr },
    { kind := .htmlBlock, content := "</div>" }]

/-- The document of the tree: the tag that is left open becomes an element, and its end tag, which
stands outside, raw HTML. -/
def crossingBlocks : List Node :=
  [.paragraph [.htmlElement "b" []
      [.text "x", .htmlElement "i" [] [] "<i>" "" false, .softBreak] "<b>" "</b>" false,
      .rawHtml "</i>"],
    .htmlSection "div" [] [.text "y"] [.thematicBreak] "<div>y" "</div>"]

theorem ofSyntax_crossingTags : ofSyntax crossingTags = .ok crossingBlocks := by
  have hpairs : Syntax.pairTags .htmlBlock crossingTags = [(1, 3)] := by decide
  have hbuild (a b c d : Document.Sibling) :
      Syntax.Nest.build [(1, 3)] 0 [a, b, c, d] = [.leaf a, .pair b [.leaf c] d] := by
    with_unfolding_all rfl
  have hparts : Document.ofParts [{ kind := .inline, children := crossingInlines }] 1 =
      .ok [.htmlElement "b" []
          [.text "x", .htmlElement "i" [] [] "<i>" "" false, .softBreak] "<b>" "</b>" false,
        .rawHtml "</i>"] := by
    with_unfolding_all rfl
  have hparse : Html.parse "<div>y" = .ok [.element "div" [] [.text "y"]] := by
    with_unfolding_all rfl
  have hstart : Document.sectionStart "<div>y" 1 = .ok ("div", [], [.text "y"]) := by
    rw [Document.sectionStart, Document.readHtml, hparse]
    rfl
  rw [ofSyntax, Document.ofBlocks, Document.map_node_blockSiblings, hpairs]
  simp only [crossingTags, Document.blockSiblings, hbuild, Document.ofBlockNests,
    Document.ofBlockNest, Document.ofBlock, hparts, hstart]
  rfl

theorem innerTexts_crossingTags :
    ofSyntax crossingTags = .ok crossingBlocks ∧
      ∃ nodes, renderDocument ⟨false, .dontParse⟩ .standard crossingBlocks = .ok nodes ∧
        innerTexts nodes = literalTexts false crossingTags ∧
          literalTexts false crossingTags = "<b>x<i>\n</b></i><div>y</div>" := by
  have hrender : renderDocument ⟨false, .dontParse⟩ .standard crossingBlocks =
      .ok [.element "p" [] [.text "<b>", .text "x", .text "<i>", .text "\n", .text "</b>",
        .text "</i>"], .text "<div>y", .element "hr" [] [], .text "</div>"] := rfl
  exact ⟨ofSyntax_crossingTags, _, hrender,
    innerTexts_eq_literalTexts ofSyntax_crossingTags hrender, by rfl⟩

end SafeMarkdown
