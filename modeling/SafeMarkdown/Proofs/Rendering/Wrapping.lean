import SafeMarkdown.Proofs.Conversion.Sorted
import SafeMarkdown.Proofs.Conversion.WellFormed
import SafeMarkdown.Proofs.Rendering.Observation
import SafeMarkdown.Proofs.Syntax.Paragraphs

/-!
# Which paragraphs are wrapped

A parser hides the paragraphs of tight lists, one by one. Conversion keeps one flag for each list,
and rendering spreads the flag over the paragraphs again, but only over those directly in the items.
In between there are two ways to lose one's place: lists and block quotes inside items, and
sections, which take blocks out of the list that they stand in.

The first does no harm: a paragraph is wrapped when the parser did not hide it, at any depth. The
second shows: the blocks of a section are never those of an item, so there a paragraph is wrapped
although the parser hid it. `wraps_of_renderDocument` says that this is all. The paragraphs are
recognised by an element that a wrapper puts around each, with the argument of the renderer in an
attribute.

## The way through conversion

Hiding is a mark of the parser on each paragraph, and a list is flagged as tight when no paragraph
directly in its items is without the mark. So the statement is about trees that are marked as the
parser marks them (`MarkedTree`): of the paragraphs directly in the items of one list all are hidden
or none is. Under that assumption the flag says of each of them what its mark says, and the
induction over conversion carries along which paragraphs have been taken into a section.
-/

namespace SafeMarkdown

open Document (Node PlacedNode placedNodes placedItems nodesOf Sibling SortedInlines SortedBlocks
  SortedItems ofSyntax ofBlocks ofBlockNest ofBlockNests blockSiblings itemSiblings isTight
  BlockEnds nestNodes nestsNodes)
open Markup (observe observe_element observe_text)
open Syntax (Nest ForallList HiddenAre Marked MarkedAll MarkedItems MarkedTree paragraphs
  paragraphsOf paragraphsOfItems paragraphsOf_append flagsOf inSection)

/-- Whether a paragraph is to be wrapped in its place; nothing for other nodes. -/
def Document.PlacedNode.wrap? : PlacedNode → Option Bool
  | ⟨tight, .paragraph _⟩ => some !tight
  | _ => none

/-- Whether a paragraph of a syntax tree is wrapped: the parser did not hide it, or it stands in a
section. -/
def Syntax.isWrapped (p : Bool × Syntax.Node) : Bool :=
  !p.2.hidden || p.1

/-! ### Inlines hold no paragraphs -/

mutual

/-- An inline holds no paragraph to wrap. -/
theorem filterMap_wrap?_inline : ∀ {n : Node} {tight : Bool}, n.SortedInline →
    ((⟨tight, n⟩ : PlacedNode) :: n.placedInside).filterMap PlacedNode.wrap? = []
  | .text _, _, _ | .softBreak, _, _ | .hardBreak, _, _ | .codeSpan _, _, _ | .image _, _, _
  | .rawHtml _, _, _ => rfl
  | .emphasis children, _, h | .strong children, _, h | .link _ children, _, h
  | .htmlElement _ _ children _ _ _, _, h => by
    have hinside : (placedNodes false children).filterMap PlacedNode.wrap? = [] :=
      filterMap_wrap?_inlines h
    exact hinside

/-- Neither does a list of inlines. -/
theorem filterMap_wrap?_inlines : ∀ {ns : List Node} {tight : Bool}, SortedInlines ns →
    (placedNodes tight ns).filterMap PlacedNode.wrap? = []
  | [], _, _ => rfl
  | n :: ns, tight, ⟨hn, hns⟩ => by
    rw [placedNodes, ← List.cons_append, List.filterMap_append, filterMap_wrap?_inline hn,
      filterMap_wrap?_inlines hns, List.nil_append]

end

/-! ### From siblings to blocks -/

/-- The paragraphs of the block that a sibling is converted to are wrapped as those of the sibling
are, where the sibling stands in a list of that tightness, inside a section or not. -/
def Document.Sibling.WrapsAs (tight : Bool) (s : Sibling) : Prop :=
  ∀ {depth : Nat} {n : Node} (sectioned : Bool), s.convert depth = .ok n → n.SortedBlock →
    ((⟨tight && !sectioned, n⟩ : PlacedNode) :: n.placedInside).filterMap PlacedNode.wrap? =
      (paragraphs sectioned s.node).map Syntax.isWrapped

section Nests

variable {tight : Bool}

mutual

/-- The paragraphs in the node for a nest are those of its siblings, each wrapped as its place says.
-/
theorem wraps_of_ofBlockNest {sectioned : Bool} {depth : Nat} : ∀ {x : Nest Sibling} {n : Node},
    x.Forall (Sibling.WrapsAs tight) BlockEnds → ofBlockNest depth x = .ok n → n.SortedBlock →
      ((⟨tight && !sectioned, n⟩ : PlacedNode) :: n.placedInside).filterMap PlacedNode.wrap? =
        (paragraphsOf (x.flags sectioned) (nestNodes x)).map Syntax.isWrapped
  | .leaf s, n, hs, h, hsorted => by
    rw [Document.nestNodes_leaf, Nest.flags, Syntax.paragraphsOf_singleton]
    exact hs sectioned h hsorted
  | .pair opening inner closing, _, ⟨⟨tag, hopening, hclosing⟩, hinner⟩, h, hsorted => by
    rw [ofBlockNest] at h
    obtain ⟨⟨tag', attrs, leading⟩, -, h⟩ := bind_eq_ok_iff.1 h
    obtain ⟨children, hchildren, h⟩ := bind_eq_ok_iff.1 h
    cases h
    obtain ⟨hleading, hblocks⟩ := hsorted
    -- a section resets tightness, as if its blocks stood in no item
    have hinside : (placedNodes (tight && !true) children).filterMap PlacedNode.wrap? =
        (paragraphsOf (flagsOf true inner) (nestsNodes inner)).map Syntax.isWrapped :=
      wraps_of_ofBlockNests hinner hchildren hblocks
    rw [Bool.not_true, Bool.and_false] at hinside
    -- and its two ends are HTML blocks, which hold no paragraphs
    have hopens : paragraphs sectioned opening.node = [] :=
      Syntax.paragraphs_of_kind_eq_htmlBlock (Syntax.kind_eq_of_role (by simp [hopening])) sectioned
    have hcloses : paragraphs sectioned closing.node = [] :=
      Syntax.paragraphs_of_kind_eq_htmlBlock (Syntax.kind_eq_of_role (by simp [hclosing])) sectioned
    have hlen : (flagsOf true inner).length = (nestsNodes inner).length := by
      rw [Syntax.length_flagsOf, nestsNodes, List.length_map]
    have hsection : (⟨tight && !sectioned, .htmlSection tag' attrs leading children
        opening.node.content closing.node.content⟩ : PlacedNode).wrap? = none := rfl
    rw [Document.nestNodes_pair, Nest.flags, Syntax.paragraphsOf_between hlen hopens hcloses,
      ← hinside, List.filterMap_cons_none hsection, Node.placedInside, List.filterMap_append,
      filterMap_wrap?_inlines hleading, List.nil_append]

theorem wraps_of_ofBlockNests {sectioned : Bool} {depth : Nat} :
    ∀ {xs : List (Nest Sibling)} {ns : List Node}, ForallList (Sibling.WrapsAs tight) BlockEnds xs →
      ofBlockNests depth xs = .ok ns → SortedBlocks ns →
        (placedNodes (tight && !sectioned) ns).filterMap PlacedNode.wrap? =
          (paragraphsOf (flagsOf sectioned xs) (nestsNodes xs)).map Syntax.isWrapped
  | [], _, _, h, _ => by
    obtain ⟨-, -, h⟩ := bind_eq_ok_iff.1 h
    cases h
    rfl
  | x :: xs, _, ⟨hx, hxs⟩, h, hsorted => by
    obtain ⟨first, rest, hfirst, hrest, rfl⟩ := exists_of_checked_eq_ok h
    have hlen : (x.flags sectioned).length = (nestNodes x).length := by
      rw [Syntax.length_flags, nestNodes, List.length_map]
    rw [placedNodes, ← List.cons_append, List.filterMap_append,
      wraps_of_ofBlockNest hx hfirst hsorted.1, wraps_of_ofBlockNests hxs hrest hsorted.2, flagsOf,
      Document.nestsNodes_cons, paragraphsOf_append hlen, List.map_append]

end

/-- The same of a converted list. -/
theorem wraps_of_ofBlocks {ns : List Syntax.Node} {depth : Nat} {blocks : List Node}
    (hs : ∀ s ∈ blockSiblings ns, s.WrapsAs tight)
    (h : ofBlocks (blockSiblings ns) depth = .ok blocks) (hsorted : SortedBlocks blocks) :
    (placedNodes tight blocks).filterMap PlacedNode.wrap? =
      (paragraphsOf (inSection ns) ns).map Syntax.isWrapped := by
  have hnests : (placedNodes (tight && !false) blocks).filterMap PlacedNode.wrap? = _ :=
    wraps_of_ofBlockNests (Document.forallList_blocks hs) h hsorted
  rwa [← Syntax.inSection_map, Bool.not_false, Bool.and_true, Document.nestsNodes_build,
    Document.map_node_blockSiblings] at hnests

end Nests

/-! ### From one flag to many -/

/-- A list whose paragraphs are hidden together has them hidden exactly when it is tight. -/
theorem hiddenAre_isTight {items : List Syntax.Node}
    (h : ∃ hidden, HiddenAre hidden (items.flatMap Syntax.Node.children)) :
    HiddenAre (isTight items) (items.flatMap Syntax.Node.children) := by
  obtain ⟨hidden, h⟩ := h
  intro n hn hkind
  cases htight : isTight items with
  | true =>
    have hall := List.all_eq_true.1 htight n hn
    simpa [hkind] using hall
  | false =>
    -- some paragraph is not hidden, so none of them is
    obtain ⟨m, hm, hshown⟩ := List.all_eq_false.1 htight
    obtain ⟨hmkind, hmhidden⟩ : m.kind = .paragraph ∧ m.hidden = false := by
      simpa using hshown
    rw [h n hn hkind, ← h m hm hmkind, hmhidden]

mutual

/-- **The conversion of a block wraps its paragraphs as their places say.** -/
theorem wrapsAs_ofBlock {tight : Bool} : ∀ n : Syntax.Node, Marked n →
    (n.kind = .paragraph → n.hidden = tight) → (⟨n, Document.ofBlock n⟩ : Sibling).WrapsAs tight
  | ⟨kind, content, tag, info, hidden, attrs, children⟩, hmarked, hhidden, depth, m, sectioned, h,
      hsorted => by
    cases kind <;> simp only [Document.ofBlock] at h
    case paragraph =>
      obtain ⟨cs, -, rfl⟩ := map_eq_ok_iff.1 h
      obtain rfl : hidden = tight := hhidden rfl
      have hwrap : (⟨hidden && !sectioned, .paragraph cs⟩ : PlacedNode).wrap? =
          some (!hidden || sectioned) := by
        rw [PlacedNode.wrap?, Bool.not_and, Bool.not_not]
      rw [List.filterMap_cons_some hwrap, Node.placedInside, filterMap_wrap?_inlines hsorted]
      rfl
    case heading =>
      obtain ⟨level, -, h⟩ := bind_eq_ok_iff.1 h
      obtain ⟨cs, -, rfl⟩ := map_eq_ok_iff.1 h
      have hinside : (placedNodes false cs).filterMap PlacedNode.wrap? = [] :=
        filterMap_wrap?_inlines hsorted
      exact hinside
    case blockquote =>
      obtain ⟨cs, hcs, rfl⟩ := map_eq_ok_iff.1 h
      exact wraps_of_ofBlocks (wrapsAs_blockSiblings children hmarked.2 hmarked.1) hcs hsorted
    case fence | codeBlock | hr =>
      cases h
      rfl
    case bulletList =>
      obtain ⟨items, hitems, h⟩ := bind_eq_ok_iff.1 h
      cases h
      exact wraps_of_itemSiblings children hmarked.2 (hiddenAre_isTight hmarked.1) hitems hsorted
    case orderedList =>
      obtain ⟨start, -, h⟩ := bind_eq_ok_iff.1 h
      obtain ⟨items, hitems, h⟩ := bind_eq_ok_iff.1 h
      cases h
      exact wraps_of_itemSiblings children hmarked.2 (hiddenAre_isTight hmarked.1) hitems hsorted
    case htmlBlock =>
      obtain ⟨nodes, -, h⟩ := bind_eq_ok_iff.1 h
      obtain ⟨cs, -, h⟩ := bind_eq_ok_iff.1 h
      cases h
      have hinside : (placedNodes false cs).filterMap PlacedNode.wrap? = [] :=
        filterMap_wrap?_inlines hsorted
      exact hinside
    all_goals cases h

/-- So does that of every sibling. -/
theorem wrapsAs_blockSiblings {tight : Bool} : ∀ ns : List Syntax.Node, MarkedAll ns →
    HiddenAre tight ns → ∀ s ∈ blockSiblings ns, s.WrapsAs tight
  | [], _, _, _, hs => by simp [blockSiblings] at hs
  | n :: ns, ⟨hn, hns⟩, hhidden, s, hs => by
    obtain ⟨hhead, htail⟩ := List.forall_mem_cons.1 hhidden
    rcases List.mem_cons.1 hs with rfl | hs
    · exact wrapsAs_ofBlock n hn hhead
    · exact wrapsAs_blockSiblings ns hns htail s hs

/-- So does that of the items of a list. -/
theorem wraps_of_itemSiblings {tight : Bool} {depth : Nat} :
    ∀ (ns : List Syntax.Node) {items : List (List Node)}, MarkedItems ns →
      HiddenAre tight (ns.flatMap Syntax.Node.children) →
        ((itemSiblings ns).mapM fun item ↦ ofBlocks item depth) = .ok items → SortedItems items →
          (placedItems tight items).filterMap PlacedNode.wrap? =
            (paragraphsOfItems ns).map Syntax.isWrapped
  | [], _, _, _, h, _ => by
    cases h
    rfl
  | ⟨_, _, _, _, _, _, children⟩ :: ns, _, ⟨hitem, hns⟩, hhidden, h, hsorted => by
    rw [itemSiblings, List.mapM_cons] at h
    obtain ⟨first, hfirst, h⟩ := bind_eq_ok_iff.1 h
    obtain ⟨rest, hrest, h⟩ := bind_eq_ok_iff.1 h
    cases h
    rw [List.flatMap_cons] at hhidden
    obtain ⟨hhead, htail⟩ := List.forall_mem_append.1 hhidden
    rw [placedItems, List.filterMap_append,
      wraps_of_ofBlocks (wrapsAs_blockSiblings children hitem hhead) hfirst hsorted.1,
      wraps_of_itemSiblings ns hns htail hrest hsorted.2, paragraphsOfItems, List.map_append]

end

/-- Conversion keeps for every paragraph whether it is wrapped. -/
theorem wraps_of_ofSyntax {tree : List Syntax.Node} (hmarked : MarkedTree tree)
    {blocks : List Node} (h : ofSyntax tree = .ok blocks) :
    (placedNodes false blocks).filterMap PlacedNode.wrap? =
      (paragraphsOf (inSection tree) tree).map Syntax.isWrapped :=
  wraps_of_ofBlocks (wrapsAs_blockSiblings tree hmarked.2 hmarked.1) h
    (Document.sortedBlocks_of_ofSyntax h)

/-! ### From blocks to markup -/

/-- The argument of the renderer that the wrapper of paragraphs records in its last attribute, where
the wrapper has that tag. -/
def Markup.recordedWrap? (tag : String) : Markup → Option Bool
  | .text _ => none
  | .element other attrs _ =>
    if other = tag then some (attrs.getLast? == some ("data-wrap", "true")) else none

/-- An element of another tag records nothing by itself. -/
theorem observe_of_ne {tag other : String} (h : other ≠ tag) (attrs : List Attr)
    (content : List Markup) :
    observe (Markup.recordedWrap? tag) [.element other attrs content] =
      observe (Markup.recordedWrap? tag) content := by
  rw [observe_element, Markup.recordedWrap?, if_neg h, Option.toList_none, List.nil_append]

/-- A wrapper around paragraphs whose tag no other renderer uses records how each is rendered. -/
theorem overridden_mirrors {w : Wrapper} (hw : w.tag ∉ Renderers.standardTags) (soft : Bool) :
    (Renderers.standard.override .paragraph w).Mirrors soft PlacedNode.wrap?
      (Markup.recordedWrap? w.tag) := by
  have hne {tag : String} (htag : tag ∈ Renderers.standardTags) : tag ≠ w.tag :=
    fun heq ↦ hw (heq ▸ htag)
  have hleaf {tag : String} (htag : tag ∈ Renderers.standardTags) (attrs : List Attr) :
      observe (Markup.recordedWrap? w.tag) [.element tag attrs []] = [] :=
    observe_of_ne (hne htag) attrs []
  have hcode (attrs : List Attr) (text : String) :
      observe (Markup.recordedWrap? w.tag) [.element "code" attrs [.text text]] = [] :=
    observe_of_ne (hne (by decide)) attrs [.text text]
  exact {
    heading := fun _ level _ content ↦
      observe_of_ne (hne (Renderers.headingTag_mem level)) [] content
    paragraph := fun tight _ content ↦ by
      show observe _ [.element w.tag
        (w.attrs ++ [("data-wrap", if !tight then "true" else "false")]) content] = _
      rw [observe_element, Markup.recordedWrap?, if_pos rfl, List.getLast?_concat]
      cases tight <;> rfl
    blockQuote := fun _ _ content ↦ observe_of_ne (hne (by decide)) [] content
    code := fun _ block ↦ (observe_of_ne (hne (by decide)) [] _).trans (hcode _ block.code)
    list := fun _ kind _ _ content ↦ by
      cases kind with
      | unordered => exact observe_of_ne (hne (by decide)) [] content
      | ordered start => exact observe_of_ne (hne (by decide)) _ content
    thematicBreak := fun _ ↦ hleaf (by decide) []
    softBreak := fun _ ↦ by
      cases soft with
      | false => exact observe_text _ "\n"
      | true => exact hleaf (by decide) []
    hardBreak := fun _ ↦ hleaf (by decide) []
    codeSpan := fun _ text ↦ hcode [] text
    emphasis := fun _ _ content ↦ observe_of_ne (hne (by decide)) [] content
    strong := fun _ _ content ↦ observe_of_ne (hne (by decide)) [] content
    link := fun _ _ _ content ↦ observe_of_ne (hne (by decide)) _ content
    image := fun _ _ ↦ hleaf (by decide) _ }

/-- With its raw HTML kept, a document whose raw elements have other tags than the wrapper shows
exactly how its paragraphs are rendered. -/
theorem mirrors_wraps {w : Wrapper} (hw : w.tag ∉ Renderers.standardTags) (soft : Bool) :
    Mirrors ⟨soft, .parseUnsafe⟩ (Renderers.standard.override .paragraph w)
      (fun n ↦ n.VoidChildless ∧ n.rawTag? ≠ some w.tag) PlacedNode.wrap?
      (Markup.recordedWrap? w.tag) where
  renderers := overridden_mirrors hw soft
  text _ _ := rfl
  item _ := by
    have hne : "li" ≠ w.tag := fun heq ↦ hw (heq ▸ by decide)
    exact if_neg hne
  raw _ n hn := by
    cases n with
    | htmlBlock | htmlSection | htmlElement | rawHtml => rfl
    | _ => exact hn.elim
  kept {n tag} hn htag _ _ := by
    have hne : tag ≠ w.tag := fun heq ↦ hn.2 (heq ▸ htag)
    exact if_neg hne
  shown _ _ := rfl
  void hn := hn.1
  html hmode := HtmlMode.noConfusion hmode

/-- In a well-formed node, a void element has no children to look at. -/
theorem Document.Node.WellFormed.voidChildless {n : Node} (h : n.WellFormed) : n.VoidChildless := by
  cases n with
  | htmlElement => exact h.1
  | _ => trivial

/-- **A paragraph is wrapped when the parser did not hide it, and in sections.** Let the paragraphs
of a syntax tree be hidden list by list, and let a wrapper with a tag of its own stand for the
renderer of paragraphs. When the tree is converted and the document is rendered with its raw HTML
kept, what the wrapper recorded is, paragraph by paragraph of the tree, whether the parser left it
unhidden or it stands between two HTML blocks that become a section. -/
theorem wraps_of_renderDocument {tree : List Syntax.Node} {blocks : List Node}
    {nodes : List Markup} {w : Wrapper} {soft : Bool} (hmarked : MarkedTree tree)
    (hw : w.tag ∉ Renderers.standardTags) (hconvert : ofSyntax tree = .ok blocks)
    (hraw : ∀ n ∈ nodesOf blocks, n.rawTag? ≠ some w.tag)
    (hrender : renderDocument ⟨soft, .parseUnsafe⟩ (Renderers.standard.override .paragraph w)
      blocks = .ok nodes) :
    (Markup.preorders nodes).filterMap (Markup.recordedWrap? w.tag) =
      (paragraphsOf (inSection tree) tree).map fun p ↦ !p.2.hidden || p.1 := by
  have hvoid : ∀ n ∈ nodesOf blocks, n.VoidChildless := fun n hn ↦
    (Document.wellFormed_of_ofBlocks hconvert n hn).voidChildless
  have hseen := (mirrors_wraps hw soft).observe_renderDocument
    (fun n hn ↦ ⟨hvoid n hn, hraw n hn⟩) hrender
  exact hseen.trans (wraps_of_ofSyntax hmarked hconvert)

/-- A paragraph of one text. -/
def textParagraph (text : String) (hidden : Bool) : Syntax.Node :=
  { kind := .paragraph, hidden := hidden,
    children := [{ kind := .inline, children := [{ kind := .text, content := text }] }] }

/-- An HTML block. -/
def htmlPiece (source : String) : Syntax.Node :=
  { kind := .htmlBlock, content := source }

/-- An item of a tight list with a paragraph, a quoted one, and one in a section. -/
def quoteAndSection : List Syntax.Node :=
  [{ kind := .bulletList, children := [{ kind := .listItem, children := [textParagraph "a" true,
    { kind := .blockquote, children := [textParagraph "b" false] }, htmlPiece "<div>",
    textParagraph "c" true, htmlPiece "</div>"] }] }]

theorem wraps_quoteAndSection :
    ∃ blocks nodes, MarkedTree quoteAndSection ∧ "x-p" ∉ Renderers.standardTags ∧
      ofSyntax quoteAndSection = .ok blocks ∧ (∀ n ∈ nodesOf blocks, n.rawTag? ≠ some "x-p") ∧
      renderDocument ⟨false, .parseUnsafe⟩ (Renderers.standard.override .paragraph ⟨"x-p", []⟩)
        blocks = .ok nodes ∧
      (Markup.preorders nodes).filterMap (Markup.recordedWrap? "x-p") =
        (paragraphsOf (inSection quoteAndSection) quoteAndSection).map fun p ↦
          !p.2.hidden || p.1 := by
  have hmarked : MarkedTree quoteAndSection := by
    have hitem : HiddenAre true
        [textParagraph "a" true, { kind := .blockquote, children := [textParagraph "b" false] },
          htmlPiece "<div>", textParagraph "c" true, htmlPiece "</div>"] := by
      simp [HiddenAre, textParagraph, htmlPiece]
    have hquote : HiddenAre false [textParagraph "b" false] := by
      simp [HiddenAre, textParagraph]
    refine ⟨by simp [HiddenAre, quoteAndSection], ⟨⟨true, ?_⟩, ?_, trivial⟩, trivial⟩
    · simpa using hitem
    · exact ⟨trivial, ⟨hquote, trivial, trivial⟩, trivial, trivial, trivial, trivial⟩
  have hconvert : ofSyntax quoteAndSection = .ok [.list .unordered [[.paragraph [.text "a"],
      .blockQuote [.paragraph [.text "b"]],
      .htmlSection "div" [] [] [.paragraph [.text "c"]] "<div>" "</div>"]] true] := by
    with_unfolding_all rfl
  have hraw : ∀ n ∈ nodesOf [.list .unordered [[.paragraph [.text "a"],
      .blockQuote [.paragraph [.text "b"]],
      .htmlSection "div" [] [] [.paragraph [.text "c"]] "<div>" "</div>"]] true],
      n.rawTag? ≠ some "x-p" := by
    simp [nodesOf, Document.nodesOfItems, Node.inside, Node.rawTag?]
  have hrender : renderDocument ⟨false, .parseUnsafe⟩
      (Renderers.standard.override .paragraph ⟨"x-p", []⟩) [.list .unordered
        [[.paragraph [.text "a"], .blockQuote [.paragraph [.text "b"]],
          .htmlSection "div" [] [] [.paragraph [.text "c"]] "<div>" "</div>"]] true] =
      .ok [.element "ul" [] [.element "li" []
        [.element "x-p" [("data-wrap", "false")] [.text "a"],
          .element "blockquote" [] [.element "x-p" [("data-wrap", "true")] [.text "b"]],
          .element "div" [] [.element "x-p" [("data-wrap", "true")] [.text "c"]]]]] := rfl
  have hstandard : "x-p" ∉ Renderers.standardTags := by decide
  exact ⟨_, _, hmarked, hstandard, hconvert, hraw, hrender,
    wraps_of_renderDocument (w := ⟨"x-p", []⟩) hmarked hstandard hconvert hraw hrender⟩

/-- An item of a tight list with a paragraph in a section. -/
def hiddenInSection : List Syntax.Node :=
  [{ kind := .bulletList, children := [{ kind := .listItem, children := [htmlPiece "<div>",
    textParagraph "a" true, htmlPiece "</div>"] }] }]

/-- **A section takes its paragraphs out of the list.** The parser hides the paragraph, as one of a
tight list, and it is wrapped. -/
theorem wrap_ne_not_hidden :
    ∃ blocks nodes, MarkedTree hiddenInSection ∧ "x-p" ∉ Renderers.standardTags ∧
      ofSyntax hiddenInSection = .ok blocks ∧ (∀ n ∈ nodesOf blocks, n.rawTag? ≠ some "x-p") ∧
      renderDocument ⟨false, .parseUnsafe⟩ (Renderers.standard.override .paragraph ⟨"x-p", []⟩)
        blocks = .ok nodes ∧
      (Markup.preorders nodes).filterMap (Markup.recordedWrap? "x-p") = [true] ∧
      (paragraphsOf (inSection hiddenInSection) hiddenInSection).map (fun p ↦ !p.2.hidden) =
        [false] := by
  have hmarked : MarkedTree hiddenInSection := by
    have hitem : HiddenAre true
        [htmlPiece "<div>", textParagraph "a" true, htmlPiece "</div>"] := by
      simp [HiddenAre, textParagraph, htmlPiece]
    refine ⟨by simp [HiddenAre, hiddenInSection], ⟨⟨true, ?_⟩, ?_, trivial⟩, trivial⟩
    · simpa using hitem
    · exact ⟨trivial, trivial, trivial, trivial⟩
  have hconvert : ofSyntax hiddenInSection = .ok [.list .unordered
      [[.htmlSection "div" [] [] [.paragraph [.text "a"]] "<div>" "</div>"]] true] := by
    with_unfolding_all rfl
  have hraw : ∀ n ∈ nodesOf [.list .unordered
      [[.htmlSection "div" [] [] [.paragraph [.text "a"]] "<div>" "</div>"]] true],
      n.rawTag? ≠ some "x-p" := by
    simp [nodesOf, Document.nodesOfItems, Node.inside, Node.rawTag?]
  have hrender : renderDocument ⟨false, .parseUnsafe⟩
      (Renderers.standard.override .paragraph ⟨"x-p", []⟩) [.list .unordered
        [[.htmlSection "div" [] [] [.paragraph [.text "a"]] "<div>" "</div>"]] true] =
      .ok [.element "ul" [] [.element "li" [] [.element "div" []
        [.element "x-p" [("data-wrap", "true")] [.text "a"]]]]] := rfl
  have hparagraphs : (paragraphsOf (inSection hiddenInSection) hiddenInSection).map
      (fun p ↦ !p.2.hidden) = [false] := by
    with_unfolding_all rfl
  exact ⟨_, _, hmarked, by decide, hconvert, hraw, hrender, by decide, hparagraphs⟩

end SafeMarkdown
