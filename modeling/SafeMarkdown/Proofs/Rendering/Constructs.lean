import SafeMarkdown.Proofs.Renderer.Table
import SafeMarkdown.Proofs.Rendering.Observation
import SafeMarkdown.Proofs.Rendering.Strictness

/-!
# Markdown constructs and the mode of raw HTML

Each construct of a document goes to its own renderer, once, at its place and with its own data,
and what becomes of the raw HTML around it makes no difference. To see this, every renderer is
replaced by a wrapper with a tag of its own. The elements with these tags, in document order, then
tell which renderer was called for what, and `constructs_of_renderDocument` says that they are the
constructs of the document, whether its raw HTML is kept, filtered or shown as text.

The tags have to be told apart, from one another, from that of list items and from those of the
raw HTML. Two things in a document could make a mode hide a construct: Markdown that stands in what
was read from an HTML block, and void elements with children. The theorem asks for documents without
them.
-/

namespace SafeMarkdown

open Document (Node PlacedNode placedNodes nodesOf)
open Markup (observe observe_element observe_text)

/-- The construct of a node, and the data of it that a wrapper writes into attributes. The end of a
line counts as a line break where it is rendered as one, and a paragraph in an item of a tight list
is one that is not to be wrapped. -/
def Document.PlacedNode.construct? (soft : Bool) : PlacedNode → Option (Construct × List Attr)
  | ⟨_, .heading level _⟩ => some (.heading, [("data-level", toString level)])
  | ⟨tight, .paragraph _⟩ => some (.paragraph, [("data-wrap", if tight then "false" else "true")])
  | ⟨_, .blockQuote _⟩ => some (.blockQuote, [])
  | ⟨_, .codeBlock block⟩ => some (.code, optionalAttr "data-language" block.language)
  | ⟨_, .list kind _ _⟩ => some (.list, Wrapper.startAttr kind)
  | ⟨_, .thematicBreak⟩ => some (.thematicBreak, [])
  | ⟨_, .softBreak⟩ => if soft then some (.hardLineBreak, []) else none
  | ⟨_, .hardBreak⟩ => some (.hardLineBreak, [])
  | ⟨_, .codeSpan _⟩ => some (.codeSpan, [])
  | ⟨_, .emphasis _⟩ => some (.emphasis, [])
  | ⟨_, .strong _⟩ => some (.strongEmphasis, [])
  | ⟨_, .link link _⟩ =>
    some (.link, ("data-url", link.url) :: optionalAttr "data-title" link.title)
  | ⟨_, .image image⟩ =>
    some (.image, ("data-alt", image.alt) :: ("data-src", image.src) ::
      optionalAttr "data-title" image.title)
  | _ => none

/-- The construct whose wrapper has the tag of an element, and the attributes of the element. -/
def Markup.construct? (w : Construct → Wrapper) : Markup → Option (Construct × List Attr)
  | text _ => none
  | element tag attrs _ =>
    (Construct.all.find? fun c ↦ (w c).tag = tag).map fun c ↦ (c, attrs)

/-- A construct as its wrapper marks it: the wrapper's attributes come before the data. -/
def Wrapper.mark (w : Construct → Wrapper) (e : Construct × List Attr) : Construct × List Attr :=
  (e.1, (w e.1).attrs ++ e.2)

variable {w : Construct → Wrapper}

/-- An element with a tag of its own is no construct. -/
theorem construct?_eq_none {tag : String} (h : ∀ c, (w c).tag ≠ tag) (attrs : List Attr)
    (content : List Markup) : Markup.construct? w (.element tag attrs content) = none := by
  have hfind : (Construct.all.find? fun c ↦ (w c).tag = tag) = none :=
    List.find?_eq_none.2 fun c _ ↦ by simpa using h c
  rw [Markup.construct?, hfind, Option.map_none]

/-- Tags that differ tell the wrappers apart. -/
theorem find?_tag_eq (htags : ∀ c d, (w c).tag = (w d).tag → c = d) (c : Construct) :
    (Construct.all.find? fun d ↦ (w d).tag = (w c).tag) = some c := by
  cases hfind : Construct.all.find? fun d ↦ (w d).tag = (w c).tag with
  | none =>
    have hnot := List.find?_eq_none.1 hfind c (Construct.mem_all c)
    exact absurd (decide_eq_true rfl) hnot
  | some d =>
    have htag : (w d).tag = (w c).tag := by simpa using List.find?_some hfind
    rw [htags d c htag]

/-- A wrapper's element shows its construct and then its content. -/
theorem observe_wrapper (htags : ∀ c d, (w c).tag = (w d).tag → c = d) (c : Construct)
    (data : List Attr) (content : List Markup) :
    observe (Markup.construct? w) [(w c).element data content] =
      Wrapper.mark w (c, data) :: observe (Markup.construct? w) content := by
  rw [Wrapper.element, observe_element, Markup.construct?, find?_tag_eq htags]
  rfl

/-- Wrappers around all constructs mark each of them, with its data. -/
theorem wrapped_mirrors (htags : ∀ c d, (w c).tag = (w d).tag → c = d) (soft : Bool) :
    (Renderers.wrapped w).Mirrors soft (fun m ↦ (m.construct? soft).map (Wrapper.mark w))
      (Markup.construct? w) where
  heading _ _ _ content := observe_wrapper htags .heading _ content
  paragraph tight _ content := by
    cases tight with
    | false => exact observe_wrapper htags .paragraph _ content
    | true => exact observe_wrapper htags .paragraph _ content
  blockQuote _ _ content := observe_wrapper htags .blockQuote [] content
  code _ block := observe_wrapper htags .code _ [.text block.code]
  list _ _ _ _ content := observe_wrapper htags .list _ content
  thematicBreak _ := observe_wrapper htags .thematicBreak [] []
  softBreak _ := by
    cases soft with
    | false => exact observe_text _ "\n"
    | true => exact observe_wrapper htags .hardLineBreak [] []
  hardBreak _ := observe_wrapper htags .hardLineBreak [] []
  codeSpan _ text := observe_wrapper htags .codeSpan [] [.text text]
  emphasis _ _ content := observe_wrapper htags .emphasis [] content
  strong _ _ content := observe_wrapper htags .strongEmphasis [] content
  link _ _ _ content := observe_wrapper htags .link _ content
  image _ _ := observe_wrapper htags .image _ []

/-- Raw HTML at the node neither hides a construct nor looks like one. -/
structure Document.Node.Transparent (w : Construct → Wrapper) (n : Node) : Prop where
  void : n.VoidChildless
  html : n.HoldsHtml
  tag : ∀ tag, n.rawTag? = some tag → ∀ c, (w c).tag ≠ tag

theorem mirrors_constructs (htags : ∀ c d, (w c).tag = (w d).tag → c = d)
    (hitem : ∀ c, (w c).tag ≠ "li") (o : Options) :
    Mirrors o (Renderers.wrapped w) (Node.Transparent w)
      (fun m ↦ (m.construct? o.softAsHardLineBreak).map (Wrapper.mark w))
      (Markup.construct? w) where
  renderers := wrapped_mirrors htags o.softAsHardLineBreak
  text _ _ := rfl
  item content := construct?_eq_none hitem [] content
  raw _ n hn := by
    cases n with
    | htmlBlock | htmlSection | htmlElement | rawHtml => rfl
    | _ => exact hn.elim
  kept hn htag attrs content := construct?_eq_none (hn.tag _ htag) attrs content
  shown _ _ := rfl
  void hn := hn.void
  html _ _ hn := hn.html

/-- **The mode of raw HTML never affects the constructs.** Let every construct have a wrapper, with
tags that differ from one another, from that of list items and from those of the raw HTML in a
document. If the document can be rendered with its raw HTML kept, then it can be rendered in every
mode, and the wrappers' elements in the markup are exactly the constructs of the document: each
once, in document order, by its own renderer and with its own data. -/
theorem constructs_of_renderDocument {order : List Construct} (horder : order.Perm Construct.all)
    (htags : ∀ c d, (w c).tag = (w d).tag → c = d) (hitem : ∀ c, (w c).tag ≠ "li")
    {blocks : List Node} (hblocks : ∀ n ∈ nodesOf blocks, n.Transparent w) :
    ∃ r, Renderers.ofWrappers (order.map fun c ↦ (.name c.name, w c)) = .ok r ∧
      ∀ soft nodes, renderDocument ⟨soft, .parseUnsafe⟩ r blocks = .ok nodes → ∀ mode,
        ∃ out, renderDocument ⟨soft, mode⟩ r blocks = .ok out ∧
          (Markup.preorders out).filterMap (Markup.construct? w) =
            ((placedNodes false blocks).filterMap (PlacedNode.construct? soft)).map
              (Wrapper.mark w) := by
  refine ⟨_, Renderers.ofWrappers_eq_wrapped w horder, fun soft nodes h mode ↦ ?_⟩
  obtain ⟨out, hout⟩ := succeeds_renderDocument_of_parseUnsafe h mode
  refine ⟨out, hout, ?_⟩
  rw [List.map_filterMap]
  exact (mirrors_constructs htags hitem ⟨soft, mode⟩).observe_renderDocument hblocks hout

/-- Every construct wrapped into an element that bears its name. -/
def namedWrapper (c : Construct) : Wrapper := ⟨c.name, [("role", "construct")]⟩

/-- A tight list with a line end in one block and, in another, a section around an element. -/
def nestedConstructs : List Node :=
  [.list .unordered
    [[.paragraph [.text "a", .softBreak],
      .htmlSection "div" [] [.text "b"]
        [.paragraph [.htmlElement "b" [] [.emphasis [.codeSpan "c"]] "<b>" "</b>" false]]
        "<div>b" "</div>"]] true]

theorem constructs_of_nestedConstructs :
    Construct.all.reverse.Perm Construct.all ∧
      (∀ c d, (namedWrapper c).tag = (namedWrapper d).tag → c = d) ∧
      (∀ c, (namedWrapper c).tag ≠ "li") ∧
      (∀ n ∈ nodesOf nestedConstructs, n.Transparent namedWrapper) ∧
      ∃ r, Renderers.ofWrappers
          (Construct.all.reverse.map fun c ↦ (.name c.name, namedWrapper c)) = .ok r ∧
        ∀ mode, ∃ out, renderDocument ⟨true, mode⟩ r nestedConstructs = .ok out ∧
          (Markup.preorders out).filterMap (Markup.construct? namedWrapper) =
            [(.list, [("role", "construct")]),
              (.paragraph, [("role", "construct"), ("data-wrap", "false")]),
              (.hardLineBreak, [("role", "construct")]),
              (.paragraph, [("role", "construct"), ("data-wrap", "true")]),
              (.emphasis, [("role", "construct")]), (.codeSpan, [("role", "construct")])] := by
  have horder : Construct.all.reverse.Perm Construct.all := List.reverse_perm _
  have htags : ∀ c d, (namedWrapper c).tag = (namedWrapper d).tag → c = d := fun _ _ h ↦
    Construct.name_injective h
  have hitem : ∀ c, (namedWrapper c).tag ≠ "li" := fun c ↦ by cases c <;> decide
  have hvoid : ∀ n ∈ nodesOf nestedConstructs, n.VoidChildless := by
    simp [nestedConstructs, nodesOf, Document.nodesOfItems, Node.inside, Node.VoidChildless]
  have hhtml : ∀ n ∈ nodesOf nestedConstructs, n.HoldsHtml := by
    simp [nestedConstructs, nodesOf, Document.nodesOfItems, Node.inside, Node.HoldsHtml,
      Node.IsHtml]
  have hnames : ∀ c, (namedWrapper c).tag ≠ "div" ∧ (namedWrapper c).tag ≠ "b" := fun c ↦ by
    cases c <;> decide
  have htag : ∀ n ∈ nodesOf nestedConstructs, ∀ tag, n.rawTag? = some tag →
      ∀ c, (namedWrapper c).tag ≠ tag := by
    simp [nestedConstructs, nodesOf, Document.nodesOfItems, Node.inside, Node.rawTag?, hnames]
  have hblocks : ∀ n ∈ nodesOf nestedConstructs, n.Transparent namedWrapper := fun n hn ↦
    ⟨hvoid n hn, hhtml n hn, htag n hn⟩
  obtain ⟨r, hr, hrender⟩ := constructs_of_renderDocument horder htags hitem hblocks
  obtain rfl : Renderers.wrapped namedWrapper = r :=
    Except.ok.inj ((Renderers.ofWrappers_eq_wrapped namedWrapper horder).symm.trans hr)
  exact ⟨horder, htags, hitem, hblocks, _, hr, hrender true _ rfl⟩

end SafeMarkdown
