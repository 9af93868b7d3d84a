import SafeMarkdown.Proofs.Conversion.Names
import SafeMarkdown.Proofs.Rendering.Sanitizing

/-!
# Raw text elements in the output

The text of `script` and `style` is written as it is, because a reader does not decode it. A reader
does look for the end tag in it, and nothing on the way from a syntax tree to HTML keeps that end
tag out: a text may come from Markdown, where an entity has been decoded to an angle bracket, or
from an HTML block, where an end tag with more than its name in it does not end the element.

`rawText_contained_iff` says exactly when the content of such an element holds no end tag for it.
Only the texts directly inside and the names of the elements inside matter. Everything else that
is written there is safe, because the names that get into a document hold no slash, under every
mode and every policy.

## What decides

The names settle most of it. A name without a slash cannot contribute the slash of an end tag, and
that names have none is a fact about reading (`slashFree_of_parse`) that conversion and rendering
keep. What is left are texts, which may hold anything, and the end tags of elements inside, whose
names may begin like that of the element: the end tag of an element `scripts` inside `script` begins
as that of `script` does.
-/

namespace SafeMarkdown

open Document (Node ofSyntax rawElementsOf)
open Markup (All Within slashFree HoldsEndTag SpellsEndTag preorders textRuns rawTextTags)

/-- The standard renderers use names without a slash. -/
theorem holdsStandard_slashFree : slashFree.HoldsStandard where
  tag t ht := by
    revert t
    unfold slashFree
    decide
  attr a ha := by
    revert a
    unfold slashFree
    decide

/-- What a mode keeps of the attributes of a raw element are attributes of it. -/
theorem mem_of_keptAttrs? {mode : HtmlMode} {tag : String} {attrs kept : List Attr}
    (h : mode.keptAttrs? tag attrs = some kept) : kept ⊆ attrs := by
  intro a ha
  unfold HtmlMode.keptAttrs? at h
  split at h
  · rwa [Option.some.inj h]
  · split at h
    · rw [← Option.some.inj h] at ha
      exact (List.mem_filter.1 ha).1
    · cases h
  · cases h

/-- Rendering a document that comes from a syntax tree gives markup whose names hold no slash. -/
theorem slashFree_of_renderDocument {tree : List Syntax.Node} {o : Options} {blocks : List Node}
    {nodes : List Markup} (hconv : ofSyntax tree = .ok blocks)
    (hrender : renderDocument o .standard blocks = .ok nodes) : All (Within slashFree) nodes := by
  have hclosed : Closed o .standard slashFree.Names (Within slashFree) :=
    Closed.within holdsStandard_slashFree fun hnames hkept ↦
      ⟨hnames.1, fun a ha ↦ hnames.2 a (mem_of_keptAttrs? hkept ha)⟩
  exact hclosed.forall_of_renderDocument (Document.slashFree_of_ofSyntax hconv) hrender

/-- **When a raw text element contains its text.** An element of `script` or `style` in the output
is written as a start tag, its content and an end tag, and the content holds no end tag for the
element exactly when no run of texts directly inside holds one and no element inside has a name
that begins with the same letters. -/
theorem rawText_contained_iff {tree : List Syntax.Node} {o : Options} {blocks : List Node}
    {nodes : List Markup} (hconv : ofSyntax tree = .ok blocks)
    (hrender : renderDocument o .standard blocks = .ok nodes) {t : String} {attrs : List Attr}
    {children : List Markup} (ht : t ∈ rawTextTags)
    (hmem : .element t attrs children ∈ preorders nodes) :
    (∀ raw, Markup.chars raw (.element t attrs children) =
      Markup.startTag t attrs ++ Markup.listChars true children ++ Markup.endTag t) ∧
    (¬ HoldsEndTag t (Markup.listChars true children) ↔
      (∀ run ∈ textRuns children, ¬ HoldsEndTag t run) ∧
        ∀ m ∈ preorders children, ¬ SpellsEndTag t m) := by
  have hnotVoid : ∀ t ∈ rawTextTags, t ∉ Markup.voidTags := by decide
  have hwithin : Within slashFree (.element t attrs children) :=
    Markup.within_of_mem_preorders
      (Markup.allWithin_iff.2 (slashFree_of_renderDocument hconv hrender)) hmem
  have hchildren : All (Within slashFree) children := Markup.allWithin_iff.1 hwithin.2.2
  constructor
  · intro raw
    rw [Markup.chars, if_neg fun h ↦ hnotVoid t ht h.1, decide_eq_true ht]
  · rw [Markup.holdsEndTag_content_iff ht hchildren]
    simp only [not_or, not_exists, not_and]

/-! ### A style sheet in running text -/

/-- The tags of a style sheet around a text. -/
def styledInlines (s : String) : List Syntax.Node :=
  [{ kind := .text, content := "a " }, { kind := .htmlInline, content := "<style>" },
    { kind := .text, content := s }, { kind := .htmlInline, content := "</style>" }]

/-- The syntax tree of a paragraph with a style sheet in it. -/
def styledText (s : String) : List Syntax.Node :=
  [{ kind := .paragraph, children := [{ kind := .inline, children := styledInlines s }] }]

/-- A start tag of a raw text element is read as an empty element. -/
theorem parse_styleTag : Html.parse "<style>" = .ok [.element "style" [] []] := by
  with_unfolding_all rfl

/-- The two tags pair up around the text. -/
theorem inlinePairs_styledInlines (s : String) :
    Document.inlinePairs (styledInlines s) = [(1, 3)] := by
  have hname : Syntax.startTagName? "<style>".toList = some "style" := by decide
  have hfinds : Document.findsTag "<style>" = true := by
    simp only [Document.findsTag, hname, parse_styleTag]
    rfl
  have hpairs : Syntax.pairTags .htmlInline (styledInlines s) = [(1, 3)] := rfl
  rw [Document.inlinePairs, hpairs]
  simp [styledInlines, hfinds]

/-- The inlines are converted to an element around the text. -/
theorem ofInlines_styledInlines (s : String) :
    Document.ofInlines (Document.inlineSiblings (styledInlines s)) 1 =
      .ok [.text "a ", .htmlElement "style" [] [.text s] "<style>" "</style>" false] := by
  have hopening : Document.openingTag "<style>" = .ok ("style", []) := by
    rw [Document.openingTag, Document.readHtml, parse_styleTag]
    rfl
  have hbuild (a b c d : Document.Sibling) :
      Syntax.Nest.build [(1, 3)] 0 [a, b, c, d] = [.leaf a, .pair b [.leaf c] d] := by
    with_unfolding_all rfl
  have hnodes : (Document.inlineSiblings (styledInlines s)).map Document.Sibling.node =
      styledInlines s := rfl
  rw [Document.ofInlines, hnodes, inlinePairs_styledInlines]
  simp only [styledInlines, Document.inlineSiblings, hbuild, Document.ofInlineNests,
    Document.ofInlineNest, hopening]
  rfl

/-- So the tree is converted to a paragraph with that element. -/
theorem ofSyntax_styledText (s : String) :
    ofSyntax (styledText s) =
      .ok [.paragraph
        [.text "a ", .htmlElement "style" [] [.text s] "<style>" "</style>" false]] := by
  have hbuild (a : Document.Sibling) : Syntax.Nest.build [] 0 [a] = [.leaf a] := by
    with_unfolding_all rfl
  have hpairs : Syntax.pairTags .htmlBlock (styledText s) = [] := rfl
  have hnodes : (Document.blockSiblings (styledText s)).map Document.Sibling.node =
      styledText s := rfl
  rw [ofSyntax, Document.ofBlocks, hnodes, hpairs]
  simp only [styledText, Document.blockSiblings, hbuild, Document.ofBlockNests,
    Document.ofBlockNest, Document.ofBlock, Document.ofParts]
  have hparts : ([{ kind := .inline, children := styledInlines s }].filter
      fun p : Syntax.Node ↦ p.kind = .inline).flatMap Syntax.Node.children = styledInlines s := by
    simp
  rw [hparts, ofInlines_styledInlines]
  rfl

/-- The options under which a style sheet is the only raw element that is kept. -/
def styleOnly : Options := ⟨false, .sanitize ⟨.ofList ["style"], .empty⟩⟩

/-- Under a policy that allows it, the element is rendered with its text. -/
theorem renderDocument_styledText (s : String) :
    renderDocument styleOnly .standard
        [.paragraph [.text "a ", .htmlElement "style" [] [.text s] "<style>" "</style>" false]] =
      .ok [.element "p" [] [.text "a ", .element "style" [] [.text s]]] := rfl

/-- It is a node of the output. -/
theorem styleElement_mem (s : String) :
    .element "style" [] [.text s] ∈
      preorders [.element "p" [] [.text "a ", .element "style" [] [.text s]]] := by
  simp [preorders, Markup.preorder]

/-- A style sheet that holds no end tag stays inside its element. -/
theorem rawText_contained_selector :
    ∃ blocks nodes, ofSyntax (styledText "p > a") = .ok blocks ∧
      renderDocument styleOnly .standard blocks = .ok nodes ∧
      .element "style" [] [.text "p > a"] ∈ preorders nodes ∧
      ¬ HoldsEndTag "style" (Markup.listChars true [.text "p > a"]) := by
  have hruns : ∀ run ∈ textRuns [.text "p > a"], ¬ HoldsEndTag "style" run := by
    simp only [textRuns, List.modifyHead_cons, List.mem_singleton, forall_eq]
    exact Markup.not_holdsEndTag_of_lt_not_mem (by decide)
  have hnodes : ∀ m ∈ preorders [.text "p > a"], ¬ SpellsEndTag "style" m := by
    simp [preorders, Markup.preorder, SpellsEndTag]
  refine ⟨_, _, ofSyntax_styledText _, renderDocument_styledText _, styleElement_mem _, ?_⟩
  exact (rawText_contained_iff (ofSyntax_styledText "p > a") (renderDocument_styledText "p > a")
    (by decide) (styleElement_mem "p > a")).2.2 ⟨hruns, hnodes⟩

/-- A style sheet with its own end tag in it ends early, and what follows is read as a tag that the
policy does not allow. -/
theorem holdsEndTag_content_styledText :
    ∃ blocks nodes, ofSyntax (styledText "</style><img src=x onerror=alert(1)>") = .ok blocks ∧
      renderDocument styleOnly .standard blocks = .ok nodes ∧
      .element "style" [] [.text "</style><img src=x onerror=alert(1)>"] ∈ preorders nodes ∧
      HoldsEndTag "style"
        (Markup.listChars true [.text "</style><img src=x onerror=alert(1)>"]) := by
  refine ⟨_, _, ofSyntax_styledText _, renderDocument_styledText _, styleElement_mem _, .inl ?_⟩
  exact Markup.beginsEndTag_iff.2 ⟨_, rfl, by decide⟩

end SafeMarkdown
