import SafeMarkdown.Proofs.Conversion.Section
import SafeMarkdown.Proofs.Conversion.Sorted
import SafeMarkdown.Proofs.Conversion.WellFormed
import SafeMarkdown.Proofs.Markup.Preorder
import SafeMarkdown.Proofs.Rendering.Closure

/-!
# Void elements in the output

The standard renderers give void elements without children, and so does conversion. Rendering keeps
this: an element of the output with a void tag has no children, whatever the mode does to raw HTML
(`wellFormed_of_ofSyntax`). Then the serialiser writes its start tag alone.

Two lists of void elements are in play. The reader's is the longer, and its elements are closed at
once when a tree is built; the serialiser's is the shorter and is the one that the output is about.
Whatever is void for the second is void for the first, so an element that was read is never at odds
with how it will be written.
-/

namespace SafeMarkdown

open Document (Node SortedBlocks nodesOf ofSyntax)
open Markup (All Childless preorders)

/-- An element whose tag is not void is childless where its children are. -/
theorem Markup.childless_element_of_not_mem {tags : List String} {tag : String} {attrs : List Attr}
    {children : List Markup} (htag : tag ∉ tags) (h : All (Childless tags) children) :
    Childless tags (.element tag attrs children) :=
  childless_element.2 ⟨fun hmem ↦ absurd hmem htag, h⟩

/-- No heading is void. -/
theorem headingTag_not_mem_voidTags (level : Int) :
    Renderers.headingTag level ∉ Markup.voidTags := by
  unfold Renderers.headingTag
  repeat' split
  all_goals decide

/-- The standard renderers give no children to a void element. -/
theorem standard_respect_childless : Renderers.standard.Respect (Childless Markup.voidTags) where
  heading level _ hc :=
    Markup.childless_element_of_not_mem (headingTag_not_mem_voidTags level) hc
  paragraph wrap _ hc := by
    cases wrap with
    | false => exact hc
    | true => exact List.forall_mem_singleton.2 (Markup.childless_element_of_not_mem (by decide) hc)
  blockQuote hc := Markup.childless_element_of_not_mem (by decide) hc
  code block := by
    refine Markup.childless_element_of_not_mem (by decide) (List.forall_mem_singleton.2 ?_)
    exact Markup.childless_element_of_not_mem (by decide)
      (List.forall_mem_singleton.2 Markup.childless_text)
  list kind _ hc := by
    cases kind with
    | unordered => exact Markup.childless_element_of_not_mem (by decide) hc
    | ordered start => exact Markup.childless_element_of_not_mem (by decide) hc
  emphasis hc := Markup.childless_element_of_not_mem (by decide) hc
  strongEmphasis hc := Markup.childless_element_of_not_mem (by decide) hc
  codeSpan text := Markup.childless_element_of_not_mem (by decide)
    (List.forall_mem_singleton.2 Markup.childless_text)
  link target _ hc := Markup.childless_element_of_not_mem (by decide) hc
  image target := Markup.childless_element.2 ⟨fun _ ↦ rfl, List.forall_mem_nil _⟩
  thematicBreak := Markup.childless_element.2 ⟨fun _ ↦ rfl, List.forall_mem_nil _⟩
  hardLineBreak := Markup.childless_element.2 ⟨fun _ ↦ rfl, List.forall_mem_nil _⟩

/-- A raw element with a void tag has nothing below it in a well-formed document. -/
theorem Document.Node.WellFormed.childNodes_eq_nil {n : Node} (h : n.WellFormed) {tag : String}
    {attrs : List Attr} (hraw : n.rawElement? = some (tag, attrs)) (htag : tag ∈ Markup.voidTags) :
    n.childNodes = [] := by
  cases n with
  | htmlElement tag' attrs' children startSource endSource void =>
    cases hraw
    exact h.2.2 htag
  | htmlSection tag' attrs' leading children startSource endSource =>
    cases hraw
    exact absurd htag h.1
  | _ => cases hraw

/-- Neither does rendering, of well-formed nodes. -/
theorem closedAt_childless (o : Options) :
    ClosedAt o .standard Node.WellFormed (Childless Markup.voidTags) where
  text _ := Markup.childless_text
  renderers := standard_respect_childless
  item hc := Markup.childless_element_of_not_mem (by decide) hc
  raw h hraw hkept hempty hc :=
    Markup.childless_element.2 ⟨fun htag ↦ hempty (h.childNodes_eq_nil hraw htag), hc⟩

/-- Without children, a void element is written as its start tag. -/
theorem chars_of_mem_voidTags {tag : String} (h : tag ∈ Markup.voidTags) (raw : Bool)
    (attrs : List Attr) : Markup.chars raw (.element tag attrs []) = Markup.startTag tag attrs := by
  rw [Markup.chars, if_pos ⟨h, rfl⟩]

/-- **Documents from syntax trees are well-formed, and what they are rendered to has void elements
without children.** Blocks and inlines stand where they belong, and elements and sections are
well-formed. So under all options a void element of the output has no children, and it is written
without an end tag. -/
theorem wellFormed_of_ofSyntax {tree : List Syntax.Node} {blocks : List Node}
    (h : ofSyntax tree = .ok blocks) :
    SortedBlocks blocks ∧ (∀ n ∈ nodesOf blocks, n.WellFormed) ∧
      ∀ {o nodes}, renderDocument o .standard blocks = .ok nodes →
        ∀ {tag attrs children}, .element tag attrs children ∈ preorders nodes →
          tag ∈ Markup.voidTags →
            children = [] ∧ ∀ raw,
              Markup.chars raw (.element tag attrs children) = Markup.startTag tag attrs := by
  have hformed := Document.wellFormed_of_ofBlocks h
  refine ⟨Document.sortedBlocks_of_ofSyntax h, hformed, ?_⟩
  intro o nodes hrender tag attrs children hmem htag
  have hchildless := (closedAt_childless o).forall_of_renderDocument hformed hrender
  obtain rfl := Childless.eq_nil_of_mem_preorders hchildless hmem htag
  exact ⟨rfl, fun raw ↦ chars_of_mem_voidTags htag raw attrs⟩

/-- A line break in the leading part of a section is read, kept and written without an end tag. -/
theorem wellFormed_brokenWrapper :
    ∃ blocks nodes, ofSyntax (Document.wrapper "<div><br>") = .ok blocks ∧ SortedBlocks blocks ∧
      (∀ n ∈ nodesOf blocks, n.WellFormed) ∧
      renderDocument ⟨false, .parseUnsafe⟩ .standard blocks = .ok nodes ∧
      .element "br" [] [] ∈ preorders nodes ∧
      Markup.chars false (.element "br" [] []) = ['<', 'b', 'r', '>'] := by
  have hstart : Document.sectionStart "<div><br>" 1 =
      .ok ("div", [], [.htmlElement "br" [] [] "" "" true]) := by
    have hparse : Html.parse "<div><br>" = .ok [.element "div" [] [.element "br" [] []]] := by
      with_unfolding_all rfl
    rw [Document.sectionStart, Document.readHtml, hparse]
    rfl
  have hconv : ofSyntax (Document.wrapper "<div><br>") = .ok
      [.htmlSection "div" [] [.htmlElement "br" [] [] "" "" true] [] "<div><br>" "</div>"] :=
    Document.ofBlocks_wrapper (by decide) hstart
  obtain ⟨hsorted, hformed, hvoid⟩ := wellFormed_of_ofSyntax hconv
  have hrender : renderDocument ⟨false, .parseUnsafe⟩ .standard
      [.htmlSection "div" [] [.htmlElement "br" [] [] "" "" true] [] "<div><br>" "</div>"] =
      .ok [.element "div" [] [.element "br" [] []]] := rfl
  have hmem : .element "br" [] [] ∈ preorders [.element "div" [] [.element "br" [] []]] := by
    simp [preorders, Markup.preorder]
  exact ⟨_, _, hconv, hsorted, hformed, hrender, hmem, (hvoid hrender hmem (by decide)).2 false⟩

end SafeMarkdown
