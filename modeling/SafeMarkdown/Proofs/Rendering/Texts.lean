import SafeMarkdown.Proofs.Rendering.Observation
import SafeMarkdown.Proofs.Rendering.Strictness

/-!
# Sanitising and text

A policy takes elements and attributes away, and no text: what it drops with its children is
childless, and the children of any other element that it does not allow take the place of the
element. The text of a document does not depend on the policy, nor on whether there is one
(`innerTexts_sanitize`); it is what the texts, the code and the line ends of the document say, one
after the other.

Both runs are compared with the document and not with each other: what is seen of the text in the
output is what is seen of it in the document, whatever the mode. That the second run succeeds when
the first does is the strictness of keeping raw HTML.
-/

namespace SafeMarkdown

open Document (Node PlacedNode placedNodes nodesOf map_node_placedNodes)
open Markup (observe observe_element observe_text innerTexts)

namespace Markup

/-- The value of a text. -/
def text? : Markup → Option String
  | text value => some value
  | element .. => none

mutual

theorem innerText_eq_join : ∀ n : Markup, n.innerText = String.join (n.preorder.filterMap text?)
  | text value => by
    show value = String.join [value]
    rw [String.join_cons, String.join_nil, String.append_empty]
  | element _ _ children => by
    rw [preorder, List.filterMap_cons_none rfl, innerText, innerTexts_eq_join children, observe]

/-- The text of a list of markup is that of its text nodes, put together. -/
theorem innerTexts_eq_join : ∀ ns : List Markup, innerTexts ns = String.join (observe text? ns)
  | [] => rfl
  | n :: ns => by
    rw [innerTexts, innerText_eq_join n, innerTexts_eq_join ns, observe, observe, preorders,
      List.filterMap_append, String.join_append]

end

end Markup

/-- The text that a node has apart from the nodes below it: its own if it has any, and a line feed
for the end of a line, unless that is a line break. -/
def Document.Node.shownText? (soft : Bool) : Node → Option String
  | .text value | .codeSpan value => some value
  | .codeBlock block => some block.code
  | .softBreak => if soft then none else some "\n"
  | _ => none

/-- The standard renderers add no text and lose none. -/
theorem standard_mirrors_text (soft : Bool) :
    Renderers.standard.Mirrors soft (fun m ↦ m.node.shownText? soft) Markup.text? where
  heading _ level _ content := observe_element _ (Renderers.headingTag level) [] content
  paragraph tight _ content := by
    cases tight with
    | false => exact observe_element _ "p" [] content
    | true => rfl
  blockQuote _ _ content := observe_element _ "blockquote" [] content
  code _ block := by
    show observe _ [.element "pre" [] [.element "code" _ [.text block.code]]] = _
    rw [observe_element, observe_element, observe_text]
    rfl
  list _ kind _ _ content := by
    cases kind with
    | unordered => exact observe_element _ "ul" [] content
    | ordered start => exact observe_element _ "ol" _ content
  thematicBreak _ := observe_element _ "hr" [] []
  softBreak _ := by
    cases soft with
    | false => exact observe_text _ "\n"
    | true => exact observe_element _ "br" [] []
  hardBreak _ := observe_element _ "br" [] []
  codeSpan _ text := by
    show observe _ [.element "code" [] [.text text]] = _
    rw [observe_element, observe_text]
    rfl
  emphasis _ _ content := observe_element _ "em" [] content
  strong _ _ content := observe_element _ "strong" [] content
  link _ _ _ content := observe_element _ "a" _ content
  image _ _ := observe_element _ "img" _ []

/-- In a mode that parses raw HTML, the text of the markup is that of the document. -/
theorem mirrors_text {soft : Bool} {mode : HtmlMode} (hmode : mode ≠ .dontParse) :
    Mirrors ⟨soft, mode⟩ .standard Node.VoidChildless (fun m ↦ m.node.shownText? soft)
      Markup.text? where
  renderers := standard_mirrors_text soft
  text _ _ := rfl
  item _ := rfl
  raw _ n hn := by
    cases n with
    | htmlBlock | htmlSection | htmlElement | rawHtml => rfl
    | _ => exact hn.elim
  kept _ _ _ _ := rfl
  shown h := absurd h hmode
  void h := h
  html h := absurd h hmode

/-- The text of what a document is rendered to, in a mode that parses raw HTML. -/
theorem innerTexts_of_renderDocument {soft : Bool} {mode : HtmlMode} {blocks : List Node}
    {nodes : List Markup} (hmode : mode ≠ .dontParse)
    (hvoid : ∀ n ∈ nodesOf blocks, n.VoidChildless)
    (h : renderDocument ⟨soft, mode⟩ .standard blocks = .ok nodes) :
    innerTexts nodes = String.join ((nodesOf blocks).filterMap (Node.shownText? soft)) := by
  have hseen := (mirrors_text hmode).observe_renderDocument hvoid h
  rw [Markup.innerTexts_eq_join, hseen, ← map_node_placedNodes false blocks, List.filterMap_map]
  rfl

/-- **Sanitising neither adds nor drops text.** A document whose void elements are childless and
that can be rendered with its raw HTML kept can be rendered under every policy, and the text of the
markup is the same, namely that of the document. -/
theorem innerTexts_sanitize {soft : Bool} {blocks : List Node} {nodes : List Markup}
    (hvoid : ∀ n ∈ nodesOf blocks, n.VoidChildless)
    (h : renderDocument ⟨soft, .parseUnsafe⟩ .standard blocks = .ok nodes) (policy : Policy) :
    ∃ sanitized, renderDocument ⟨soft, .sanitize policy⟩ .standard blocks = .ok sanitized ∧
      innerTexts sanitized = innerTexts nodes ∧
        innerTexts nodes = String.join ((nodesOf blocks).filterMap (Node.shownText? soft)) := by
  obtain ⟨sanitized, hsanitized⟩ := succeeds_renderDocument_of_parseUnsafe h (.sanitize policy)
  have hkept := innerTexts_of_renderDocument (by decide) hvoid h
  have hfiltered := innerTexts_of_renderDocument HtmlMode.noConfusion hvoid hsanitized
  exact ⟨sanitized, hsanitized, hfiltered.trans hkept.symm, hkept⟩

/-- A section in an item of a tight list, around an image and code in a raw element. -/
def wrappedCode : List Node :=
  [.list .unordered
    [[.htmlSection "div" [] [.text "a"]
      [.paragraph
        [.htmlElement "span" [("class", "c")]
          [.codeSpan "b", .softBreak, .htmlElement "img" [("src", "x")] [] "<img src=x>" "" true]
          "<span class=c>" "</span>" false]]
      "<div>a" "</div>"]] true]

theorem innerTexts_sanitize_wrappedCode :
    (∀ n ∈ nodesOf wrappedCode, n.VoidChildless) ∧
      ∃ nodes, renderDocument ⟨false, .parseUnsafe⟩ .standard wrappedCode = .ok nodes ∧
        ∃ sanitized, renderDocument ⟨false, .sanitize ⟨.empty, .empty⟩⟩ .standard wrappedCode =
            .ok sanitized ∧
          innerTexts sanitized = innerTexts nodes ∧ innerTexts nodes = "ab\n" := by
  have hvoid : ∀ n ∈ nodesOf wrappedCode, n.VoidChildless := by
    simp [wrappedCode, nodesOf, Document.nodesOfItems, Node.inside, Node.VoidChildless]
  have hrender : renderDocument ⟨false, .parseUnsafe⟩ .standard wrappedCode =
      .ok [.element "ul" [] [.element "li" [] [.element "div" [] [.text "a",
        .element "p" [] [.element "span" [("class", "c")] [.element "code" [] [.text "b"],
          .text "\n", .element "img" [("src", "x")] []]]]]]] := rfl
  obtain ⟨sanitized, hsanitized, hsame, -⟩ := innerTexts_sanitize hvoid hrender ⟨.empty, .empty⟩
  exact ⟨hvoid, _, hrender, sanitized, hsanitized, hsame, by rfl⟩

end SafeMarkdown
