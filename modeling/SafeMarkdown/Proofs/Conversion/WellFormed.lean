import SafeMarkdown.Proofs.Conversion.Closure
import SafeMarkdown.Proofs.Html.Builder

/-!
# Elements and sections in documents from syntax trees

Conversion makes an element without children where a start tag closes itself or has no end tag, and
a void tag always closes itself: in running text because it opens nothing, and in an HTML block
because the reader closes it. Both ends of a section bear its name, which is not that of a void
element. `Node.WellFormed` says so of one node, and it holds at every node of a document that comes
from a syntax tree (`wellFormed_of_ofBlocks`).
-/

namespace SafeMarkdown.Document

open Syntax (roleInline roleBlock startTagName? endTagName?)

/-- An element has no children where it is void, by its flag or by its tag, and where it has a
start tag in the source and no end tag. A section has the name of both its ends, and is not void. -/
def Node.WellFormed : Node → Prop
  | .htmlElement tag _ children startSource endSource void =>
    (void = true → children = []) ∧ (startSource ≠ "" → endSource = "" → children = []) ∧
      (tag ∈ Markup.voidTags → children = [])
  | .htmlSection tag _ _ _ startSource endSource =>
    tag ∉ Markup.voidTags ∧ startTagName? (Text.trim startSource.toList) = some tag ∧
      endTagName? endSource.toList = some tag
  | _ => True

/-- An element that was read has no children if its tag is void. -/
theorem wellFormed_read {source tag : String} {nodes content : List Markup} {attrs : List Attr}
    {depth : Nat} {children : List Node} (hnodes : Html.parse source = .ok nodes)
    (hmem : .element tag attrs content ∈ Markup.preorders nodes)
    (hchildren : ofMarkups depth content = .ok children) :
    (Node.htmlElement tag attrs children "" "" (tag ∈ Html.voidTags)).WellFormed := by
  have hvoid (h : tag ∈ Html.voidTags) : children = [] := by
    obtain rfl := Markup.Childless.eq_nil_of_mem_preorders (Html.childless_of_parse hnodes) hmem h
    obtain ⟨-, -, hnil⟩ := bind_eq_ok_iff.1 hchildren
    exact (Except.ok.inj hnil).symm
  exact ⟨fun h ↦ hvoid (of_decide_eq_true h), fun h ↦ absurd rfl h,
    fun h ↦ hvoid (Html.voidTags_subset h)⟩

/-- An element that is made from two tags has the name of both. -/
theorem wellFormed_paired {startSource endSource tag : String} {attrs : List Attr}
    {children : List Node} (hopening : roleInline startSource = .opening tag)
    (hclosing : roleInline endSource = .closing tag) :
    (Node.htmlElement tag attrs children startSource endSource false).WellFormed := by
  have hend := Syntax.ne_empty_of_endTagName? (Syntax.endTagName?_of_roleInline hclosing)
  exact ⟨fun h ↦ Bool.noConfusion h, fun _ h ↦ absurd h hend,
    fun h ↦ absurd h (Syntax.not_mem_voidTags_of_roleInline hopening)⟩

/-- Every way in which conversion makes a node gives a well-formed one. -/
theorem conversionClosed_wellFormed : ConversionClosed Node.WellFormed Node.WellFormed where
  text _ := trivial
  softBreak := trivial
  hardBreak := trivial
  codeSpan _ := trivial
  image _ := trivial
  rawHtml _ := trivial
  emphasis _ := trivial
  strong _ := trivial
  link _ _ _ := trivial
  read hnodes hmem hchildren _ := wellFormed_read hnodes hmem hchildren
  lone _ _ := ⟨fun _ ↦ rfl, fun _ _ ↦ rfl, fun _ ↦ rfl⟩
  paired hopening hclosing _ _ := wellFormed_paired hopening hclosing
  paragraph _ := trivial
  heading _ _ _ := trivial
  blockQuote _ := trivial
  codeBlock _ := trivial
  list _ _ _ _ := trivial
  thematicBreak := trivial
  htmlBlock _ _ _ := trivial
  htmlSection hopening hclosing _ _ _ :=
    ⟨Syntax.not_mem_voidTags_of_roleBlock hopening, Syntax.startTagName?_of_roleBlock hopening,
      Syntax.endTagName?_of_roleBlock hclosing⟩

/-- The elements and sections of what conversion makes are well-formed. -/
theorem wellFormed_of_ofBlocks {nodes : List Syntax.Node} {depth : Nat} {blocks : List Node}
    (h : ofBlocks (blockSiblings nodes) depth = .ok blocks) : ∀ n ∈ nodesOf blocks, n.WellFormed :=
  conversionClosed_wellFormed.forall_mem_nodesOf_of_ofBlocks h

end SafeMarkdown.Document
