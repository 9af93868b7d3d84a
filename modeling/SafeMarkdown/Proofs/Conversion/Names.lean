import SafeMarkdown.Proofs.Conversion.Closure
import SafeMarkdown.Proofs.Html.Names
import SafeMarkdown.Proofs.Rendering.Closure

/-!
# The names of raw elements

The raw elements of a document that comes from a syntax tree bear names that reading gave, or the
name that a block begins with. None of them holds a slash (`slashFree_of_ofSyntax`).

Raw elements come into a document in three ways: from a tree of markup that was read, from a start
tag that reading found for an inline, and from the first tag of a section. In the first two the
names are those of a tree that was read (`names_of_mem_preorders`). In the third the tag may be the
one the block is searched for, which is a name by its own grammar, and a slash ends a name there
too (`Starts.names`).
-/

namespace SafeMarkdown

open Markup (slashFree)

/-- The vocabulary holds the tag of a raw element and the names of its attributes. -/
def Vocabulary.Names (v : Vocabulary) (e : String × List Attr) : Prop :=
  v.tag e.1 ∧ ∀ a ∈ e.2, v.attr e.1 a.1

namespace Document

/-- The raw elements of a list are those of its members. -/
theorem mem_rawElementsOf {e : String × List Attr} {ns : List Node} :
    e ∈ rawElementsOf ns ↔ ∃ n ∈ ns, e ∈ n.rawElements := by
  induction ns with
  | nil => simp [rawElementsOf]
  | cons n ns ih => simp [rawElementsOf, ih]

/-- The raw elements of the items of a list are those of each item. -/
theorem mem_rawElementsOfItems {e : String × List Attr} {items : List (List Node)} :
    e ∈ rawElementsOfItems items ↔ ∃ item ∈ items, e ∈ rawElementsOf item := by
  induction items with
  | nil => simp [rawElementsOfItems]
  | cons item items ih => simp [rawElementsOfItems, ih]

/-- The raw elements at and below a node bear names without a slash. -/
abbrev SlashFree (n : Node) : Prop :=
  ∀ e ∈ n.rawElements, slashFree.Names e

/-- If no node of a list has a slash in a name, its raw elements have none. -/
theorem slashFree_rawElementsOf {ns : List Node} (h : ∀ n ∈ ns, SlashFree n) :
    ∀ e ∈ rawElementsOf ns, slashFree.Names e := by
  intro e he
  obtain ⟨n, hn, he⟩ := mem_rawElementsOf.1 he
  exact h n hn e he

/-- The elements of a tree that was read have no slash in their names. -/
theorem names_of_mem_preorders {source tag : String} {nodes content : List Markup}
    {attrs : List Attr} (h : Html.parse source = .ok nodes)
    (hmem : .element tag attrs content ∈ Markup.preorders nodes) :
    slashFree.Names (tag, attrs) := by
  have hwithin := Markup.within_of_mem_preorders
    (Markup.allWithin_iff.2 (Html.slashFree_of_parse h)) hmem
  exact ⟨hwithin.1, hwithin.2.1⟩

/-- Neither has the element that reading finds for a tag. -/
theorem Finds.names {source tag : String} {attrs : List Attr} {content : List Markup}
    (h : Finds source tag attrs content) : slashFree.Names (tag, attrs) := by
  obtain ⟨nodes, hnodes, hfind⟩ := h
  exact names_of_mem_preorders hnodes (Html.mem_preorders_of_find hfind)

/-- Neither has the element that a section begins with. -/
theorem Starts.names {source tag : String} {depth : Nat} {attrs : List Attr} {leading : List Node}
    (htag : '/' ∉ tag.toList) (h : Starts source tag depth attrs leading) :
    slashFree.Names (tag, attrs) := by
  obtain ⟨nodes, hnodes, ⟨-, rfl, -⟩ | ⟨content, hfind, -⟩⟩ := h
  · exact ⟨htag, by simp⟩
  · exact Finds.names ⟨nodes, hnodes, hfind⟩

/-- Every way in which conversion makes a node gives one without a slash in its names. -/
theorem conversionClosed_slashFree : ConversionClosed SlashFree SlashFree where
  text _ := by simp [Node.rawElements]
  softBreak := by simp [Node.rawElements]
  hardBreak := by simp [Node.rawElements]
  codeSpan _ := by simp [Node.rawElements]
  image _ := by simp [Node.rawElements]
  rawHtml _ := by simp [Node.rawElements]
  emphasis := slashFree_rawElementsOf
  strong := slashFree_rawElementsOf
  link _ := slashFree_rawElementsOf
  read hnodes hmem _ hchildren :=
    List.forall_mem_cons.2 ⟨names_of_mem_preorders hnodes hmem, slashFree_rawElementsOf hchildren⟩
  lone _ hfinds := List.forall_mem_cons.2 ⟨hfinds.names, by simp [rawElementsOf]⟩
  paired _ _ hfinds hchildren :=
    List.forall_mem_cons.2 ⟨hfinds.names, slashFree_rawElementsOf hchildren⟩
  paragraph := slashFree_rawElementsOf
  heading _ := slashFree_rawElementsOf
  blockQuote := slashFree_rawElementsOf
  codeBlock _ := by simp [Node.rawElements]
  list _ _ _ h e he := by
    obtain ⟨item, hitem, he⟩ := mem_rawElementsOfItems.1 he
    exact slashFree_rawElementsOf (h item hitem) e he
  thematicBreak := by simp [Node.rawElements]
  htmlBlock _ := slashFree_rawElementsOf
  htmlSection hopening _ hstarts hleading hchildren := by
    have htag :=
      Syntax.slash_not_mem_of_startTagName? (Syntax.startTagName?_of_roleBlock hopening)
    exact List.forall_mem_cons.2 ⟨hstarts.names htag, List.forall_mem_append.2
      ⟨slashFree_rawElementsOf hleading, slashFree_rawElementsOf hchildren⟩⟩

/-- The raw elements of a document that comes from a syntax tree bear names without a slash. -/
theorem slashFree_of_ofSyntax {nodes : List Syntax.Node} {blocks : List Node}
    (h : ofSyntax nodes = .ok blocks) : ∀ e ∈ rawElementsOf blocks, slashFree.Names e :=
  slashFree_rawElementsOf (conversionClosed_slashFree.forall_of_ofSyntax h)

end Document

end SafeMarkdown
