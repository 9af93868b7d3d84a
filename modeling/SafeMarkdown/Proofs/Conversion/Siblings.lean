import SafeMarkdown.Proofs.Conversion.Section
import SafeMarkdown.Proofs.Syntax.Brackets

/-!
# Siblings in converted lists

Conversion makes an element out of a pair of tags and a section out of a pair of HTML blocks, and
puts what stands between the two below it. `expandList` takes this apart again: an element with an
end tag, or a section, is a bracket around its expanded children, and any other node stands for
itself. Each sibling is then a `Piece`, together with the depth at which it was converted.

A list that is converted expands to a bracketed list of the same length, in which the piece at each
position is what the sibling there gives (`KeepsSiblings`). Its brackets are pairs of tags. A pair
has no bracket where one that was taken before begins to its left and ends inside it, or, in running
text, where reading its start tag as HTML finds no element; all other pairs have one.

The statement is about positions. A document has lost them, so they are recovered by counting: the
pieces of the expanded list are numbered as the siblings are, and the brackets are pairs of numbers.
That conversion keeps the shape of the brackets that it was given is an induction on nests
(`related_of_ofInlineNest`, `related_of_ofBlockNest`), in which the conversion of each sibling stays
what it is; which brackets there are at all was settled before, for pairs of numbers alone.
-/

namespace SafeMarkdown.Document

open Syntax (Kind Nest ForallList RelatedLists flattenList bracketsOf pairTags Crosses roleInline
  roleBlock)

/-! ### Expanding -/

/-- What one sibling gives to a converted list: a node, or one of the two ends of a node. -/
inductive Piece where
  | whole (n : Node)
  | opening (tag : String) (attrs : List Attr) (leading : List Node) (source : String)
  | closing (tag : String) (source : String)

mutual

/-- A node of a list at a depth as brackets around pieces. -/
def Node.expand (depth : Nat) : Node → Nest (Nat × Piece)
  | .htmlElement tag attrs children startSource endSource void =>
    if endSource = "" then
      .leaf (depth, .whole (.htmlElement tag attrs children startSource endSource void))
    else
      .pair (depth, .opening tag attrs [] startSource) (expandList (depth + 1) children)
        (depth, .closing tag endSource)
  | .htmlSection tag attrs leading children startSource endSource =>
    .pair (depth, .opening tag attrs leading startSource) (expandList (depth + 1) children)
      (depth, .closing tag endSource)
  | n => .leaf (depth, .whole n)

/-- The nodes of a list at a depth as brackets around pieces. -/
def expandList (depth : Nat) : List Node → List (Nest (Nat × Piece))
  | [] => []
  | n :: ns => n.expand depth :: expandList depth ns

end

/-- The piece is what conversion makes of a sibling in running text, at the depth of the piece. -/
inductive InlineGives : Syntax.Node → Nat × Piece → Prop
  | lone {s : Syntax.Node} {depth : Nat} {n : Node} (hkind : s.kind = .htmlInline)
      (h : ofLoneTag s.content = .ok n) : InlineGives s (depth, .whole n)
  | inline {s : Syntax.Node} {depth : Nat} {n : Node} (hkind : s.kind ≠ .htmlInline)
      (h : ofInline s depth = .ok n) : InlineGives s (depth, .whole n)
  | opening {s : Syntax.Node} {depth : Nat} {tag : String} {attrs : List Attr}
      (hkind : s.kind = .htmlInline) (hrole : roleInline s.content = .opening tag)
      (h : openingTag s.content = .ok (tag, attrs)) :
      InlineGives s (depth, .opening tag attrs [] s.content)
  | closing {s : Syntax.Node} {depth : Nat} {tag : String} (hkind : s.kind = .htmlInline)
      (hrole : roleInline s.content = .closing tag) :
      InlineGives s (depth, .closing tag s.content)

/-- The piece is what conversion makes of a sibling among blocks, at the depth of the piece. -/
inductive BlockGives : Syntax.Node → Nat × Piece → Prop
  | block {s : Syntax.Node} {depth : Nat} {n : Node} (h : ofBlock s depth = .ok n) :
      BlockGives s (depth, .whole n)
  | opening {s : Syntax.Node} {depth : Nat} {tag : String} {attrs : List Attr}
      {leading : List Node} (hkind : s.kind = .htmlBlock)
      (hrole : roleBlock s.content = .opening tag)
      (h : sectionStart s.content (depth + 1) = .ok (tag, attrs, leading)) :
      BlockGives s (depth, .opening tag attrs leading s.content)
  | closing {s : Syntax.Node} {depth : Nat} {tag : String} (hkind : s.kind = .htmlBlock)
      (hrole : roleBlock s.content = .closing tag) :
      BlockGives s (depth, .closing tag s.content)

/-! ### Nodes made from one sibling -/

/-- A tag on its own stands for itself. -/
theorem expand_of_ofLoneTag {source : String} {n : Node} (h : ofLoneTag source = .ok n)
    (depth : Nat) : n.expand depth = .leaf (depth, .whole n) := by
  unfold ofLoneTag at h
  split at h
  · cases h
    rfl
  · obtain ⟨nodes, -, h⟩ := bind_eq_ok_iff.1 h
    split at h
    · cases h
      rfl
    · cases h
      rw [Node.expand, if_pos rfl]

/-- So does a node that is made from one inline. -/
theorem expand_of_ofInline {s : Syntax.Node} {depth : Nat} {n : Node}
    (h : ofInline s depth = .ok n) : n.expand depth = .leaf (depth, .whole n) := by
  obtain ⟨kind, content, tag, info, hidden, attrs, children⟩ := s
  cases kind <;> simp only [ofInline] at h
  case em | strong | link =>
    obtain ⟨cs, -, rfl⟩ := map_eq_ok_iff.1 h
    rfl
  case text | textSpecial | softBreak | hardBreak | codeInline | image =>
    cases h
    rfl
  all_goals cases h

/-- So does a node that is made from one block. -/
theorem expand_of_ofBlock {s : Syntax.Node} {depth : Nat} {n : Node}
    (h : ofBlock s depth = .ok n) : n.expand depth = .leaf (depth, .whole n) := by
  obtain ⟨kind, content, tag, info, hidden, attrs, children⟩ := s
  cases kind <;> simp only [ofBlock] at h
  case paragraph | blockquote =>
    obtain ⟨cs, -, rfl⟩ := map_eq_ok_iff.1 h
    rfl
  case heading =>
    obtain ⟨level, -, h⟩ := bind_eq_ok_iff.1 h
    obtain ⟨cs, -, rfl⟩ := map_eq_ok_iff.1 h
    rfl
  case bulletList =>
    obtain ⟨items, -, h⟩ := bind_eq_ok_iff.1 h
    cases h
    rfl
  case orderedList | htmlBlock =>
    obtain ⟨first, -, h⟩ := bind_eq_ok_iff.1 h
    obtain ⟨second, -, h⟩ := bind_eq_ok_iff.1 h
    cases h
    rfl
  case fence | codeBlock | hr =>
    cases h
    rfl
  all_goals cases h

/-! ### The brackets of a converted list -/

mutual

/-- The node for a nest of inlines expands to a nest of the same shape. -/
theorem related_of_ofInlineNest {depth : Nat} : ∀ {x : Nest Sibling} {n : Node},
    x.Forall (fun s ↦ s.convert = ofInline s.node) InlineEnds → ofInlineNest depth x = .ok n →
      x.Related (fun s piece ↦ InlineGives s.node piece) (n.expand depth)
  | .leaf s, n, hx, h => by
    rw [ofInlineNest] at h
    split at h
    · rename_i hkind
      rw [expand_of_ofLoneTag h]
      exact .lone hkind h
    · rename_i hkind
      replace h : ofInline s.node depth = .ok n := hx ▸ h
      rw [expand_of_ofInline h]
      exact .inline hkind h
  | .pair opening inner closing, _, ⟨⟨tag, hopening, hclosing, hfinds⟩, hinner⟩, h => by
    rw [ofInlineNest] at h
    obtain ⟨⟨tag', attrs⟩, htag, h⟩ := bind_eq_ok_iff.1 h
    obtain ⟨children, hchildren, h⟩ := bind_eq_ok_iff.1 h
    cases h
    have hkind : opening.node.kind = .htmlInline := Syntax.kind_eq_of_role (by simp [hopening])
    have hkind' : closing.node.kind = .htmlInline := Syntax.kind_eq_of_role (by simp [hclosing])
    replace hopening := Syntax.roleInline_of_role hopening (by simp)
    replace hclosing := Syntax.roleInline_of_role hclosing (by simp)
    obtain ⟨rfl, -⟩ :=
      finds_of_openingTag (Syntax.startTagName?_of_roleInline hopening) hfinds htag
    -- an end tag is never empty, so the element that was made is a bracket again
    have hend := Syntax.ne_empty_of_endTagName? (Syntax.endTagName?_of_roleInline hclosing)
    rw [Node.expand, if_neg hend]
    exact ⟨.opening hkind hopening htag, related_of_ofInlineNests hinner hchildren,
      .closing hkind' hclosing⟩

theorem related_of_ofInlineNests {depth : Nat} : ∀ {xs : List (Nest Sibling)} {ns : List Node},
    ForallList (fun s ↦ s.convert = ofInline s.node) InlineEnds xs →
      ofInlineNests depth xs = .ok ns →
        RelatedLists (fun s piece ↦ InlineGives s.node piece) xs (expandList depth ns)
  | [], _, _, h => by
    obtain ⟨-, -, h⟩ := bind_eq_ok_iff.1 h
    cases h
    trivial
  | _ :: _, _, hxs, h => by
    obtain ⟨first, rest, hfirst, hrest, rfl⟩ := exists_of_checked_eq_ok h
    exact ⟨related_of_ofInlineNest hxs.1 hfirst, related_of_ofInlineNests hxs.2 hrest⟩

end

mutual

/-- The same of a nest of blocks. -/
theorem related_of_ofBlockNest {depth : Nat} : ∀ {x : Nest Sibling} {n : Node},
    x.Forall (fun s ↦ s.convert = ofBlock s.node) BlockEnds → ofBlockNest depth x = .ok n →
      x.Related (fun s piece ↦ BlockGives s.node piece) (n.expand depth)
  | .leaf s, n, hx, h => by
    replace h : ofBlock s.node depth = .ok n := hx ▸ h
    rw [expand_of_ofBlock h]
    exact .block h
  | .pair opening inner closing, _, ⟨⟨tag, hopening, hclosing⟩, hinner⟩, h => by
    rw [ofBlockNest] at h
    obtain ⟨⟨tag', attrs, leading⟩, hstart, h⟩ := bind_eq_ok_iff.1 h
    obtain ⟨children, hchildren, h⟩ := bind_eq_ok_iff.1 h
    cases h
    have hkind : opening.node.kind = .htmlBlock := Syntax.kind_eq_of_role (by simp [hopening])
    have hkind' : closing.node.kind = .htmlBlock := Syntax.kind_eq_of_role (by simp [hclosing])
    replace hopening := Syntax.roleBlock_of_role hopening (by simp)
    replace hclosing := Syntax.roleBlock_of_role hclosing (by simp)
    obtain ⟨rfl, -⟩ := starts_of_sectionStart (Syntax.startTagName?_of_roleBlock hopening) hstart
    exact ⟨.opening hkind hopening hstart, related_of_ofBlockNests hinner hchildren,
      .closing hkind' hclosing⟩

theorem related_of_ofBlockNests {depth : Nat} : ∀ {xs : List (Nest Sibling)} {ns : List Node},
    ForallList (fun s ↦ s.convert = ofBlock s.node) BlockEnds xs →
      ofBlockNests depth xs = .ok ns →
        RelatedLists (fun s piece ↦ BlockGives s.node piece) xs (expandList depth ns)
  | [], _, _, h => by
    obtain ⟨-, -, h⟩ := bind_eq_ok_iff.1 h
    cases h
    trivial
  | _ :: _, _, hxs, h => by
    obtain ⟨first, rest, hfirst, hrest, rfl⟩ := exists_of_checked_eq_ok h
    exact ⟨related_of_ofBlockNest hxs.1 hfirst, related_of_ofBlockNests hxs.2 hrest⟩

end

/-- Each inline sibling brings the conversion of its node. -/
theorem convert_of_mem_inlineSiblings {ns : List Syntax.Node} {s : Sibling}
    (h : s ∈ inlineSiblings ns) : s.convert = ofInline s.node := by
  induction ns with
  | nil => simp [inlineSiblings] at h
  | cons n ns ih =>
    rcases List.mem_cons.1 h with rfl | h
    · rfl
    · exact ih h

/-- So does each block. -/
theorem convert_of_mem_blockSiblings {ns : List Syntax.Node} {s : Sibling}
    (h : s ∈ blockSiblings ns) : s.convert = ofBlock s.node := by
  induction ns with
  | nil => simp [blockSiblings] at h
  | cons n ns ih =>
    rcases List.mem_cons.1 h with rfl | h
    · rfl
    · exact ih h

/-! ### Every sibling once -/

/-- A list of siblings is all in an expanded list, and the brackets there are the pairs of tags that
`found` leaves, except those that a bracket crosses from the left. -/
structure KeepsSiblings (gives : Syntax.Node → Nat × Piece → Prop) (kind : Kind)
    (found : Syntax.Node → Prop) (ns : List Syntax.Node) (expanded : List (Nest (Nat × Piece))) :
    Prop where
  pieces : List.Forall₂ gives ns (flattenList expanded)
  brackets_subset : bracketsOf 0 expanded ⊆ pairTags kind ns
  mem_brackets_iff : ∀ {i j}, (i, j) ∈ pairTags kind ns →
    ((i, j) ∈ bracketsOf 0 expanded ↔
      (∀ k l, (k, l) ∈ bracketsOf 0 expanded → ¬ Crosses k l i j) ∧
        ∃ opening, ns[i]? = some opening ∧ found opening)

/-- Brackets that are built for the pairs of tags that `found` leaves are kept by whatever has the
same brackets. -/
theorem keepsSiblings_of_related {gives : Syntax.Node → Nat × Piece → Prop} {kind : Kind}
    {found : Syntax.Node → Prop} {siblings : List Sibling} {pairs : List (Nat × Nat)}
    {expanded : List (Nest (Nat × Piece))}
    (hpairs : ∀ {i j}, (i, j) ∈ pairs ↔ (i, j) ∈ pairTags kind (siblings.map Sibling.node) ∧
      ∃ opening, (siblings.map Sibling.node)[i]? = some opening ∧ found opening)
    (h : RelatedLists (fun s piece ↦ gives s.node piece) (Nest.build pairs 0 siblings) expanded) :
    KeepsSiblings gives kind found (siblings.map Sibling.node) expanded := by
  have hsub : pairs ⊆ pairTags kind (siblings.map Sibling.node) := fun _ hp ↦ (hpairs.1 hp).1
  have hmatching := (Syntax.matching_pairTags kind (siblings.map Sibling.node)).of_subset hsub
  have hbrackets : bracketsOf 0 (Nest.build pairs 0 siblings) = bracketsOf 0 expanded :=
    Syntax.bracketsOf_eq_of_related h
  -- what is said of brackets as they are built carries over to those of the expanded list
  have hbuilt : bracketsOf 0 expanded ⊆ pairs :=
    hbrackets ▸ Syntax.bracketsOf_build_subset hmatching 0 siblings
  have hkept : bracketsOf 0 expanded ⊆ pairTags kind (siblings.map Sibling.node) :=
    List.Subset.trans hbuilt hsub
  refine ⟨?_, hkept, fun {i j} hmem ↦ ⟨fun hij ↦ ?_, fun ⟨hcross, hfound⟩ ↦ ?_⟩⟩
  · rw [List.forall₂_map_left_iff]
    simpa only [Syntax.flatten_build] using Syntax.forall₂_flattenList h
  · exact ⟨fun k l hkl ↦ Syntax.not_crosses_of_mem_bracketsOf hij hkl, (hpairs.1 (hbuilt hij)).2⟩
  · have hj : j < siblings.length := by
      obtain ⟨-, -, -, closing, -, hclosing, -⟩ := Syntax.roles_of_mem_pairTags hmem
      simpa using (List.getElem?_eq_some_iff.1 hclosing).1
    rw [← hbrackets] at hcross ⊢
    exact (Syntax.mem_bracketsOf_build_iff hmatching (hpairs.2 ⟨hmem, hfound⟩) hj).2 hcross

/-- The pairs among inlines are those whose start tag reading finds. -/
theorem mem_inlinePairs_iff {ns : List Syntax.Node} {i j : Nat} :
    (i, j) ∈ inlinePairs ns ↔ (i, j) ∈ pairTags .htmlInline ns ∧
      ∃ opening, ns[i]? = some opening ∧ findsTag opening.content = true := by
  rw [inlinePairs, List.mem_filter]
  refine and_congr_right fun _ ↦ ?_
  cases ns[i]? <;> simp

/-- Every pair begins at a sibling. -/
theorem exists_opening_of_mem_pairTags {kind : Kind} {ns : List Syntax.Node} {i j : Nat}
    (h : (i, j) ∈ pairTags kind ns) : ∃ opening, ns[i]? = some opening ∧ True := by
  obtain ⟨-, -, opening, -, hopening, -⟩ := Syntax.roles_of_mem_pairTags h
  exact ⟨opening, hopening, trivial⟩

/-- **Conversion keeps every sibling once and takes every pair that does not cross one taken
before.** In running text a pair also has to have a start tag that reading it as HTML finds; among
blocks there is no other condition. -/
theorem keepsSiblings_expandList {ns : List Syntax.Node} {depth : Nat} {cs : List Node} :
    (ofInlines (inlineSiblings ns) depth = .ok cs →
      KeepsSiblings InlineGives .htmlInline (fun opening ↦ findsTag opening.content = true) ns
        (expandList depth cs)) ∧
    (ofBlocks (blockSiblings ns) depth = .ok cs →
      KeepsSiblings BlockGives .htmlBlock (fun _ ↦ True) ns (expandList depth cs)) := by
  constructor
  · intro h
    have hrelated := related_of_ofInlineNests
      (forallList_inlines fun _ ↦ convert_of_mem_inlineSiblings) h
    simpa only [map_node_inlineSiblings] using
      keepsSiblings_of_related mem_inlinePairs_iff hrelated
  · intro h
    have hrelated := related_of_ofBlockNests
      (forallList_blocks fun _ ↦ convert_of_mem_blockSiblings) h
    have hpairs {i j : Nat} {nodes : List Syntax.Node} : (i, j) ∈ pairTags .htmlBlock nodes ↔
        (i, j) ∈ pairTags .htmlBlock nodes ∧ ∃ opening, nodes[i]? = some opening ∧ True :=
      ⟨fun h ↦ ⟨h, exists_opening_of_mem_pairTags h⟩, fun h ↦ h.1⟩
    simpa only [map_node_blockSiblings] using keepsSiblings_of_related hpairs hrelated

/-- Two start tags and their end tags in the same order. -/
def crossedTags : List Syntax.Node :=
  ["<b>", "<i>", "</b>", "</i>"].map fun source ↦ { kind := .htmlInline, content := source }

/-- Of two pairs that cross, the one that begins first has a bracket, and the tags of the other
stand for themselves. A wrapper in two blocks is one bracket. -/
theorem keepsSiblings_crossedTags :
    ∃ cs blocks, ofInlines (inlineSiblings crossedTags) 0 = .ok cs ∧
      pairTags .htmlInline crossedTags = [(0, 2), (1, 3)] ∧
      bracketsOf 0 (expandList 0 cs) = [(0, 2)] ∧
      KeepsSiblings InlineGives .htmlInline (fun opening ↦ findsTag opening.content = true)
        crossedTags (expandList 0 cs) ∧
      ofBlocks (blockSiblings (wrapper "<div>")) 0 = .ok blocks ∧
      bracketsOf 0 (expandList 0 blocks) = [(0, 1)] ∧
      KeepsSiblings BlockGives .htmlBlock (fun _ ↦ True) (wrapper "<div>")
        (expandList 0 blocks) := by
  have hinlines : ofInlines (inlineSiblings crossedTags) 0 =
      .ok [.htmlElement "b" [] [.htmlElement "i" [] [] "<i>" "" false] "<b>" "</b>" false,
        .rawHtml "</i>"] := by
    with_unfolding_all rfl
  have hstart : sectionStart "<div>" 1 = .ok ("div", [], []) := by
    have hparse : Html.parse "<div>" = .ok [.element "div" [] []] := by
      with_unfolding_all rfl
    rw [sectionStart, readHtml, hparse]
    rfl
  have hblocks := ofBlocks_wrapper (by decide) hstart
  exact ⟨_, _, hinlines, by decide, rfl, keepsSiblings_expandList.1 hinlines, hblocks, rfl,
    keepsSiblings_expandList.2 hblocks⟩

end SafeMarkdown.Document
