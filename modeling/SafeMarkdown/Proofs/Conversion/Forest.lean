import SafeMarkdown.Proofs.Conversion.Outcome
import SafeMarkdown.Proofs.Conversion.Siblings
import SafeMarkdown.Proofs.Syntax.Nesting

/-!
# Well-nested raw HTML

Raw HTML in running text comes as a flat list of siblings. Where its tags are nested properly, the
list is a forest whose brackets have been left out, and conversion finds the forest again
(`ofInlines_flattenList`): every start tag gets its own end tag, at any depth and with any names,
and every node between them is converted as it would be by itself.

What a forest needs is room. An element is a list of its own, also when nothing stands in it, so the
innermost list of the forest counts and not the innermost node: an element without children does not
fit into a list at the limit (`ofInlines_emptyElement`).

The theorem has two directions. A well-nested forest with enough room, all of whose leaves can be
converted where they stand, is converted; and from what it is converted to, the forest can be read
off again, so nothing is lost or moved. What a leaf needs is left to the leaf (`LeafFits`), because
a leaf may be a link or an image with children of its own.
-/

namespace SafeMarkdown.Document

open Syntax (Nest ForallList flattenList leavesOf levelsOf mapList Nested pairTags SupportedInline
  inlineSources inlineSourcesOf)

/-! ### Forests of tags -/

/-- The node stands for itself: it is an inline of a known kind, and if it is raw HTML, then neither
an end tag nor a start tag that leaves its element open. -/
structure IsLeaf (n : Syntax.Node) : Prop where
  supported : SupportedInline n
  not_end : n.kind = .htmlInline → Syntax.endTagName? n.content.toList = none
  closed : n.kind = .htmlInline → ∀ tag, Syntax.startTagName? n.content.toList = some tag →
    Syntax.isSelfClosing n.content.toList tag = true

/-- The two nodes are the tags of an element: a start tag that leaves its element open and that
reading it as HTML finds, and an end tag of its name. -/
structure IsElement (opening closing : Syntax.Node) (tag : String) : Prop where
  opening_kind : opening.kind = .htmlInline
  closing_kind : closing.kind = .htmlInline
  start : Syntax.startTagName? opening.content.toList = some tag
  stays_open : Syntax.isSelfClosing opening.content.toList tag = false
  found : ∃ attrs content, Finds opening.content tag attrs content
  stop : Syntax.endTagName? closing.content.toList = some tag

/-- The forest consists of nodes that stand for themselves and of elements. -/
def WellNested (forest : List (Nest Syntax.Node)) : Prop :=
  ForallList IsLeaf (fun opening closing ↦ ∃ tag, IsElement opening closing tag) forest

mutual

/-- The node of a list at a depth is what a tree of the forest stands for: an element of the tags
around it, with what reading the start tag finds, or what a leaf is by itself. -/
def Recovers (depth : Nat) : Nest Syntax.Node → Node → Prop
  | .leaf n, m => ofInlines (inlineSiblings [n]) depth = .ok [m]
  | .pair opening inner closing, m =>
    ∃ tag attrs content children, Syntax.startTagName? opening.content.toList = some tag ∧
      Finds opening.content tag attrs content ∧ RecoversAll (depth + 1) inner children ∧
      m = .htmlElement tag attrs children opening.content closing.content false

/-- The list at a depth is what the forest stands for, tree by tree. -/
def RecoversAll (depth : Nat) : List (Nest Syntax.Node) → List Node → Prop
  | [], [] => True
  | n :: ns, m :: ms => Recovers depth n m ∧ RecoversAll depth ns ms
  | _, _ => False

end

/-! ### The brackets are found again -/

/-- A leaf is no tag. -/
theorem IsLeaf.role_eq {n : Syntax.Node} (h : IsLeaf n) : n.role .htmlInline = .neither := by
  rcases hrole : n.role .htmlInline with name | name | -
  · obtain ⟨hkind, -, hstart, hopen⟩ := Syntax.role_eq_opening_iff.1 hrole
    rw [h.closed hkind name hstart] at hopen
    cases hopen
  · obtain ⟨hkind, hend⟩ := Syntax.role_eq_closing_iff.1 hrole
    rw [h.not_end hkind] at hend
    cases hend
  · rfl

namespace IsElement

variable {opening closing : Syntax.Node} {tag : String}

/-- The start tag of an element opens. -/
theorem role_opening (h : IsElement opening closing tag) :
    opening.role .htmlInline = .opening tag := by
  have hend : Syntax.endTagName? opening.content.toList = none := by
    refine Option.eq_none_iff_forall_ne_some.2 fun name hname ↦ ?_
    have hnone := Syntax.startTagName?_of_endTagName? hname
    rw [h.start] at hnone
    cases hnone
  exact Syntax.role_eq_opening_iff.2 ⟨h.opening_kind, hend, h.start, h.stays_open⟩

/-- The end tag of an element closes. -/
theorem role_closing (h : IsElement opening closing tag) :
    closing.role .htmlInline = .closing tag :=
  Syntax.role_eq_closing_iff.2 ⟨h.closing_kind, h.stop⟩

/-- Reading the start tag finds it. -/
theorem findsTag_eq (h : IsElement opening closing tag) : findsTag opening.content = true := by
  obtain ⟨attrs, content, nodes, hparse, hfind⟩ := h.found
  simp only [findsTag, h.start, hparse, hfind, Option.isSome_some]

/-- Of the start tag of an element, all is read. -/
theorem openingTag_eq (h : IsElement opening closing tag) :
    ∃ attrs content, Finds opening.content tag attrs content ∧
      openingTag opening.content = .ok (tag, attrs) := by
  obtain ⟨attrs, content, nodes, hparse, hfind⟩ := h.found
  refine ⟨attrs, content, ⟨nodes, hparse, hfind⟩, ?_⟩
  rw [openingTag, readHtml_eq_ok_iff.2 hparse]
  simp only [h.start, Option.getD_some, ok_bind, hfind, Option.map_some, pure_eq_ok]

end IsElement

/-- The brackets of a well-nested forest are pairs of tags. -/
theorem WellNested.nested {forest : List (Nest Syntax.Node)} (h : WellNested forest) :
    Nested (Syntax.Node.role .htmlInline) forest :=
  h.imp (fun _ hn ↦ hn.role_eq)
    fun _ _ ⟨tag, hends⟩ ↦ ⟨tag, hends.role_opening, hends.role_closing⟩

/-- Every start tag of a forest that leaves its element open is found by reading it. -/
theorem WellNested.findsTag_of_mem {forest : List (Nest Syntax.Node)} (h : WellNested forest) :
    ∀ n ∈ flattenList forest, (∃ name, n.role .htmlInline = .opening name) →
      findsTag n.content = true := by
  refine h.forall_mem (fun n hn ↦ ?_) fun opening closing ⟨tag, hends⟩ ↦ ⟨fun _ ↦ ?_, ?_⟩
  · rintro ⟨name, hname⟩
    rw [hn.role_eq] at hname
    cases hname
  · exact hends.findsTag_eq
  · rintro ⟨name, hname⟩
    rw [hends.role_closing] at hname
    cases hname

/-- All pairs count, because reading finds each start tag. -/
theorem inlinePairs_flattenList {forest : List (Nest Syntax.Node)} (h : WellNested forest) :
    inlinePairs (flattenList forest) = pairTags .htmlInline (flattenList forest) := by
  refine List.filter_eq_self.2 fun (i, j) hpair ↦ ?_
  obtain ⟨-, name, opening, -, hopening, -, hrole, -⟩ := Syntax.roles_of_mem_pairTags hpair
  simp only [hopening]
  exact h.findsTag_of_mem opening (List.mem_of_getElem? hopening) ⟨name, hrole⟩

/-- A node with its own conversion as an inline. -/
def inlineSibling (n : Syntax.Node) : Sibling :=
  ⟨n, ofInline n⟩

/-- Siblings are made one by one. -/
theorem inlineSiblings_eq_map (ns : List Syntax.Node) :
    inlineSiblings ns = ns.map inlineSibling := by
  induction ns with
  | nil => rfl
  | cons n ns ih => rw [inlineSiblings, ih, List.map_cons, inlineSibling]

/-- **The siblings of a forest are converted along the forest.** -/
theorem ofInlines_flattenList_eq {forest : List (Nest Syntax.Node)} (h : WellNested forest)
    (depth : Nat) :
    ofInlines (inlineSiblings (flattenList forest)) depth =
      ofInlineNests depth (mapList inlineSibling forest) := by
  rw [ofInlines, map_node_inlineSiblings, inlinePairs_flattenList h, inlineSiblings_eq_map,
    Syntax.build_pairTags_flattenList h.nested]

/-! ### The forest is converted -/

section Convert

variable {depth : Nat}

/-- A node without siblings is converted as it is in a forest. -/
theorem ofInlines_leaf_eq_ok_iff (h : depth ≤ depthLimit) {n : Syntax.Node} {m : Node} :
    ofInlines (inlineSiblings [n]) depth = .ok [m] ↔
      ofInlineNest depth ((Nest.leaf n).map inlineSibling) = .ok m := by
  rw [ofInlines_singleton h, map_eq_ok_iff, Nest.map, inlineSibling]
  simp

/-- A computation that reads readable texts and stays within the limit succeeds. -/
theorem Accounts.succeeds {α : Type} {sources : List String} {x : Converted α}
    (hx : Accounts sources x) (hlimit : x ≠ .error .tooDeep)
    (hread : ∀ s ∈ sources, Html.Readable s) : Succeeds x := by
  cases hx with
  | ok _ => exact succeeds_ok _
  | tooDeep => exact absurd rfl hlimit
  | refused hs h =>
    obtain ⟨nodes, hnodes⟩ := hread _ hs
    rw [hnodes] at h
    cases h

/-- A leaf that can be read and does not meet the limit is converted. -/
theorem IsLeaf.succeeds {n : Syntax.Node} (hn : IsLeaf n)
    (hlimit : ofInlines (inlineSiblings [n]) depth ≠ .error .tooDeep)
    (hread : ∀ s ∈ inlineSources n, Html.Readable s) :
    Succeeds (ofInlines (inlineSiblings [n]) depth) := by
  have haccounts : Accounts (inlineSourcesOf [n]) (ofInlines (inlineSiblings [n]) depth) :=
    accounts_ofInlines (inlineAccounts_inlineSiblings [n] ⟨hn.supported, trivial⟩)
  rw [inlineSourcesOf, inlineSourcesOf, List.append_nil] at haccounts
  exact haccounts.succeeds hlimit hread

/-- The leaf, at its depth, stays within the limit and holds readable HTML. -/
def LeafFits (p : Nat × Syntax.Node) : Prop :=
  ofInlines (inlineSiblings [p.2]) p.1 ≠ .error .tooDeep ∧
    ∀ s ∈ inlineSources p.2, Html.Readable s

mutual

/-- So is a nest within the limit whose leaves fit. -/
theorem succeeds_ofInlineNest : ∀ {n : Nest Syntax.Node} {depth : Nat}, WellNested [n] →
    depth + n.levels ≤ depthLimit → (∀ p ∈ n.leaves depth, LeafFits p) →
      Succeeds (ofInlineNest depth (n.map inlineSibling))
  | .leaf n, depth, ⟨hn, _⟩, hdepth, hleaves => by
    replace hdepth : depth ≤ depthLimit := hdepth
    obtain ⟨hlimit, hread⟩ : LeafFits (depth, n) := hleaves _ (List.mem_singleton_self _)
    obtain ⟨ms, hms⟩ := hn.succeeds hlimit hread
    rw [ofInlines_singleton hdepth] at hms
    obtain ⟨m, hm, -⟩ := map_eq_ok_iff.1 hms
    exact ⟨m, hm⟩
  | .pair opening inner closing, depth, ⟨⟨⟨tag, hends⟩, hinner⟩, _⟩, hdepth, hleaves => by
    obtain ⟨attrs, content, -, htag⟩ := hends.openingTag_eq
    have hlevels : depth + 1 + levelsOf inner ≤ depthLimit := by
      rw [Nest.levels] at hdepth
      omega
    obtain ⟨children, hchildren⟩ := succeeds_ofInlineNests hinner hlevels hleaves
    refine ⟨.htmlElement tag attrs children opening.content closing.content false, ?_⟩
    rw [Nest.map, ofInlineNest]
    simp only [inlineSibling, htag, ok_bind]
    rw [hchildren]
    rfl

/-- So is a list of nests. -/
theorem succeeds_ofInlineNests : ∀ {ns : List (Nest Syntax.Node)} {depth : Nat}, WellNested ns →
    depth + levelsOf ns ≤ depthLimit → (∀ p ∈ leavesOf depth ns, LeafFits p) →
      Succeeds (ofInlineNests depth (mapList inlineSibling ns))
  | [], depth, _, hdepth, _ => by
    replace hdepth : depth ≤ depthLimit := hdepth
    rw [mapList, ofInlineNests, checkDepth_of_le hdepth]
    exact succeeds_ok _
  | n :: ns, depth, ⟨hn, hns⟩, hdepth, hleaves => by
    rw [levelsOf] at hdepth
    obtain ⟨hhead, htail⟩ := List.forall_mem_append.1 hleaves
    obtain ⟨m, hm⟩ := succeeds_ofInlineNest (n := n) ⟨hn, trivial⟩ (by omega) hhead
    obtain ⟨ms, hms⟩ := succeeds_ofInlineNests hns (by omega) htail
    refine ⟨m :: ms, ?_⟩
    rw [mapList, ofInlineNests, checkDepth_of_le (by omega), hm, hms]
    rfl

end

mutual

/-- What a nest is converted to gives the nest back, and the nest was within the limit. -/
theorem recovers_of_ofInlineNest : ∀ {n : Nest Syntax.Node} {depth : Nat} {m : Node},
    WellNested [n] → depth ≤ depthLimit → ofInlineNest depth (n.map inlineSibling) = .ok m →
      depth + n.levels ≤ depthLimit ∧ Recovers depth n m
  | .leaf _, _, _, _, hdepth, h => ⟨hdepth, (ofInlines_leaf_eq_ok_iff hdepth).2 h⟩
  | .pair opening inner closing, depth, _, ⟨⟨⟨tag, hends⟩, hinner⟩, _⟩, _, h => by
    obtain ⟨attrs, content, hfinds, htag⟩ := hends.openingTag_eq
    rw [Nest.map, ofInlineNest] at h
    simp only [inlineSibling, htag, ok_bind] at h
    obtain ⟨children, hchildren, h⟩ := bind_eq_ok_iff.1 h
    obtain ⟨hlevels, hrecovers⟩ := recovers_of_ofInlineNests hinner hchildren
    refine ⟨?_, tag, attrs, content, children, hends.start, hfinds, hrecovers,
      (Except.ok.inj h).symm⟩
    rw [Nest.levels]
    omega

theorem recovers_of_ofInlineNests : ∀ {ns : List (Nest Syntax.Node)} {depth : Nat}
    {ms : List Node}, WellNested ns → ofInlineNests depth (mapList inlineSibling ns) = .ok ms →
      depth + levelsOf ns ≤ depthLimit ∧ RecoversAll depth ns ms
  | [], _, _, _, h => by
    obtain ⟨_, hdepth, h⟩ := bind_eq_ok_iff.1 h
    cases h
    exact ⟨le_depthLimit_of_checkDepth hdepth, trivial⟩
  | n :: ns, depth, _, ⟨hn, hns⟩, h => by
    obtain ⟨m, ms, hm, hms, rfl⟩ := exists_of_checked_eq_ok h
    obtain ⟨hlevels, hrest⟩ := recovers_of_ofInlineNests hns hms
    obtain ⟨hlevels', hfirst⟩ :=
      recovers_of_ofInlineNest (n := n) ⟨hn, trivial⟩ (by omega) hm
    refine ⟨?_, hfirst, hrest⟩
    rw [levelsOf]
    omega

end

end Convert

/-- **Well-nested raw HTML is recovered.** The siblings of a well-nested forest are converted when
the innermost list of the forest is within the limit and the leaves are, by themselves, within it
and readable. Whenever they are converted, the result is the forest, tree by tree, and its innermost
list is within the limit. -/
theorem ofInlines_flattenList {forest : List (Nest Syntax.Node)} (h : WellNested forest)
    (depth : Nat) :
    (depth + levelsOf forest ≤ depthLimit →
      (∀ p ∈ leavesOf depth forest, ofInlines (inlineSiblings [p.2]) p.1 ≠ .error .tooDeep ∧
        ∀ s ∈ inlineSources p.2, Html.Readable s) →
      ∃ nodes, ofInlines (inlineSiblings (flattenList forest)) depth = .ok nodes ∧
        RecoversAll depth forest nodes) ∧
    (∀ nodes, ofInlines (inlineSiblings (flattenList forest)) depth = .ok nodes →
      depth + levelsOf forest ≤ depthLimit ∧ RecoversAll depth forest nodes) := by
  rw [ofInlines_flattenList_eq h]
  refine ⟨fun hlevels hleaves ↦ ?_, fun nodes hnodes ↦ recovers_of_ofInlineNests h hnodes⟩
  obtain ⟨nodes, hnodes⟩ := succeeds_ofInlineNests h hlevels hleaves
  exact ⟨nodes, hnodes, (recovers_of_ofInlineNests h hnodes).2⟩

/-- A piece of raw HTML in running text. -/
def rawTag (source : String) : Syntax.Node :=
  { kind := .htmlInline, content := source }

/-- Italics that hold a line break and further italics. -/
def nestedItalics : List (Nest Syntax.Node) :=
  [.pair (rawTag "<i id=a>")
    [.leaf (rawTag "<br>"),
      .pair (rawTag "<I>") [.leaf { kind := .text, content := "x" }] (rawTag "</i>")]
    (rawTag "</i >")]

theorem wellNested_nestedItalics : WellNested nestedItalics := by
  have hbreak : IsLeaf (rawTag "<br>") := by
    refine ⟨trivial, fun _ ↦ by decide, fun _ tag htag ↦ ?_⟩
    obtain rfl : "br" = tag := by
      have hname : Syntax.startTagName? (rawTag "<br>").content.toList = some "br" := by decide
      exact Option.some.inj (hname.symm.trans htag)
    decide
  have htext : IsLeaf { kind := .text, content := "x" } :=
    ⟨trivial, fun hkind ↦ (nomatch hkind), fun hkind ↦ (nomatch hkind)⟩
  have houter : IsElement (rawTag "<i id=a>") (rawTag "</i >") "i" := by
    have hparse : Html.parse "<i id=a>" = .ok [.element "i" [("id", "a")] []] := by
      with_unfolding_all rfl
    exact ⟨rfl, rfl, by decide, by decide, ⟨_, _, _, hparse, rfl⟩, by decide⟩
  have hinner : IsElement (rawTag "<I>") (rawTag "</i>") "i" := by
    have hparse : Html.parse "<I>" = .ok [.element "i" [] []] := by
      with_unfolding_all rfl
    exact ⟨rfl, rfl, by decide, by decide, ⟨_, _, _, hparse, rfl⟩, by decide⟩
  exact ⟨⟨⟨"i", houter⟩, hbreak, ⟨⟨"i", hinner⟩, htext, trivial⟩, trivial⟩, trivial⟩

/-- Of four tags of one name, the outer two and the inner two belong together. -/
theorem ofInlines_nestedItalics :
    0 + levelsOf nestedItalics ≤ depthLimit ∧
      (∀ p ∈ leavesOf 0 nestedItalics, ofInlines (inlineSiblings [p.2]) p.1 ≠ .error .tooDeep ∧
        ∀ s ∈ inlineSources p.2, Html.Readable s) ∧
      WellNested nestedItalics ∧
      ∃ nodes, ofInlines (inlineSiblings (flattenList nestedItalics)) 0 = .ok nodes ∧
        RecoversAll 0 nestedItalics nodes := by
  have hlevels : 0 + levelsOf nestedItalics ≤ depthLimit := by decide
  have hbreak : ofInlines (inlineSiblings [rawTag "<br>"]) 1 =
      .ok [.htmlElement "br" [] [] "<br>" "" true] := by
    with_unfolding_all rfl
  have htext : ofInlines (inlineSiblings [{ kind := .text, content := "x" }]) 2 =
      .ok [.text "x"] := by
    with_unfolding_all rfl
  have hreadable : Html.Readable "<br>" := ⟨[.element "br" [] []], by with_unfolding_all rfl⟩
  have hleaves : ∀ p ∈ leavesOf 0 nestedItalics, LeafFits p := by
    refine List.forall_mem_cons.2 ⟨⟨?_, ?_⟩, List.forall_mem_singleton.2 ⟨?_, ?_⟩⟩
    · simp [hbreak]
    · exact List.forall_mem_singleton.2 hreadable
    · simp [htext]
    · exact List.forall_mem_nil _
  exact ⟨hlevels, hleaves, wellNested_nestedItalics,
    (ofInlines_flattenList wellNested_nestedItalics 0).1 hlevels hleaves⟩

/-! ### At the limit -/

/-- An element with nothing in it. -/
def emptyElement : List (Nest Syntax.Node) :=
  [.pair (rawTag "<b>") [] (rawTag "</b>")]

/-- **An element without children does not fit into a list at the limit**, although it is a single
node and stands within the limit. -/
theorem ofInlines_emptyElement :
    WellNested emptyElement ∧
      RecoversAll depthLimit emptyElement [.htmlElement "b" [] [] "<b>" "</b>" false] ∧
      (∀ p ∈ flattenList (expandList depthLimit [.htmlElement "b" [] [] "<b>" "</b>" false]),
        p.1 ≤ depthLimit) ∧
      ofInlines (inlineSiblings (flattenList emptyElement)) depthLimit = .error .tooDeep := by
  have hparse : Html.parse "<b>" = .ok [.element "b" [] []] := by
    with_unfolding_all rfl
  have hfinds : Finds "<b>" "b" [] [] := ⟨_, hparse, rfl⟩
  have hends : IsElement (rawTag "<b>") (rawTag "</b>") "b" :=
    ⟨rfl, rfl, by decide, by decide, ⟨_, _, hfinds⟩, by decide⟩
  have hnested : WellNested emptyElement := ⟨⟨⟨"b", hends⟩, trivial⟩, trivial⟩
  refine ⟨hnested, ⟨⟨"b", [], [], [], hends.start, hfinds, trivial, rfl⟩, trivial⟩, ?_, ?_⟩
  · simp [expandList, Node.expand, flattenList, Nest.flatten]
  · with_unfolding_all rfl

end SafeMarkdown.Document
