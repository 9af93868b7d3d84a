import Mathlib.Data.List.Forall2
import SafeMarkdown.Document.OfSyntax
import SafeMarkdown.Proofs.Html.Find
import SafeMarkdown.Proofs.Outcome
import SafeMarkdown.Proofs.Syntax.Pairing
import SafeMarkdown.Proofs.Syntax.Role

/-!
# The rules of conversion

Conversion makes each node of a document from a stretch of neighbouring siblings: from one node of
the syntax tree, or, where two tags pair up, from the two and all that stands between them. The
stretches of a list follow one another and leave nothing out, and a list that is made stands within
the limit of depth. `MadeAt` says so of a list of siblings and a list of nodes.

`ConversionRules` lists the ways in which a node is made, one field for each, with the depth of the
list that it will stand in and with what is known of its stretch. Two relations, one for inlines and
one for blocks, that have all fields hold between a syntax tree and the document that it is
converted to, at every level (`madeAt_ofSyntax`). Whatever is said of converted documents is an
instance of this: how deep they are, what text they hold, which sources their raw elements have.

What is read from HTML text is not made from siblings. The rules for HTML blocks and sections give
the reading as it is.
-/

namespace SafeMarkdown.Document

open Syntax (Kind Nest ForallList flattenList roleInline roleBlock)

/-- Reading the source finds an element of that tag, with these attributes and children. -/
def Finds (source tag : String) (attrs : List Attr) (content : List Markup) : Prop :=
  ∃ nodes, Html.parse source = .ok nodes ∧ Html.find tag nodes = some (attrs, content)

/-- What a section takes from its opening block at a depth: attributes and content of the element
that reading the block finds, and neither where it finds none. -/
def Starts (source tag : String) (depth : Nat) (attrs : List Attr) (leading : List Node) : Prop :=
  ∃ nodes, Html.parse source = .ok nodes ∧
    (Html.find tag nodes = none ∧ attrs = [] ∧ leading = [] ∨
      ∃ content, Html.find tag nodes = some (attrs, content) ∧
        ofMarkups depth content = .ok leading)

/-- The nodes are made from the siblings, each from a stretch of them, and in their order. -/
inductive Made (R : List Syntax.Node → Node → Prop) : List Syntax.Node → List Node → Prop
  | nil : Made R [] []
  | cons {stretch siblings : List Syntax.Node} {n : Node} {ns : List Node} (head : R stretch n)
      (tail : Made R siblings ns) : Made R (stretch ++ siblings) (n :: ns)

/-- The nodes are made from the siblings as a list at a depth, which is within the limit. -/
structure MadeAt (R : Nat → List Syntax.Node → Node → Prop) (depth : Nat)
    (siblings : List Syntax.Node) (ns : List Node) : Prop where
  depth_le : depth ≤ depthLimit
  made : Made (R depth) siblings ns

/-- Every way to make an inline from siblings in a list at a depth respects `I`, and every way to
make a block respects `B`. -/
structure ConversionRules (I B : Nat → List Syntax.Node → Node → Prop) : Prop where
  text : ∀ {depth n}, n.kind = .text ∨ n.kind = .textSpecial → I depth [n] (.text n.content)
  softBreak : ∀ {depth n}, n.kind = .softBreak → I depth [n] .softBreak
  hardBreak : ∀ {depth n}, n.kind = .hardBreak → I depth [n] .hardBreak
  codeSpan : ∀ {depth n}, n.kind = .codeInline → I depth [n] (.codeSpan n.content)
  image : ∀ {depth n}, n.kind = .image →
    I depth [n] (.image ⟨plainText n, addressAttr "src" n, titleAttr n⟩)
  emphasis : ∀ {depth n children}, n.kind = .em → MadeAt I (depth + 1) n.children children →
    I depth [n] (.emphasis children)
  strong : ∀ {depth n children}, n.kind = .strong → MadeAt I (depth + 1) n.children children →
    I depth [n] (.strong children)
  link : ∀ {depth n children}, n.kind = .link → MadeAt I (depth + 1) n.children children →
    I depth [n] (.link ⟨addressAttr "href" n, titleAttr n⟩ children)
  rawHtml : ∀ {depth n}, n.kind = .htmlInline → I depth [n] (.rawHtml n.content)
  lone : ∀ {depth n tag attrs content}, n.kind = .htmlInline →
    Syntax.startTagName? n.content.toList = some tag → Finds n.content tag attrs content →
    I depth [n] (.htmlElement tag attrs [] n.content "" (Syntax.isSelfClosing n.content.toList tag))
  paired : ∀ {depth opening closing inner tag attrs content children},
    opening.kind = .htmlInline → closing.kind = .htmlInline →
    roleInline opening.content = .opening tag → roleInline closing.content = .closing tag →
    Finds opening.content tag attrs content → MadeAt I (depth + 1) inner children →
    I depth (opening :: (inner ++ [closing]))
      (.htmlElement tag attrs children opening.content closing.content false)
  paragraph : ∀ {depth n children}, n.kind = .paragraph →
    MadeAt I (depth + 1) ((n.children.filter fun p ↦ p.kind = .inline).flatMap Syntax.Node.children)
      children →
    B depth [n] (.paragraph children)
  heading : ∀ {depth n level children}, n.kind = .heading → headingLevel n.tag = .ok level →
    MadeAt I (depth + 1) ((n.children.filter fun p ↦ p.kind = .inline).flatMap Syntax.Node.children)
      children →
    B depth [n] (.heading level children)
  blockQuote : ∀ {depth n children}, n.kind = .blockquote →
    MadeAt B (depth + 1) n.children children → B depth [n] (.blockQuote children)
  fence : ∀ {depth n}, n.kind = .fence →
    B depth [n] (.codeBlock ⟨n.content, fenceLanguage? n.info⟩)
  codeBlock : ∀ {depth n}, n.kind = .codeBlock → B depth [n] (.codeBlock ⟨n.content, none⟩)
  bulletList : ∀ {depth n items}, n.kind = .bulletList →
    List.Forall₂ (fun item ns ↦ MadeAt B (depth + 1) item.children ns) n.children items →
    B depth [n] (.list .unordered items (isTight n.children))
  orderedList : ∀ {depth n start items}, n.kind = .orderedList → listStart n = .ok start →
    List.Forall₂ (fun item ns ↦ MadeAt B (depth + 1) item.children ns) n.children items →
    B depth [n] (.list (.ordered start) items (isTight n.children))
  thematicBreak : ∀ {depth n}, n.kind = .hr → B depth [n] .thematicBreak
  htmlBlock : ∀ {depth n nodes children}, n.kind = .htmlBlock → Html.parse n.content = .ok nodes →
    ofMarkups (depth + 1) nodes = .ok children → B depth [n] (.htmlBlock n.content children)
  htmlSection : ∀ {depth opening closing inner tag attrs leading children},
    opening.kind = .htmlBlock → closing.kind = .htmlBlock →
    roleBlock opening.content = .opening tag → roleBlock closing.content = .closing tag →
    Starts opening.content tag (depth + 1) attrs leading → MadeAt B (depth + 1) inner children →
    B depth (opening :: (inner ++ [closing]))
      (.htmlSection tag attrs leading children opening.content closing.content)

/-- Within the limit, the check of the depth passes. -/
theorem checkDepth_of_le {depth : Nat} (h : depth ≤ depthLimit) : checkDepth depth = .ok () :=
  if_neg (Nat.not_lt.2 h)

/-- Where the check of the depth passes, the depth is within the limit. -/
theorem le_depthLimit_of_checkDepth {depth : Nat} {u : Unit} (h : checkDepth depth = .ok u) :
    depth ≤ depthLimit := by
  unfold checkDepth at h
  split at h
  · cases h
  · omega

/-! ### Elements that are found -/

/-- Conversion reads HTML text as reading does; only the failures are its own. -/
theorem readHtml_eq_ok_iff {source : String} {nodes : List Markup} :
    readHtml source = .ok nodes ↔ Html.parse source = .ok nodes :=
  mapError_eq_ok_iff

/-- Where reading finds the tag that a source begins with, an opening tag takes its attributes
from what was found. -/
theorem finds_of_openingTag {source name tag : String} {attrs : List Attr}
    (hname : Syntax.startTagName? source.toList = some name) (hfinds : findsTag source = true)
    (h : openingTag source = .ok (tag, attrs)) :
    tag = name ∧ ∃ content, Finds source name attrs content := by
  unfold openingTag at h
  obtain ⟨nodes, hread, h⟩ := bind_eq_ok_iff.1 h
  have hnodes := readHtml_eq_ok_iff.1 hread
  simp only [findsTag, hname, hnodes, Option.isSome_iff_exists] at hfinds
  obtain ⟨⟨attrs', content⟩, hfind⟩ := hfinds
  cases h
  simp only [hname, Option.getD_some, hfind, Option.map_some, true_and]
  exact ⟨content, nodes, hnodes, hfind⟩

/-- The start of a section has the name that its source begins with. -/
theorem starts_of_sectionStart {source name tag : String} {depth : Nat} {attrs : List Attr}
    {leading : List Node} (hname : Syntax.startTagName? (Text.trim source.toList) = some name)
    (h : sectionStart source depth = .ok (tag, attrs, leading)) :
    tag = name ∧ Starts source name depth attrs leading := by
  unfold sectionStart at h
  simp only [hname, Option.getD_some] at h
  obtain ⟨nodes, hread, h⟩ := bind_eq_ok_iff.1 h
  have hnodes := readHtml_eq_ok_iff.1 hread
  split at h
  · rename_i hfind
    cases h
    exact ⟨rfl, nodes, hnodes, .inl ⟨hfind, rfl, rfl⟩⟩
  · rename_i attrs' content hfind
    obtain ⟨children, hchildren, h⟩ := bind_eq_ok_iff.1 h
    cases h
    exact ⟨rfl, nodes, hnodes, .inr ⟨content, hfind, hchildren⟩⟩

/-! ### Brackets -/

/-- The ends of a bracket among inlines: a start tag that reading finds, and an end tag of the same
name. -/
def InlineEnds (opening closing : Sibling) : Prop :=
  ∃ tag, opening.node.role .htmlInline = .opening tag ∧
    closing.node.role .htmlInline = .closing tag ∧ findsTag opening.node.content = true

/-- The ends of a bracket among blocks: a block that leaves an element open, and its end tag. -/
def BlockEnds (opening closing : Sibling) : Prop :=
  ∃ tag, opening.node.role .htmlBlock = .opening tag ∧ closing.node.role .htmlBlock = .closing tag

/-- The siblings at the two positions of a pair, and what their nodes are. -/
theorem roles_of_mem_pairTags_map {kind : Kind} {siblings : List Sibling} {i j : Nat}
    (h : (i, j) ∈ Syntax.pairTags kind (siblings.map Sibling.node)) {opening closing : Sibling}
    (hopening : siblings[i]? = some opening) (hclosing : siblings[j]? = some closing) :
    ∃ tag, opening.node.role kind = .opening tag ∧ closing.node.role kind = .closing tag := by
  obtain ⟨-, tag, n, m, hn, hm, hrole, hrole'⟩ := Syntax.roles_of_mem_pairTags h
  rw [List.getElem?_map, hopening] at hn
  rw [List.getElem?_map, hclosing] at hm
  obtain rfl := Option.some.inj hn
  obtain rfl := Option.some.inj hm
  exact ⟨tag, hrole, hrole'⟩

/-- In the brackets that pairing builds from inlines, the ends pair up and every leaf is a sibling.
-/
theorem forallList_inlines {L : Sibling → Prop} {siblings : List Sibling}
    (hs : ∀ s ∈ siblings, L s) :
    ForallList L InlineEnds
      (Nest.build (inlinePairs (siblings.map Sibling.node)) 0 siblings) := by
  refine Syntax.forallList_build hs (fun {i j} h ↦ ?_) 0 siblings (by simp)
  obtain ⟨hpair, hfinds⟩ := List.mem_filter.1 h
  refine ⟨(Syntax.roles_of_mem_pairTags hpair).1, fun {opening closing} hopening hclosing ↦ ?_⟩
  obtain ⟨tag, hrole, hrole'⟩ := roles_of_mem_pairTags_map hpair hopening hclosing
  refine ⟨tag, hrole, hrole', ?_⟩
  simpa [List.getElem?_map, hopening] using hfinds

theorem forallList_blocks {L : Sibling → Prop} {siblings : List Sibling}
    (hs : ∀ s ∈ siblings, L s) :
    ForallList L BlockEnds
      (Nest.build (Syntax.pairTags .htmlBlock (siblings.map Sibling.node)) 0 siblings) := by
  refine Syntax.forallList_build hs (fun {i j} h ↦ ?_) 0 siblings (by simp)
  refine ⟨(Syntax.roles_of_mem_pairTags h).1, fun {opening closing} hopening hclosing ↦ ?_⟩
  exact roles_of_mem_pairTags_map h hopening hclosing

/-! ### The rules applied -/

/-- The conversion that a sibling brings makes only nodes that are related to the sibling. -/
def Gives (R : Nat → List Syntax.Node → Node → Prop) (s : Sibling) : Prop :=
  ∀ {depth n}, s.convert depth = .ok n → R depth [s.node] n

/-- The nodes of the siblings that a bracketed one stands for. -/
def nestNodes (x : Nest Sibling) : List Syntax.Node :=
  x.flatten.map Sibling.node

/-- The nodes of the siblings of a bracketed list. -/
def nestsNodes (xs : List (Nest Sibling)) : List Syntax.Node :=
  (flattenList xs).map Sibling.node

/-- A leaf stands for one node. -/
theorem nestNodes_leaf (s : Sibling) : nestNodes (.leaf s) = [s.node] := rfl

/-- A bracket stands for its ends and all between them. -/
theorem nestNodes_pair (opening closing : Sibling) (inner : List (Nest Sibling)) :
    nestNodes (.pair opening inner closing) =
      opening.node :: (nestsNodes inner ++ [closing.node]) := by
  simp [nestNodes, nestsNodes, Nest.flatten]

/-- The nodes of a list of nests are those of each in turn. -/
theorem nestsNodes_cons (x : Nest Sibling) (xs : List (Nest Sibling)) :
    nestsNodes (x :: xs) = nestNodes x ++ nestsNodes xs := by
  simp [nestNodes, nestsNodes, flattenList]

/-- Bracketing the conversions of some nodes leaves the nodes as they are. -/
theorem nestsNodes_build (pairs : List (Nat × Nat)) (siblings : List Sibling) :
    nestsNodes (Nest.build pairs 0 siblings) = siblings.map Sibling.node := by
  rw [nestsNodes, Syntax.flatten_build]

/-- The siblings of a list are its nodes, each with its conversion. -/
theorem map_node_inlineSiblings (ns : List Syntax.Node) :
    (inlineSiblings ns).map Sibling.node = ns := by
  induction ns with
  | nil => rfl
  | cons n ns ih => rw [inlineSiblings, List.map_cons, ih]

theorem map_node_blockSiblings (ns : List Syntax.Node) :
    (blockSiblings ns).map Sibling.node = ns := by
  induction ns with
  | nil => rfl
  | cons n ns ih => rw [blockSiblings, List.map_cons, ih]

/-- A node without siblings stays unpaired. -/
theorem ofInlines_singleton {depth : Nat} (h : depth ≤ depthLimit) (n : Syntax.Node) :
    ofInlines (inlineSiblings [n]) depth =
      (ofInlineNest depth (.leaf ⟨n, ofInline n⟩)).map fun m ↦ [m] := by
  have hpairs : inlinePairs [n] = [] := by
    rw [inlinePairs, Syntax.pairTags_singleton, List.filter_nil]
  rw [ofInlines, map_node_inlineSiblings, hpairs, inlineSiblings, inlineSiblings,
    Syntax.build_singleton, ofInlineNests, ofInlineNests, checkDepth_of_le h]
  cases ofInlineNest depth (.leaf ⟨n, ofInline n⟩) <;> rfl

variable {R : Nat → List Syntax.Node → Node → Prop}

/-- An empty list is made from no siblings, within the limit. -/
theorem madeAt_nil {depth : Nat} {ns : List Node}
    (h : (do checkDepth depth; return [] : Converted (List Node)) = .ok ns) :
    MadeAt R depth [] ns := by
  obtain ⟨u, hdepth, h⟩ := bind_eq_ok_iff.1 h
  cases h
  exact ⟨le_depthLimit_of_checkDepth hdepth, .nil⟩

/-- A node in front is made from the stretch in front. -/
theorem MadeAt.cons {depth : Nat} {stretch siblings : List Syntax.Node} {n : Node} {ns : List Node}
    (head : R depth stretch n) (tail : MadeAt R depth siblings ns) :
    MadeAt R depth (stretch ++ siblings) (n :: ns) :=
  ⟨tail.depth_le, .cons head tail.made⟩

namespace ConversionRules

variable {I B : Nat → List Syntax.Node → Node → Prop}

/-! ### Inlines -/

/-- A tag on its own is made by the rule for one of the ways in which it is read. -/
theorem made_of_ofLoneTag (hR : ConversionRules I B) {depth : Nat} {s : Syntax.Node} {n : Node}
    (hkind : s.kind = .htmlInline) (h : ofLoneTag s.content = .ok n) : I depth [s] n := by
  unfold ofLoneTag at h
  split at h
  · cases h
    exact hR.rawHtml hkind
  · rename_i tag htag
    obtain ⟨nodes, hread, h⟩ := bind_eq_ok_iff.1 h
    split at h
    · cases h
      exact hR.rawHtml hkind
    · rename_i attrs content hfind
      cases h
      exact hR.lone hkind htag ⟨nodes, readHtml_eq_ok_iff.1 hread, hfind⟩

mutual

/-- The node for a bracket or leaf is made from the nodes that the nest stands for. -/
theorem made_of_ofInlineNest (hR : ConversionRules I B) {depth : Nat} :
    ∀ {x : Nest Sibling} {n : Node}, x.Forall (Gives I) InlineEnds →
      ofInlineNest depth x = .ok n → I depth (nestNodes x) n
  | .leaf s, _, hx, h => by
    rw [ofInlineNest] at h
    rw [nestNodes_leaf]
    split at h
    · rename_i hkind
      exact hR.made_of_ofLoneTag hkind h
    · exact hx h
  | .pair opening inner closing, _, ⟨⟨tag, hopening, hclosing, hfinds⟩, hinner⟩, h => by
    rw [ofInlineNest] at h
    obtain ⟨⟨tag', attrs⟩, htag, h⟩ := bind_eq_ok_iff.1 h
    obtain ⟨children, hchildren, h⟩ := bind_eq_ok_iff.1 h
    cases h
    have hkind : opening.node.kind = .htmlInline := Syntax.kind_eq_of_role (by simp [hopening])
    have hkind' : closing.node.kind = .htmlInline := Syntax.kind_eq_of_role (by simp [hclosing])
    replace hopening := Syntax.roleInline_of_role hopening (by simp)
    replace hclosing := Syntax.roleInline_of_role hclosing (by simp)
    -- the tag that is read is the one that the source begins with, because the pair was kept
    obtain ⟨rfl, content, hfound⟩ :=
      finds_of_openingTag (Syntax.startTagName?_of_roleInline hopening) hfinds htag
    rw [nestNodes_pair]
    exact hR.paired hkind hkind' hopening hclosing hfound
      (madeAt_of_ofInlineNests hR hinner hchildren)

/-- The same of a list of nests, stretch by stretch. -/
theorem madeAt_of_ofInlineNests (hR : ConversionRules I B) {depth : Nat} :
    ∀ {xs : List (Nest Sibling)} {ns : List Node}, ForallList (Gives I) InlineEnds xs →
      ofInlineNests depth xs = .ok ns → MadeAt I depth (nestsNodes xs) ns
  | [], _, _, h => madeAt_nil h
  | x :: xs, _, hxs, h => by
    obtain ⟨first, rest, hfirst, hrest, rfl⟩ := exists_of_checked_eq_ok h
    rw [nestsNodes_cons]
    exact .cons (made_of_ofInlineNest hR hxs.1 hfirst) (madeAt_of_ofInlineNests hR hxs.2 hrest)

end

/-- A list of inlines is made from its siblings, if each sibling gives a node by the rules. -/
theorem madeAt_of_ofInlines (hR : ConversionRules I B) {ns : List Syntax.Node} {depth : Nat}
    {cs : List Node} (hs : ∀ s ∈ inlineSiblings ns, Gives I s)
    (h : ofInlines (inlineSiblings ns) depth = .ok cs) : MadeAt I depth ns cs := by
  have hmade := hR.madeAt_of_ofInlineNests (forallList_inlines hs) h
  rwa [nestsNodes_build, map_node_inlineSiblings] at hmade

mutual

/-- Every inline gives a node by the rules. This is the step of the induction on the syntax tree. -/
theorem gives_ofInline (hR : ConversionRules I B) :
    ∀ n : Syntax.Node, Gives I ⟨n, ofInline n⟩
  | ⟨kind, content, tag, info, hidden, attrs, children⟩, depth, m, h => by
    have hchildren := gives_inlineSiblings hR children
    cases kind <;> simp only [ofInline] at h
    case text =>
      cases h
      exact hR.text (.inl rfl)
    case textSpecial =>
      cases h
      exact hR.text (.inr rfl)
    case softBreak =>
      cases h
      exact hR.softBreak rfl
    case hardBreak =>
      cases h
      exact hR.hardBreak rfl
    case codeInline =>
      cases h
      exact hR.codeSpan rfl
    case em =>
      obtain ⟨cs, hcs, rfl⟩ := map_eq_ok_iff.1 h
      exact hR.emphasis rfl (hR.madeAt_of_ofInlines hchildren hcs)
    case strong =>
      obtain ⟨cs, hcs, rfl⟩ := map_eq_ok_iff.1 h
      exact hR.strong rfl (hR.madeAt_of_ofInlines hchildren hcs)
    case link =>
      obtain ⟨cs, hcs, rfl⟩ := map_eq_ok_iff.1 h
      exact hR.link rfl (hR.madeAt_of_ofInlines hchildren hcs)
    case image =>
      cases h
      exact hR.image rfl
    all_goals cases h

/-- So does every sibling of a list of inlines. -/
theorem gives_inlineSiblings (hR : ConversionRules I B) :
    ∀ ns : List Syntax.Node, ∀ s ∈ inlineSiblings ns, Gives I s
  | [], _, hs => by simp [inlineSiblings] at hs
  | n :: ns, s, hs => by
    rcases List.mem_cons.1 hs with rfl | hs
    · exact gives_ofInline hR n
    · exact gives_inlineSiblings hR ns s hs

end

/-- The inlines of a paragraph or heading are made from the children of its inline parts. -/
theorem madeAt_of_ofParts (hR : ConversionRules I B) {parts : List Syntax.Node} {depth : Nat}
    {cs : List Node} (h : ofParts parts depth = .ok cs) :
    MadeAt I depth ((parts.filter fun p ↦ p.kind = .inline).flatMap Syntax.Node.children) cs :=
  hR.madeAt_of_ofInlines (hR.gives_inlineSiblings _) h

/-! ### Blocks -/

mutual

/-- The node for a bracket or leaf among blocks is made from the nodes that the nest stands for. -/
theorem made_of_ofBlockNest (hR : ConversionRules I B) {depth : Nat} :
    ∀ {x : Nest Sibling} {n : Node}, x.Forall (Gives B) BlockEnds →
      ofBlockNest depth x = .ok n → B depth (nestNodes x) n
  | .leaf _, _, hx, h => hx h
  | .pair opening inner closing, _, ⟨⟨tag, hopening, hclosing⟩, hinner⟩, h => by
    rw [ofBlockNest] at h
    obtain ⟨⟨tag', attrs, leading⟩, hstart, h⟩ := bind_eq_ok_iff.1 h
    obtain ⟨children, hchildren, h⟩ := bind_eq_ok_iff.1 h
    cases h
    have hkind : opening.node.kind = .htmlBlock := Syntax.kind_eq_of_role (by simp [hopening])
    have hkind' : closing.node.kind = .htmlBlock := Syntax.kind_eq_of_role (by simp [hclosing])
    replace hopening := Syntax.roleBlock_of_role hopening (by simp)
    replace hclosing := Syntax.roleBlock_of_role hclosing (by simp)
    obtain ⟨rfl, hstarts⟩ :=
      starts_of_sectionStart (Syntax.startTagName?_of_roleBlock hopening) hstart
    rw [nestNodes_pair]
    exact hR.htmlSection hkind hkind' hopening hclosing hstarts
      (madeAt_of_ofBlockNests hR hinner hchildren)

theorem madeAt_of_ofBlockNests (hR : ConversionRules I B) {depth : Nat} :
    ∀ {xs : List (Nest Sibling)} {ns : List Node}, ForallList (Gives B) BlockEnds xs →
      ofBlockNests depth xs = .ok ns → MadeAt B depth (nestsNodes xs) ns
  | [], _, _, h => madeAt_nil h
  | x :: xs, _, hxs, h => by
    obtain ⟨first, rest, hfirst, hrest, rfl⟩ := exists_of_checked_eq_ok h
    rw [nestsNodes_cons]
    exact .cons (made_of_ofBlockNest hR hxs.1 hfirst) (madeAt_of_ofBlockNests hR hxs.2 hrest)

end

/-- A list of blocks is made from its siblings, if each sibling gives a node by the rules. -/
theorem madeAt_of_givesBlocks (hR : ConversionRules I B) {ns : List Syntax.Node} {depth : Nat}
    {cs : List Node} (hs : ∀ s ∈ blockSiblings ns, Gives B s)
    (h : ofBlocks (blockSiblings ns) depth = .ok cs) : MadeAt B depth ns cs := by
  have hmade := hR.madeAt_of_ofBlockNests (forallList_blocks hs) h
  rwa [nestsNodes_build, map_node_blockSiblings] at hmade

mutual

/-- Every block gives a node by the rules. -/
theorem gives_ofBlock (hR : ConversionRules I B) : ∀ n : Syntax.Node, Gives B ⟨n, ofBlock n⟩
  | ⟨kind, content, tag, info, hidden, attrs, children⟩, depth, m, h => by
    have hchildren := gives_blockSiblings hR children
    cases kind <;> simp only [ofBlock] at h
    case paragraph =>
      obtain ⟨cs, hcs, rfl⟩ := map_eq_ok_iff.1 h
      exact hR.paragraph rfl (hR.madeAt_of_ofParts hcs)
    case heading =>
      obtain ⟨level, hlevel, h⟩ := bind_eq_ok_iff.1 h
      obtain ⟨cs, hcs, rfl⟩ := map_eq_ok_iff.1 h
      exact hR.heading rfl hlevel (hR.madeAt_of_ofParts hcs)
    case blockquote =>
      obtain ⟨cs, hcs, rfl⟩ := map_eq_ok_iff.1 h
      exact hR.blockQuote rfl (hR.madeAt_of_givesBlocks hchildren hcs)
    case fence =>
      cases h
      exact hR.fence rfl
    case codeBlock =>
      cases h
      exact hR.codeBlock rfl
    case bulletList =>
      obtain ⟨items, hitems, h⟩ := bind_eq_ok_iff.1 h
      cases h
      exact hR.bulletList rfl (forall₂_of_itemSiblings hR children hitems)
    case orderedList =>
      obtain ⟨start, hstart, h⟩ := bind_eq_ok_iff.1 h
      obtain ⟨items, hitems, h⟩ := bind_eq_ok_iff.1 h
      cases h
      exact hR.orderedList rfl hstart (forall₂_of_itemSiblings hR children hitems)
    case hr =>
      cases h
      exact hR.thematicBreak rfl
    case htmlBlock =>
      obtain ⟨nodes, hread, h⟩ := bind_eq_ok_iff.1 h
      obtain ⟨cs, hcs, h⟩ := bind_eq_ok_iff.1 h
      cases h
      exact hR.htmlBlock rfl (readHtml_eq_ok_iff.1 hread) hcs
    all_goals cases h

/-- So does every sibling of a list of blocks. -/
theorem gives_blockSiblings (hR : ConversionRules I B) :
    ∀ ns : List Syntax.Node, ∀ s ∈ blockSiblings ns, Gives B s
  | [], _, hs => by simp [blockSiblings] at hs
  | n :: ns, s, hs => by
    rcases List.mem_cons.1 hs with rfl | hs
    · exact gives_ofBlock hR n
    · exact gives_blockSiblings hR ns s hs

/-- The items of a list are made from the children of the item nodes. -/
theorem forall₂_of_itemSiblings (hR : ConversionRules I B) {depth : Nat} :
    ∀ (ns : List Syntax.Node) {items : List (List Node)},
      ((itemSiblings ns).mapM fun item ↦ ofBlocks item depth) = .ok items →
        List.Forall₂ (fun item cs ↦ MadeAt B depth item.children cs) ns items
  | [], _, h => by
    cases h
    exact .nil
  | ⟨_, _, _, _, _, _, children⟩ :: ns, _, h => by
    rw [itemSiblings, List.mapM_cons] at h
    obtain ⟨first, hfirst, h⟩ := bind_eq_ok_iff.1 h
    obtain ⟨rest, hrest, h⟩ := bind_eq_ok_iff.1 h
    cases h
    exact .cons (hR.madeAt_of_givesBlocks (gives_blockSiblings hR children) hfirst)
      (forall₂_of_itemSiblings hR ns hrest)

end

/-- **A converted list of blocks is made by the rules**, from all its siblings in order. -/
theorem madeAt_of_ofBlocks (hR : ConversionRules I B) {ns : List Syntax.Node} {depth : Nat}
    {blocks : List Node} (h : ofBlocks (blockSiblings ns) depth = .ok blocks) :
    MadeAt B depth ns blocks :=
  hR.madeAt_of_givesBlocks (hR.gives_blockSiblings ns) h

/-- **Conversion keeps to the rules**: a document is made from its syntax tree by them. -/
theorem madeAt_ofSyntax (hR : ConversionRules I B) {tree : List Syntax.Node} {blocks : List Node}
    (h : ofSyntax tree = .ok blocks) : MadeAt B 0 tree blocks :=
  hR.madeAt_of_ofBlocks h

end ConversionRules

end SafeMarkdown.Document
