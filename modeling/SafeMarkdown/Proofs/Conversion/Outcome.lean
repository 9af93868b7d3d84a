import SafeMarkdown.Proofs.Conversion.Closure
import SafeMarkdown.Proofs.Conversion.Supported
import SafeMarkdown.Proofs.Html.Refusal

/-!
# How conversion ends

Conversion of a syntax tree with supported nodes ends in one of three ways: in a document, at the
limit of depth, or at a text that HTML reading refuses. `Accounts` says so of a computation and the
texts that it reads, and adds that a computation which succeeds has read them all. That makes it
compositional: `Accounts.bind` joins the texts of two steps, and the induction over a tree collects
them in the order in which they are read. The first text that is refused ends the conversion, and
so does the limit of depth if it is met before; which of the two comes first depends on the tree,
and is left open here.

The induction follows the conversion. Siblings are paired first, by the roles of their raw HTML, and
converted as a nest: a leaf by the rule of its own kind, and a pair from its opening tag and what
stands between. So what is known of a sibling by itself (`InlineAccounts`, `BlockAccounts`) is
carried over nests first, where the tags of pairs are read (`accounts_ofInlineNests`,
`accounts_ofBlockNests`), and then over the tree, one case for each kind of node
(`inlineAccounts_ofInline`, `blockAccounts_ofBlock`). The texts of a nest are those of its flat list
of siblings, so the order of reading is that of the tree.

The end tag of a section is not read at all. It still counts among the texts of its tree, which does
no harm, as an end tag is never refused.
-/

namespace SafeMarkdown.Document

open Html (Readable)
open Syntax (Nest ForallList flattenList tagSources inlineSources inlineSourcesOf partSources
  blockSources blockSourcesOf itemSourcesOf SupportedInline SupportedInlines SupportedParts
  SupportedBlock SupportedBlocks SupportedItems)

variable {α β : Type} {S T : List String}

/-- How a computation ends that reads the texts: with all of them read, at the limit of depth, or at
one of them that is refused. -/
inductive Accounts (sources : List String) : Converted α → Prop
  | ok {a : α} (h : ∀ s ∈ sources, Readable s) : Accounts sources (.ok a)
  | tooDeep : Accounts sources (.error .tooDeep)
  | refused {s : String} {r : Html.Rejection} (hs : s ∈ sources) (h : Html.parse s = .error r) :
    Accounts sources (.error (.refusedHtml r))

/-! ### Steps -/

/-- A computation that reads nothing and succeeds. -/
theorem accounts_ok (a : α) : Accounts [] (.ok a : Converted α) :=
  .ok (List.forall_mem_nil _)

/-- The check of the depth reads nothing. -/
theorem accounts_checkDepth (depth : Nat) : Accounts [] (checkDepth depth) := by
  unfold checkDepth
  split
  · exact .tooDeep
  · exact accounts_ok ()

/-- Reading HTML reads its text, and ends with it or at it. -/
theorem accounts_readHtml (source : String) : Accounts [source] (readHtml source) := by
  rcases Html.readable_or_refused source with ⟨nodes, h⟩ | ⟨r, h⟩
  · rw [readHtml, h]
    exact .ok (List.forall_mem_singleton.2 ⟨nodes, h⟩)
  · rw [readHtml, h]
    exact .refused (List.mem_singleton_self source) h

/-- **Two steps read the texts of both**, the second only after the first has succeeded. Where the
first fails, the texts of the second do not matter. -/
theorem Accounts.bind {x : Converted α} {f : α → Converted β} (hx : Accounts S x)
    (hf : ∀ a, x = .ok a → Accounts T (f a)) : Accounts (S ++ T) (x >>= f) := by
  cases hx with
  | tooDeep => exact .tooDeep
  | refused hs h => exact .refused (List.mem_append_left T hs) h
  | @ok a h =>
    have hy := hf a rfl
    rw [ok_bind]
    generalize f a = y at hy
    cases hy with
    | ok h' => exact .ok (List.forall_mem_append.2 ⟨h, h'⟩)
    | tooDeep => exact .tooDeep
    | refused hs h' => exact .refused (List.mem_append_right S hs) h'

/-- The texts may be listed otherwise, and readable ones may be added. -/
theorem Accounts.mono {x : Converted α} (hx : Accounts S x) (hsub : S ⊆ T)
    (hrest : ∀ s ∈ T, s ∈ S ∨ Readable s) : Accounts T x := by
  cases hx with
  | ok h => exact .ok fun s hs ↦ (hrest s hs).elim (h s) id
  | tooDeep => exact .tooDeep
  | refused hs h => exact .refused (hsub hs) h

/-- What is done with the result of a step reads nothing more. -/
theorem Accounts.bind_pure {x : Converted α} {f : α → β} (hx : Accounts S x) :
    Accounts S (x >>= fun a ↦ .ok (f a)) := by
  have h := hx.bind fun a _ ↦ accounts_ok (f a)
  rwa [List.append_nil] at h

/-- The same for a result that is passed through a function. -/
theorem Accounts.map {x : Converted α} {f : α → β} (hx : Accounts S x) : Accounts S (x.map f) := by
  cases hx with
  | ok h => exact .ok h
  | tooDeep => exact .tooDeep
  | refused hs h => exact .refused hs h

/-! ### Lists -/

/-- An empty list of siblings is checked for its depth, and that is all. -/
theorem accounts_nil (depth : Nat) :
    Accounts [] (do checkDepth depth; return [] : Converted (List α)) :=
  (accounts_checkDepth depth).bind_pure

/-- A list of siblings: the check of the depth, the first one and then the rest. -/
theorem Accounts.cons {x : Converted α} {xs : Converted (List α)} (depth : Nat)
    (hx : Accounts S x) (hxs : Accounts T xs) :
    Accounts (S ++ T) (do checkDepth depth; return (← x) :: (← xs)) :=
  (accounts_checkDepth depth).bind fun _ _ ↦ hx.bind fun _ _ ↦ hxs.bind_pure

mutual

/-- A tree that was read is converted without reading again. -/
theorem accounts_ofMarkup {depth : Nat} : ∀ m : Markup, Accounts [] (ofMarkup depth m)
  | .text value => accounts_ok (Node.text value)
  | .element _ _ content => by
    rw [ofMarkup]
    exact (accounts_ofMarkups content).bind_pure

/-- The same for a list of trees. -/
theorem accounts_ofMarkups {depth : Nat} : ∀ ms : List Markup, Accounts [] (ofMarkups depth ms)
  | [] => accounts_nil depth
  | m :: ms => (accounts_ofMarkup m).cons depth (accounts_ofMarkups ms)

end

/-! ### Inlines -/

/-- A start tag in running text is read. -/
theorem tagSources_of_startTagName? {source tag : String}
    (h : Syntax.startTagName? source.toList = some tag) : tagSources source = [source] := by
  rw [tagSources, h]
  rfl

/-- An end tag in running text is not read: it either closes a pair or is shown as it is. -/
theorem tagSources_of_endTagName? {source tag : String}
    (h : Syntax.endTagName? source.toList = some tag) : tagSources source = [] := by
  rw [tagSources, Syntax.startTagName?_of_endTagName? h]
  rfl

/-- The texts of a raw HTML node in running text are those of its tag. -/
theorem inlineSources_of_kind {n : Syntax.Node} (h : n.kind = .htmlInline) :
    inlineSources n = tagSources n.content := by
  obtain ⟨kind, content, tag, info, hidden, attrs, children⟩ := n
  obtain rfl : kind = .htmlInline := h
  rw [inlineSources]

/-- A tag that pairs with no other: a start tag is read for its attributes, and any other tag is
shown as it is. -/
theorem accounts_ofLoneTag (source : String) : Accounts (tagSources source) (ofLoneTag source) := by
  unfold ofLoneTag
  split
  · rename_i h
    rw [tagSources, h]
    exact accounts_ok _
  · rename_i tag h
    rw [tagSources_of_startTagName? h, ← List.append_nil [source]]
    refine (accounts_readHtml source).bind fun nodes _ ↦ ?_
    split
    · exact accounts_ok _
    · exact accounts_ok _

/-- The opening tag of a pair is read. -/
theorem accounts_openingTag (source : String) : Accounts [source] (openingTag source) :=
  (accounts_readHtml source).bind_pure

/-- What is known of a sibling among inlines; the conversion that raw HTML brings is not used. -/
def InlineAccounts (s : Sibling) : Prop :=
  s.node.kind = .htmlInline ∨ ∀ depth, Accounts (inlineSources s.node) (s.convert depth)

mutual

/-- One inline of a nest. A pair reads its opening tag, then what is between, and its closing tag is
never read. -/
theorem accounts_ofInlineNest (depth : Nat) : ∀ x : Nest Sibling,
    x.Forall InlineAccounts InlineEnds →
      Accounts (x.flatten.flatMap fun s ↦ inlineSources s.node) (ofInlineNest depth x)
  | .leaf s, hx => by
    rw [Nest.flatten, List.flatMap_singleton, ofInlineNest]
    split
    · rename_i hkind
      rw [inlineSources_of_kind hkind]
      exact accounts_ofLoneTag _
    · rename_i hkind
      exact hx.resolve_left hkind depth
  | .pair opening inner closing, ⟨⟨tag, hopening, hclosing, _⟩, hinner⟩ => by
    have hread := accounts_openingTag opening.node.content
    have hchildren := accounts_ofInlineNests (depth + 1) inner hinner
    have hopen := Syntax.startTagName?_of_roleInline (Syntax.roleInline_of_role hopening (by simp))
    have hclose := Syntax.endTagName?_of_roleInline (Syntax.roleInline_of_role hclosing (by simp))
    rw [Nest.flatten, List.flatMap_cons, List.flatMap_append, List.flatMap_singleton,
      inlineSources_of_kind (Syntax.kind_eq_of_role (by simp [hopening])),
      inlineSources_of_kind (Syntax.kind_eq_of_role (by simp [hclosing])),
      tagSources_of_startTagName? hopen, tagSources_of_endTagName? hclose, List.append_nil,
      ofInlineNest]
    exact hread.bind fun (_, _) _ ↦ hchildren.bind_pure

/-- A list of inlines of a nest, in order. -/
theorem accounts_ofInlineNests (depth : Nat) : ∀ xs : List (Nest Sibling),
    ForallList InlineAccounts InlineEnds xs →
      Accounts ((flattenList xs).flatMap fun s ↦ inlineSources s.node) (ofInlineNests depth xs)
  | [], _ => accounts_nil depth
  | x :: xs, ⟨hx, hxs⟩ => by
    rw [flattenList, List.flatMap_append]
    exact (accounts_ofInlineNest depth x hx).cons depth (accounts_ofInlineNests depth xs hxs)

end

/-- The texts of siblings among inlines are those of the nodes they come from. -/
theorem flatMap_inlineSiblings : ∀ ns : List Syntax.Node,
    ((inlineSiblings ns).flatMap fun s ↦ inlineSources s.node) = inlineSourcesOf ns
  | [] => rfl
  | n :: ns => by
    rw [inlineSiblings, List.flatMap_cons, flatMap_inlineSiblings ns, inlineSourcesOf]

/-- A list of inlines, once its raw HTML has been paired. -/
theorem accounts_ofInlines {ns : List Syntax.Node} {depth : Nat}
    (hs : ∀ s ∈ inlineSiblings ns, InlineAccounts s) :
    Accounts (inlineSourcesOf ns) (ofInlines (inlineSiblings ns) depth) := by
  have h := accounts_ofInlineNests depth _ (forallList_inlines hs)
  rwa [Syntax.flatten_build, flatMap_inlineSiblings] at h

mutual

/-- An inline by its kind. Text, breaks, code and images read nothing; a raw tag is left to the
nest. -/
theorem inlineAccounts_ofInline : ∀ n : Syntax.Node, SupportedInline n →
    InlineAccounts ⟨n, ofInline n⟩
  | ⟨kind, content, tag, info, hidden, attrs, children⟩, h => by
    cases kind
    case htmlInline => exact .inl rfl
    case text | textSpecial | softBreak | hardBreak | codeInline | image =>
      exact .inr fun _ ↦ accounts_ok _
    case em | strong | link =>
      exact .inr fun _ ↦ (accounts_ofInlines (inlineAccounts_inlineSiblings children h)).map
    all_goals exact h.elim

/-- The same for all siblings of a list. -/
theorem inlineAccounts_inlineSiblings : ∀ ns : List Syntax.Node, SupportedInlines ns →
    ∀ s ∈ inlineSiblings ns, InlineAccounts s
  | [], _, _, hs => by simp [inlineSiblings] at hs
  | n :: ns, ⟨hn, hns⟩, s, hs => by
    rcases List.mem_cons.1 hs with rfl | hs
    · exact inlineAccounts_ofInline n hn
    · exact inlineAccounts_inlineSiblings ns hns s hs

end

/-! ### Blocks -/

/-- The inline content of a block. -/
theorem accounts_ofParts {parts : List Syntax.Node} (h : SupportedParts parts) (depth : Nat) :
    Accounts (partSources parts) (ofParts parts depth) :=
  accounts_ofInlines (inlineAccounts_inlineSiblings _ h)

/-- The text of an HTML block is its whole source. -/
theorem blockSources_of_kind {n : Syntax.Node} (h : n.kind = .htmlBlock) :
    blockSources n = [n.content] := by
  obtain ⟨kind, content, tag, info, hidden, attrs, children⟩ := n
  obtain rfl : kind = .htmlBlock := h
  rw [blockSources]

/-- The block that opens a section is read for the element that it leaves open. -/
theorem accounts_sectionStart (source : String) (depth : Nat) :
    Accounts [source] (sectionStart source depth) := by
  rw [← List.append_nil [source]]
  refine (accounts_readHtml source).bind fun nodes _ ↦ ?_
  split
  · exact accounts_ok _
  · exact (accounts_ofMarkups _).bind_pure

/-- What is known of a sibling among blocks. -/
def BlockAccounts (s : Sibling) : Prop :=
  ∀ depth, Accounts (blockSources s.node) (s.convert depth)

mutual

/-- One block of a nest. A pair reads the block that opens the section, then the blocks between; the
block that closes it is only counted. -/
theorem accounts_ofBlockNest (depth : Nat) : ∀ x : Nest Sibling,
    x.Forall BlockAccounts BlockEnds →
      Accounts (x.flatten.flatMap fun s ↦ blockSources s.node) (ofBlockNest depth x)
  | .leaf s, hx => by
    rw [Nest.flatten, List.flatMap_singleton, ofBlockNest]
    exact hx depth
  | .pair opening inner closing, ⟨⟨tag, hopening, hclosing⟩, hinner⟩ => by
    have hread := accounts_sectionStart opening.node.content (depth + 1)
    have hchildren := accounts_ofBlockNests (depth + 1) inner hinner
    have hclose := Syntax.endTagName?_of_roleBlock (Syntax.roleBlock_of_role hclosing (by simp))
    have hreadable : Readable closing.node.content :=
      Html.readable_of_not_mem
        (Syntax.not_mem_of_endTagName? hclose (by decide) (by decide) (by decide))
        (Syntax.not_mem_of_endTagName? hclose (by decide) (by decide) (by decide))
    have hpair : Accounts ([opening.node.content] ++ (flattenList inner).flatMap fun s ↦
        blockSources s.node) (ofBlockNest depth (.pair opening inner closing)) :=
      hread.bind fun (_, _, _) _ ↦ hchildren.bind_pure
    rw [Nest.flatten, List.flatMap_cons, List.flatMap_append, List.flatMap_singleton,
      blockSources_of_kind (Syntax.kind_eq_of_role (by simp [hopening])),
      blockSources_of_kind (Syntax.kind_eq_of_role (by simp [hclosing])), ← List.append_assoc]
    -- the closing block is not read; as an end tag it could be
    refine hpair.mono (List.subset_append_left _ _) fun s hs ↦ ?_
    refine (List.mem_append.1 hs).imp_right fun hs ↦ ?_
    rw [List.mem_singleton.1 hs]
    exact hreadable

/-- A list of blocks of a nest, in order. -/
theorem accounts_ofBlockNests (depth : Nat) : ∀ xs : List (Nest Sibling),
    ForallList BlockAccounts BlockEnds xs →
      Accounts ((flattenList xs).flatMap fun s ↦ blockSources s.node) (ofBlockNests depth xs)
  | [], _ => accounts_nil depth
  | x :: xs, ⟨hx, hxs⟩ => by
    rw [flattenList, List.flatMap_append]
    exact (accounts_ofBlockNest depth x hx).cons depth (accounts_ofBlockNests depth xs hxs)

end

/-- The texts of siblings among blocks are those of the nodes they come from. -/
theorem flatMap_blockSiblings : ∀ ns : List Syntax.Node,
    ((blockSiblings ns).flatMap fun s ↦ blockSources s.node) = blockSourcesOf ns
  | [] => rfl
  | n :: ns => by
    rw [blockSiblings, List.flatMap_cons, flatMap_blockSiblings ns, blockSourcesOf]

/-- A list of blocks, once its HTML blocks have been paired. -/
theorem accounts_ofBlocks {ns : List Syntax.Node} {depth : Nat}
    (hs : ∀ s ∈ blockSiblings ns, BlockAccounts s) :
    Accounts (blockSourcesOf ns) (ofBlocks (blockSiblings ns) depth) := by
  have h := accounts_ofBlockNests depth _ (forallList_blocks hs)
  rwa [Syntax.flatten_build, flatMap_blockSiblings] at h

/-- The tags of headings have levels. -/
theorem exists_headingLevel {tag : String} (h : tag ∈ Syntax.headingTags) :
    ∃ level, headingLevel tag = .ok level := by
  revert tag
  simp only [Syntax.headingTags, List.forall_mem_cons, List.not_mem_nil]
  exact ⟨⟨1, by decide⟩, ⟨2, by decide⟩, ⟨3, by decide⟩, ⟨4, by decide⟩, ⟨5, by decide⟩,
    ⟨6, by decide⟩, by simp⟩

/-- The level of a supported heading is found. -/
theorem accounts_headingLevel {tag : String} (h : tag ∈ Syntax.headingTags) :
    Accounts [] (headingLevel tag) := by
  obtain ⟨level, hlevel⟩ := exists_headingLevel h
  rw [hlevel]
  exact accounts_ok level

/-- The start of a supported list is a number or missing. -/
theorem accounts_listStart {n : Syntax.Node}
    (h : ∀ value ∈ n.attr? "start", ∃ k, value = .integer k) : Accounts [] (listStart n) := by
  unfold listStart
  cases hstart : n.attr? "start" with
  | none => exact accounts_ok 1
  | some value =>
    obtain ⟨k, rfl⟩ := h value hstart
    exact accounts_ok k

mutual

/-- A block by its kind. A list counts one more level of depth for its items, and a paragraph or a
heading one for its inlines. -/
theorem blockAccounts_ofBlock : ∀ n : Syntax.Node, SupportedBlock n → BlockAccounts ⟨n, ofBlock n⟩
  | ⟨kind, content, tag, info, hidden, attrs, children⟩, h, depth => by
    cases kind
    case paragraph => exact (accounts_ofParts h (depth + 1)).map
    case heading =>
      exact (accounts_headingLevel h.1).bind fun _ _ ↦ (accounts_ofParts h.2 (depth + 1)).map
    case blockquote => exact (accounts_ofBlocks (blockAccounts_blockSiblings children h)).map
    case fence | codeBlock | hr => exact accounts_ok _
    case bulletList => exact (accounts_items children h (depth + 1)).bind_pure
    case orderedList =>
      have hstart := accounts_listStart (n := ⟨.orderedList, content, tag, info, hidden, attrs,
        children⟩) h.1
      exact hstart.bind fun _ _ ↦ (accounts_items children h.2 (depth + 1)).bind_pure
    case htmlBlock =>
      exact (accounts_readHtml content).bind fun nodes _ ↦ (accounts_ofMarkups nodes).bind_pure
    all_goals exact h.elim

/-- The same for all siblings of a list. -/
theorem blockAccounts_blockSiblings : ∀ ns : List Syntax.Node, SupportedBlocks ns →
    ∀ s ∈ blockSiblings ns, BlockAccounts s
  | [], _, _, hs => by simp [blockSiblings] at hs
  | n :: ns, ⟨hn, hns⟩, s, hs => by
    rcases List.mem_cons.1 hs with rfl | hs
    · exact blockAccounts_ofBlock n hn
    · exact blockAccounts_blockSiblings ns hns s hs

/-- The items of a list, each with blocks of its own. -/
theorem accounts_items : ∀ ns : List Syntax.Node, SupportedItems ns → ∀ depth,
    Accounts (itemSourcesOf ns) ((itemSiblings ns).mapM fun item ↦ ofBlocks item depth)
  | [], _, _ => accounts_ok []
  | ⟨_, _, _, _, _, _, children⟩ :: ns, ⟨hitem, hns⟩, depth => by
    rw [itemSiblings, List.mapM_cons, itemSourcesOf]
    exact (accounts_ofBlocks (blockAccounts_blockSiblings children hitem)).bind fun _ _ ↦
      (accounts_items ns hns depth).bind_pure

end

/-- **How the conversion of a supported tree ends**: with a document when all its raw HTML is
readable, and otherwise at the limit of depth or at a text that is refused. -/
theorem accounts_ofSyntax {nodes : List Syntax.Node} (h : SupportedBlocks nodes) :
    Accounts (blockSourcesOf nodes) (ofSyntax nodes) :=
  accounts_ofBlocks (blockAccounts_blockSiblings nodes h)

end SafeMarkdown.Document
