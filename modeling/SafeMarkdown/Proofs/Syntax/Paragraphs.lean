import SafeMarkdown.Proofs.Syntax.Nesting

/-!
# The paragraphs of a syntax tree

`paragraphsOf` lists the paragraphs of a syntax tree in document order, those of lists and of block
quotes too. With each goes whether it stands between two HTML blocks among its siblings that become
a section, which is for the brackets among the siblings to say (`inSection`).

A parser that hides paragraphs does so list by list, for all paragraphs directly in the items of the
list or for none of them, and hides no others. `MarkedTree` says so of a tree.
-/

namespace SafeMarkdown.Syntax

variable {α β : Type}

/-! ### Siblings inside brackets -/

mutual

/-- For each sibling in turn, whether it stands inside a bracket. -/
def Nest.flags (inside : Bool) : Nest α → List Bool
  | .leaf _ => [inside]
  | .pair _ inner _ => inside :: (flagsOf true inner ++ [inside])

/-- For each sibling of a bracketed list in turn, whether it stands inside a bracket. -/
def flagsOf (inside : Bool) : List (Nest α) → List Bool
  | [] => []
  | n :: ns => n.flags inside ++ flagsOf inside ns

end

mutual

/-- A nest has one flag for each sibling. -/
theorem length_flags {inside : Bool} : ∀ n : Nest α, (n.flags inside).length = n.flatten.length
  | .leaf _ => rfl
  | .pair _ inner _ => by
    rw [length_flatten_pair, Nest.flags, List.length_cons, List.length_append, length_flagsOf inner]
    rfl

/-- So has a list of nests. -/
theorem length_flagsOf {inside : Bool} :
    ∀ ns : List (Nest α), (flagsOf inside ns).length = (flattenList ns).length
  | [] => rfl
  | n :: ns => by
    rw [flagsOf, List.length_append, length_flags n, length_flagsOf ns, length_flattenList_cons]

end

mutual

/-- Mapping siblings leaves the flags. -/
theorem flags_map (f : α → β) {inside : Bool} :
    ∀ n : Nest α, (n.map f).flags inside = n.flags inside
  | .leaf _ => rfl
  | .pair _ inner _ => by rw [Nest.map, Nest.flags, flagsOf_mapList f inner, Nest.flags]

theorem flagsOf_mapList (f : α → β) {inside : Bool} :
    ∀ ns : List (Nest α), flagsOf inside (mapList f ns) = flagsOf inside ns
  | [] => rfl
  | n :: ns => by rw [mapList, flagsOf, flags_map f n, flagsOf_mapList f ns, flagsOf]

end

/-! ### Paragraphs -/

/-- For each of the blocks in turn, whether it stands between two HTML blocks that become a
section. -/
def inSection (nodes : List Node) : List Bool :=
  flagsOf false (Nest.build (pairTags .htmlBlock nodes) 0 nodes)

/-- Whether siblings are in a section depends on their roles only. -/
theorem inSection_map (f : α → Node) (xs : List α) :
    inSection (xs.map f) = flagsOf false (Nest.build (pairTags .htmlBlock (xs.map f)) 0 xs) := by
  rw [inSection, build_map, flagsOf_mapList]

mutual

/-- The paragraphs at and below a block, each with whether it stands directly in a section. -/
def paragraphs (sectioned : Bool) : Node → List (Bool × Node)
  | ⟨kind, content, tag, info, hidden, attrs, children⟩ =>
    match kind with
    | .paragraph => [(sectioned, ⟨kind, content, tag, info, hidden, attrs, children⟩)]
    | .blockquote => paragraphsOf (inSection children) children
    | .bulletList | .orderedList => paragraphsOfItems children
    | _ => []

/-- The paragraphs at and below some blocks, of which the flags say whether they stand directly in a
section. -/
def paragraphsOf : List Bool → List Node → List (Bool × Node)
  | sectioned :: flags, n :: ns => paragraphs sectioned n ++ paragraphsOf flags ns
  | _, _ => []

/-- The paragraphs in the items of a list. -/
def paragraphsOfItems : List Node → List (Bool × Node)
  | [] => []
  | ⟨_, _, _, _, _, _, children⟩ :: ns =>
    paragraphsOf (inSection children) children ++ paragraphsOfItems ns

end

/-- Paragraphs of two lists follow one another. -/
theorem paragraphsOf_append {flags flags' : List Bool} {ns ns' : List Node}
    (h : flags.length = ns.length) :
    paragraphsOf (flags ++ flags') (ns ++ ns') =
      paragraphsOf flags ns ++ paragraphsOf flags' ns' := by
  induction flags generalizing ns with
  | nil =>
    obtain rfl : ns = [] := List.length_eq_zero_iff.1 h.symm
    simp [paragraphsOf]
  | cons sectioned flags ih =>
    cases ns with
    | nil => cases h
    | cons n ns =>
      have hrest : flags.length = ns.length := Nat.succ.inj h
      rw [List.cons_append, List.cons_append, paragraphsOf, ih hrest, paragraphsOf,
        List.append_assoc]

theorem paragraphsOf_singleton (sectioned : Bool) (n : Node) :
    paragraphsOf [sectioned] [n] = paragraphs sectioned n :=
  List.append_nil _

/-- Two blocks without paragraphs around others add none. -/
theorem paragraphsOf_between {flags : List Bool} {ns : List Node} {sectioned : Bool}
    {opening closing : Node} (h : flags.length = ns.length)
    (hopening : paragraphs sectioned opening = []) (hclosing : paragraphs sectioned closing = []) :
    paragraphsOf (sectioned :: (flags ++ [sectioned])) (opening :: (ns ++ [closing])) =
      paragraphsOf flags ns := by
  rw [paragraphsOf, hopening, List.nil_append, paragraphsOf_append h, paragraphsOf_singleton,
    hclosing, List.append_nil]

/-- An HTML block holds no paragraph. -/
theorem paragraphs_of_kind_eq_htmlBlock {n : Node} (h : n.kind = .htmlBlock) (sectioned : Bool) :
    paragraphs sectioned n = [] := by
  obtain ⟨kind, content, tag, info, hidden, attrs, children⟩ := n
  obtain rfl : kind = .htmlBlock := h
  rfl

/-! ### Hidden paragraphs -/

/-- The paragraphs among the nodes are all hidden, or none of them is. -/
def HiddenAre (hidden : Bool) (nodes : List Node) : Prop :=
  ∀ n ∈ nodes, n.kind = .paragraph → n.hidden = hidden

mutual

/-- Below the block, paragraphs are hidden list by list. -/
def Marked : Node → Prop
  | ⟨kind, _, _, _, _, _, children⟩ =>
    match kind with
    | .blockquote => HiddenAre false children ∧ MarkedAll children
    | .bulletList | .orderedList =>
      (∃ hidden, HiddenAre hidden (children.flatMap Node.children)) ∧ MarkedItems children
    | _ => True

/-- Below each of the blocks, paragraphs are hidden list by list. -/
def MarkedAll : List Node → Prop
  | [] => True
  | n :: ns => Marked n ∧ MarkedAll ns

/-- Below each block of the items, paragraphs are hidden list by list. -/
def MarkedItems : List Node → Prop
  | [] => True
  | ⟨_, _, _, _, _, _, children⟩ :: ns => MarkedAll children ∧ MarkedItems ns

end

/-- The paragraphs of the tree are hidden list by list: of those directly in the items of one list
either all are or none is, and no others are hidden. -/
def MarkedTree (nodes : List Node) : Prop :=
  HiddenAre false nodes ∧ MarkedAll nodes

end SafeMarkdown.Syntax
