import SafeMarkdown.Commonmark.Inline.OfText
import SafeMarkdown.Proofs.Conversion.Supported

/-!
# The inlines that reading gives

Reading inline content makes nodes of supported kinds only (`supported_nodesOfText`), whatever the
text is. Reading goes from piece to piece and gathers items: nodes, and marks of emphasis that are
settled when the content has been read. Pieces become nodes one by one, text is joined to text, and
marks put elements around nodes that are there already. So being supported is kept by every step of
the reading, where it is said of what has been gathered (`Output.Supported`), and by the nesting of
marks after it (`supported_nest`).

Links and images hold inline content of their own, which is read by the same function with less
room. The lemmas up to `returns_readFrom` take that function as a parameter, with the property to be
proved as a hypothesis, and `returns_nodesFrom` closes the recursion.

What is remembered while reading does not matter: `Returns` says that a computation gives values
with a property whatever it remembers.
-/

namespace SafeMarkdown.Commonmark.Inline

open Syntax (Node SupportedInline SupportedInlines)

/-- All nodes of the list are of supported kinds. -/
abbrev Supported (ns : List Node) : Prop :=
  ∀ n ∈ ns, SupportedInline n

/-! ### Emphasis -/

/-- Text is supported, whatever it says. -/
theorem supported_of_kind_eq_text {n : Node} (h : n.kind = .text) : SupportedInline n := by
  obtain ⟨kind, content, tag, info, hidden, attrs, children⟩ := n
  obtain rfl : kind = .text := h
  trivial

/-- The node that a piece of text becomes is supported. -/
theorem supported_textNode (s : List Char) : SupportedInline (textNode s) := trivial

/-- Text before text becomes one node, and any other node stays by itself. -/
theorem supported_joinText {n : Node} {siblings : List Node} (hn : SupportedInline n)
    (hs : Supported siblings) : Supported (joinText n siblings) := by
  unfold joinText
  split
  · rename_i next rest
    obtain ⟨hnext, hrest⟩ := List.forall_mem_cons.1 hs
    split
    · rename_i hkind
      simp only [Bool.and_eq_true, decide_eq_true_eq] at hkind
      exact List.forall_mem_cons.2 ⟨supported_of_kind_eq_text hkind.1, hrest⟩
    · exact List.forall_mem_cons.2 ⟨hn, hs⟩
  · exact List.forall_mem_singleton.2 hn

/-- Joining all texts that meet leaves no other kinds of nodes. -/
theorem supported_joinTexts {nodes : List Node} (h : Supported nodes) :
    Supported (joinTexts nodes) := by
  induction nodes with
  | nil => simp [Supported, joinTexts]
  | cons n nodes ih =>
    obtain ⟨hn, hnodes⟩ := List.forall_mem_cons.1 h
    exact supported_joinText hn (ih hnodes)

/-- The marks that are still open at the end enclose nothing, and what came before them is kept. -/
theorem supported_foldl_before {stack : List OpenEmphasis} {nodes : List Node}
    (hstack : ∀ e ∈ stack, Supported e.before) (hnodes : Supported nodes) :
    Supported (stack.foldl (fun nodes e ↦ nodes ++ e.before) nodes) := by
  induction stack generalizing nodes with
  | nil => exact hnodes
  | cons e stack ih =>
    obtain ⟨he, hstack⟩ := List.forall_mem_cons.1 hstack
    exact ih hstack (List.forall_mem_append.2 ⟨hnodes, he⟩)

/-- Nodes are gathered last first and turned round at the end. -/
theorem supported_reverse {nodes : List Node} (h : Supported nodes) : Supported nodes.reverse :=
  fun n hn ↦ h n (List.mem_reverse.1 hn)

/-- An element of emphasis is supported if its children are. -/
theorem supported_element {strong : Bool} {children : List Node} (h : Supported children) :
    SupportedInline { kind := if strong then .strong else .em, children := children } := by
  cases strong with
  | false => exact Syntax.supportedInlines_iff.2 h
  | true => exact Syntax.supportedInlines_iff.2 h

/-- The nodes among the items are of supported kinds. -/
def SupportedItems (items : List Item) : Prop :=
  ∀ n, .node n ∈ items → SupportedInline n

/-- Of items, the nodes have to be supported. -/
theorem supportedItems_cons_node {n : Node} {items : List Item} :
    SupportedItems (.node n :: items) ↔ SupportedInline n ∧ SupportedItems items := by
  simp [SupportedItems, or_imp, forall_and]

/-- A mark by itself brings in no node. -/
theorem supportedItems_cons_mark {m : Mark} {items : List Item} :
    SupportedItems (.mark m :: items) ↔ SupportedItems items := by
  simp [SupportedItems]

/-- **Settling the marks** puts elements around nodes that are there, or turns marks into text. -/
theorem supported_nest {roles : Array (Option Role)} {items : List Item}
    (hitems : SupportedItems items) {stack : List OpenEmphasis} {nodes : List Node}
    (hstack : ∀ e ∈ stack, Supported e.before) (hnodes : Supported nodes) (place : Nat) :
    Supported (nest roles stack nodes place items) := by
  induction items generalizing stack nodes place with
  | nil =>
    rw [nest]
    exact supported_joinTexts (supported_reverse (supported_foldl_before hstack hnodes))
  | cons item items ih =>
    cases item with
    | node n =>
      obtain ⟨hn, hitems⟩ := supportedItems_cons_node.1 hitems
      rw [nest]
      exact ih hitems hstack (List.forall_mem_cons.2 ⟨hn, hnodes⟩) _
    | mark m =>
      replace hitems := supportedItems_cons_mark.1 hitems
      unfold nest
      -- an opening mark, a closing one, one with nothing to close, an absorbed one, and a character
      split
      · exact ih hitems (List.forall_mem_cons.2 ⟨hnodes, hstack⟩) (by simp [Supported]) _
      · obtain ⟨he, hstack⟩ := List.forall_mem_cons.1 hstack
        refine ih hitems hstack (List.forall_mem_cons.2 ⟨?_, he⟩) _
        exact supported_element (supported_joinTexts (supported_reverse hnodes))
      · exact ih hitems hstack hnodes _
      · exact ih hitems hstack (List.forall_mem_cons.2 ⟨supported_textNode _, hnodes⟩) _
      · exact ih hitems hstack (List.forall_mem_cons.2 ⟨supported_textNode _, hnodes⟩) _

/-- The items of a whole content become supported nodes. -/
theorem supported_nodesOfItems {items : List Item} (h : SupportedItems items) :
    Supported (nodesOfItems items) :=
  supported_nest h (by simp) (by simp [Supported]) 0

/-! ### Output -/

namespace Output

variable {o : Output}

/-- The nodes of the output are of supported kinds. -/
def Supported (o : Output) : Prop :=
  SupportedItems o.items

/-- Text that was pending becomes a node. -/
theorem Supported.flushed (h : o.Supported) : SupportedItems o.flushed := by
  unfold Output.flushed
  split
  · exact h
  · exact supportedItems_cons_node.2 ⟨trivial, h⟩

/-- Items are added after the pending text. -/
theorem Supported.add (h : o.Supported) {items : List Item} (hitems : SupportedItems items) :
    (o.add items).Supported := by
  intro n hn
  exact (List.mem_append.1 hn).elim (hitems n) (h.flushed n)

/-- A node is added after the pending text. -/
theorem Supported.addNode (h : o.Supported) {n : Node} (hn : SupportedInline n) :
    (o.addNode n).Supported :=
  h.add (supportedItems_cons_node.2 ⟨hn, by simp [SupportedItems]⟩)

/-- A line feed becomes a break, hard where blanks or a backslash stand before it. -/
theorem Supported.addLineFeed (h : o.Supported) : o.addLineFeed.Supported := by
  refine Supported.addNode (o := { o with pending := o.pending.dropWhile (· == ' ') }) h ?_
  split
  · trivial
  · trivial

/-- What has been gathered becomes supported nodes. -/
theorem Supported.nodes (h : o.Supported) : Inline.Supported o.nodes :=
  supported_nodesOfItems fun n hn ↦ h.flushed n (List.mem_reverse.1 hn)

end Output

/-! ### Reading -/

variable {α β : Type}

/-- The computation gives values with the property, whatever it remembers. -/
def Returns (P : α → Prop) (x : Scan α) : Prop :=
  ∀ m, P (x.run m).1

/-- A value is returned whatever is remembered. -/
theorem returns_pure {P : α → Prop} {a : α} (h : P a) : Returns P (pure a) := fun _ ↦ h

/-- The second step may use what the first is known to return. -/
theorem Returns.bind {P : α → Prop} {Q : β → Prop} {x : Scan α} {f : α → Scan β}
    (hx : Returns P x) (hf : ∀ a, P a → Returns Q (f a)) : Returns Q (x >>= f) := fun m ↦
  hf _ (hx m) _

/-- Of a computation whose value does not matter nothing need be known. -/
theorem returns_true (x : Scan α) : Returns (fun _ ↦ True) x := fun _ ↦ trivial

/-- The readers of what is inside a piece give nodes of supported kinds. -/
structure InnerReaders.Supported (inner : InnerReaders) : Prop where
  linkText : ∀ s i, Returns Inline.Supported (inner.linkText s i)
  description : ∀ t, Inline.Supported (inner.description t)

variable {inner : InnerReaders} {o : Output}

/-- **One piece**: text, code, a break, raw HTML or an autolink is added by itself, and the content
of a link or an image is read by the inner function. -/
theorem returns_addPiece (hinner : inner.Supported) (s : Source) (ho : o.Supported)
    (piece : Piece) : Returns Output.Supported (addPiece inner s o piece) := by
  cases piece with
  | text t => exact returns_pure ho
  | lineFeed => exact returns_pure ho.addLineFeed
  | hardBreak => exact returns_pure (ho.addNode trivial)
  | special t => exact returns_pure (ho.addNode trivial)
  | code t => exact returns_pure (ho.addNode trivial)
  | html t => exact returns_pure (ho.addNode trivial)
  | address target shown => exact returns_pure (ho.addNode ⟨trivial, trivial⟩)
  | link target first stop =>
    refine (hinner.linkText _ first).bind fun children hchildren ↦ returns_pure (ho.addNode ?_)
    exact Syntax.supportedInlines_iff.2 hchildren
  | image target first stop => exact returns_pure (ho.addNode trivial)

/-- A run of marks is no node. -/
theorem supportedItems_replicate_mark (n : Nat) (m : Mark) :
    SupportedItems (List.replicate n (.mark m)) := by
  intro k hk
  exact absurd (List.eq_of_mem_replicate hk) (by simp)

/-- Marks that are found are no nodes. -/
theorem supportedItems_of_marksAt? {s : Source} {i j : Nat} {marks : List Item}
    (h : marksAt? s i = some (marks, j)) : SupportedItems marks := by
  unfold marksAt? at h
  split at h
  · cases h
  · split at h
    · cases h
      exact supportedItems_replicate_mark _ _
    · cases h

/-- Reading at one place: a run of marks or a piece. -/
theorem returns_readAt (hinner : inner.Supported) (room : Nat) (s : Source) (i : Nat)
    (ho : o.Supported) :
    Returns (fun r ↦ Output.Supported r.1) (readAt inner room s i o) := by
  unfold readAt
  split
  · rename_i marks j hmarks
    exact returns_pure (ho.add (supportedItems_of_marksAt? hmarks))
  · refine (returns_true (pieceAt? (skipPiece room) s i)).bind fun found _ ↦ ?_
    split
    · exact (returns_addPiece hinner s ho _).bind fun o' ho' ↦ returns_pure ho'
    · exact returns_pure ho

/-- Reading from one place to the end, place by place. -/
theorem returns_readFrom (hinner : inner.Supported) (room : Nat) (s : Source) (fuel i : Nat)
    (ho : o.Supported) : Returns Output.Supported (readFrom inner room s fuel i o) := by
  induction fuel generalizing i o with
  | zero => exact returns_pure ho
  | succ fuel ih =>
    unfold readFrom
    split
    · exact returns_pure ho
    · split
      · exact returns_pure ho
      · exact (returns_readAt hinner room s i ho).bind fun r hr ↦ ih r.2 hr

mutual

/-- Reading with the inner content read by the same function. The induction is on the room that is
left for nesting. -/
theorem returns_nodesFrom : ∀ (fuel room : Nat) (s : Source) (i : Nat),
    Returns Supported (nodesFrom fuel room s i)
  | 0, _, _, _ => returns_pure (by simp [Supported])
  | fuel + 1, room, s, i => by
    -- what stands inside a piece is read with less fuel
    have hinner : InnerReaders.Supported
        ⟨nodesFrom fuel (room - 1), fun t ↦ nodesOfText fuel s.definitions t⟩ :=
      ⟨returns_nodesFrom fuel (room - 1), supported_nodesOfText fuel s.definitions⟩
    have hempty : Output.Supported {} := by simp [Output.Supported, SupportedItems]
    rw [nodesFrom]
    exact (returns_readFrom hinner room s _ i hempty).bind fun o ho ↦ returns_pure ho.nodes

/-- **Inline content has supported nodes only.** -/
theorem supported_nodesOfText : ∀ (fuel : Nat) (definitions : Definitions) (t : List Char),
    Supported (nodesOfText fuel definitions t)
  | 0, _, _ => by simp [Supported, nodesOfText]
  | fuel + 1, definitions, t => returns_nodesFrom fuel levelLimit (.ofChars definitions t) 0 {}

end

/-- **The inlines of a text are of supported kinds**, at every depth. -/
theorem supported_ofText (definitions : Definitions) (t : List Char) :
    SupportedInlines (ofText definitions t) :=
  Syntax.supportedInlines_iff.2 (supported_nodesOfText _ definitions t)

end SafeMarkdown.Commonmark.Inline
