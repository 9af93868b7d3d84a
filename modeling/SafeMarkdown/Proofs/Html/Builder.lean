import SafeMarkdown.Html.Tree
import SafeMarkdown.Markup.Html
import SafeMarkdown.Proofs.Markup.Preorder
import SafeMarkdown.Proofs.Outcome

/-!
# What a tree that was read is made of

The elements of a tree come from start tag tokens. An element that its start tag closes, by a slash
or by being void, is complete without children; any other is put together when it is closed, with
the nodes that came since it was opened. `TreeClosed` says that a property of markup respects both
ways, and then it holds of every node of the tree (`TreeClosed.all_treeOfTokens`).

The invariant of the run over the tokens is that what is complete has the property, and that no void
element is open. It is `Builder.Holds`. One lemma for each operation of the builder keeps it, one
for each token follows from these (`Holds.add`), and the run over all tokens is an induction on
their list.
-/

namespace SafeMarkdown.Html

open Markup (All)

/-- What the serialiser takes for void the reader does too. -/
theorem voidTags_subset : Markup.voidTags ⊆ Html.voidTags := by
  decide

/-- Texts satisfy `P`, and so do the elements that are made from a start tag that satisfies `T`. -/
structure TreeClosed (T : String → List Attr → Prop) (P : Markup → Prop) : Prop where
  text : ∀ value, P (.text value)
  empty : ∀ {tag attrs}, T tag attrs → P (.element tag attrs [])
  element : ∀ {tag attrs children}, T tag attrs → tag ∉ voidTags → All P children →
    P (.element tag attrs children)

/-- A start tag satisfies `T`; of other tokens nothing is asked. -/
def Token.Satisfies (T : String → List Attr → Prop) : Token → Prop
  | .startTag tag attrs _ => T tag attrs
  | _ => True

/-- An open element is not void, its start tag satisfies `T`, and the nodes before it `P`. -/
structure OpenElement.Holds (T : String → List Attr → Prop) (P : Markup → Prop)
    (e : OpenElement) : Prop where
  tag : T e.tag e.attrs
  notVoid : e.tag ∉ voidTags
  before : All P e.before

/-- No void element is open, and the nodes that are complete satisfy `P`. -/
structure Builder.Holds (T : String → List Attr → Prop) (P : Markup → Prop) (b : Builder) :
    Prop where
  stack : ∀ e ∈ b.stack, e.Holds T P
  nodes : All P b.nodes

namespace Builder

variable {T : String → List Attr → Prop} {P : Markup → Prop} {b : Builder}

/-- An element that is closed while it is the innermost one takes the nodes since its start. -/
theorem pop_push (b : Builder) (tag : String) (attrs : List Attr) (children : List Markup) :
    ({ b.push tag attrs with nodes := children.reverse } : Builder).pop tag =
      { b with nodes := .element tag attrs children :: b.nodes } := by
  simp [Builder.push, Builder.pop, Builder.isOpen, Builder.closeThrough, Builder.closed]

@[simp] theorem stack_flush (b : Builder) : b.flush.stack = b.stack := by
  unfold flush
  split <;> rfl

@[simp] theorem spent_flush (b : Builder) : b.flush.spent = b.spent := by
  unfold flush
  split <;> rfl

@[simp] theorem pending_flush (b : Builder) : b.flush.pending = [] := by
  unfold flush
  split
  · rename_i h
    exact List.isEmpty_iff.1 h
  · rfl

/-- Where no text is pending, there is nothing to finish. -/
theorem flush_of_pending_eq_nil (h : b.pending = []) : b.flush = b := by
  rw [flush, h]
  rfl

/-- The invariant holds before the first token. -/
theorem holds_empty : empty.Holds T P := ⟨by simp [empty], by simp [empty, All]⟩

/-- Finishing the pending text keeps the invariant, because texts have the property. -/
theorem Holds.flush (hT : TreeClosed T P) (h : b.Holds T P) : b.flush.Holds T P := by
  unfold Builder.flush
  split
  · exact h
  · exact ⟨h.stack, List.forall_mem_cons.2 ⟨hT.text _, h.nodes⟩⟩

/-- Putting an open element together keeps the property, because its children have it. -/
theorem all_closed (hT : TreeClosed T P) {e : OpenElement} {nodes : List Markup}
    (he : e.Holds T P) (hn : All P nodes) : All P (closed e nodes) := by
  have hchildren : All P nodes.reverse := fun m hm ↦ hn m (List.mem_reverse.1 hm)
  exact List.forall_mem_cons.2 ⟨hT.element he.tag he.notVoid hchildren, he.before⟩

/-- Closing elements up to one of a name keeps the invariant. -/
theorem holds_closeThrough (hT : TreeClosed T P) {tag : String} {stack : List OpenElement}
    {nodes : List Markup} {pending : List Char} {spent : List String}
    (h : Holds T P ⟨stack, nodes, pending, spent⟩) :
    Holds T P ⟨(closeThrough tag stack nodes).1, (closeThrough tag stack nodes).2, pending,
      spent⟩ := by
  induction stack generalizing nodes with
  | nil => exact h
  | cons e es ih =>
    obtain ⟨he, hes⟩ := List.forall_mem_cons.1 h.stack
    -- the innermost element joins the nodes before it, whether it is the one sought or not
    have hclosed := all_closed hT he h.nodes
    unfold closeThrough
    split
    · exact ⟨hes, hclosed⟩
    · exact ih ⟨hes, hclosed⟩

/-- So does an end tag, whether it closes something or not. -/
theorem Holds.pop (hT : TreeClosed T P) (h : b.Holds T P) (tag : String) :
    (b.pop tag).Holds T P := by
  unfold Builder.pop
  split
  · exact holds_closeThrough hT h
  · exact h

/-- So does a start tag whose names are accepted. -/
theorem Holds.startTag (hT : TreeClosed T P) (h : b.Holds T P) {tag : String} {attrs : List Attr}
    (ht : T tag attrs) (selfClosing : Bool) : (b.startTag tag attrs selfClosing).Holds T P := by
  have hflush := h.flush hT
  have hpop : (b.flush.push tag attrs).pop tag =
      { b.flush with nodes := .element tag attrs [] :: b.flush.nodes } :=
    pop_push b.flush tag attrs []
  -- an element that is closed at once never stays on the stack
  have hlone : All P (.element tag attrs [] :: b.flush.nodes) :=
    List.forall_mem_cons.2 ⟨hT.empty ht, hflush.nodes⟩
  unfold Builder.startTag
  simp only [hpop]
  split
  · exact ⟨hflush.stack, hlone⟩
  · split
    · exact ⟨hflush.stack, hlone⟩
    · rename_i hvoid
      exact ⟨List.forall_mem_cons.2 ⟨⟨ht, hvoid, hflush.nodes⟩, hflush.stack⟩,
        List.forall_mem_nil _⟩

/-- **Every token keeps the invariant.** -/
theorem Holds.add (hT : TreeClosed T P) (h : b.Holds T P) {t : Token} (ht : t.Satisfies T) :
    (b.add t).Holds T P := by
  cases t with
  | text s => exact ⟨h.stack, h.nodes⟩
  | startTag tag attrs selfClosing => exact h.startTag hT ht selfClosing
  | endTag tag =>
    rw [Builder.add, Builder.endTag]
    split
    · exact ⟨h.stack, h.nodes⟩
    · exact (h.flush hT).pop hT tag
  | hidden => exact h.flush hT

/-- So do all tokens, one after the other. -/
theorem Holds.foldl_add (hT : TreeClosed T P) (h : b.Holds T P) {ts : List Token}
    (hts : ∀ t ∈ ts, t.Satisfies T) : (ts.foldl Builder.add b).Holds T P := by
  induction ts generalizing b with
  | nil => exact h
  | cons t ts ih =>
    obtain ⟨ht, hts⟩ := List.forall_mem_cons.1 hts
    exact ih (h.add hT ht) hts

/-- What is still open at the end is put together with the property. -/
theorem all_closeAll (hT : TreeClosed T P) {stack : List OpenElement} {nodes : List Markup}
    (hs : ∀ e ∈ stack, e.Holds T P) (hn : All P nodes) : All P (closeAll stack nodes) := by
  induction stack generalizing nodes with
  | nil => exact fun m hm ↦ hn m (List.mem_reverse.1 hm)
  | cons e es ih =>
    obtain ⟨he, hes⟩ := List.forall_mem_cons.1 hs
    exact ih hes (all_closed hT he hn)

end Builder

/-- **What tokens are read to**: a property that both ways to make an element respect holds of the
nodes of the tree. -/
theorem TreeClosed.all_treeOfTokens {T : String → List Attr → Prop} {P : Markup → Prop}
    (hT : TreeClosed T P) {ts : List Token} (hts : ∀ t ∈ ts, t.Satisfies T) :
    All P (treeOfTokens ts) := by
  have hfinal := (Builder.holds_empty.foldl_add hT hts).flush hT
  exact Builder.all_closeAll hT hfinal.stack hfinal.nodes

/-! ### Void elements -/

/-- That void elements have no children is kept in both ways of making one. -/
theorem treeClosed_childless :
    TreeClosed (fun _ _ ↦ True) (Markup.Childless Html.voidTags) where
  text _ := Markup.childless_text
  empty _ := Markup.childless_element.2 ⟨fun _ ↦ rfl, List.forall_mem_nil _⟩
  element _ hvoid hchildren := Markup.childless_element.2 ⟨fun h ↦ absurd h hvoid, hchildren⟩

/-- The void elements in a tree that was read have no children. -/
theorem childless_of_parse {source : String} {nodes : List Markup} (h : parse source = .ok nodes) :
    All (Markup.Childless Html.voidTags) nodes := by
  obtain ⟨ts, -, rfl⟩ := map_eq_ok_iff.1 h
  refine treeClosed_childless.all_treeOfTokens fun t _ ↦ ?_
  cases t <;> trivial

end SafeMarkdown.Html
