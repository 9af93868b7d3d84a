import Mathlib.Data.List.Basic
import Mathlib.Data.List.Induction
import SafeMarkdown.Proofs.Html.OpenElements

/-!
# What an element stands inside

In the tree of a list of tokens, an element stands inside the elements that were open at its start
tag. That holds for all elements of a name at once, in document order
(`surroundingsOf_treeOfTokens`). While the tree is in the making, `Builder.seen` is what its
elements stand inside so far. It is read off the tree as it would be if all were closed at once, so
closing an element changes nothing, and opening one adds it at the end.

So the last element of a name stands inside what was open at the last start tag of the name
(`lastStandsInside_treeOfTokens_iff`), and an empty element after a text stands inside what the text
left open (`lastStandsInside_iff`).
-/

namespace SafeMarkdown.Html

mutual

/-- For every element of that name at and below a node, in document order, the names of the elements
around it, innermost first. -/
def surroundings (name : String) (around : List String) : Markup → List (List String)
  | .text _ => []
  | .element tag _ children =>
    (if tag = name then [around] else []) ++ surroundingsOf name (tag :: around) children

/-- For every element of that name in a list and below it, the names of the elements around it. -/
def surroundingsOf (name : String) (around : List String) : List Markup → List (List String)
  | [] => []
  | n :: ns => surroundings name around n ++ surroundingsOf name around ns

end

/-- What stands around the elements of two lists is said list by list. -/
theorem surroundingsOf_append (name : String) (around : List String) (ms ns : List Markup) :
    surroundingsOf name around (ms ++ ns) =
      surroundingsOf name around ms ++ surroundingsOf name around ns := by
  induction ms with
  | nil => rfl
  | cons m ms ih => rw [List.cons_append, surroundingsOf, ih, surroundingsOf, List.append_assoc]

/-- The last node comes last. -/
theorem surroundingsOf_concat (name : String) (around : List String) (ns : List Markup)
    (n : Markup) :
    surroundingsOf name around (ns ++ [n]) =
      surroundingsOf name around ns ++ surroundings name around n := by
  rw [surroundingsOf_append, surroundingsOf, surroundingsOf, List.append_nil]

/-- When all elements are closed, what comes last is what the innermost one holds. -/
theorem exists_surroundingsOf_closeAll (name : String) (stack : List OpenElement) :
    ∃ before, ∀ nodes, surroundingsOf name [] (Builder.closeAll stack nodes) =
      before ++ surroundingsOf name (stack.map OpenElement.tag) nodes.reverse := by
  induction stack with
  | nil => exact ⟨[], fun _ ↦ rfl⟩
  | cons e es ih =>
    obtain ⟨before, hbefore⟩ := ih
    have hlast (nodes : List Markup) :
        surroundingsOf name (es.map OpenElement.tag) (Builder.closed e nodes).reverse =
          surroundingsOf name (es.map OpenElement.tag) e.before.reverse ++
            ((if e.tag = name then [es.map OpenElement.tag] else []) ++
              surroundingsOf name ((e :: es).map OpenElement.tag) nodes.reverse) := by
      rw [Builder.closed, List.reverse_cons, surroundingsOf_concat, surroundings, List.map_cons]
    refine ⟨before ++ (surroundingsOf name (es.map OpenElement.tag) e.before.reverse ++
      if e.tag = name then [es.map OpenElement.tag] else []), fun nodes ↦ ?_⟩
    rw [Builder.closeAll, hbefore, hlast]
    simp only [List.append_assoc]

/-! ### Where elements begin -/

/-- For every start tag of that name, in order, the names of the elements that are open where it
stands, when the given ones are open at first. -/
def openAtStarts (name : String) (names : List String) : List Token → List (List String)
  | [] => []
  | t :: ts => (if t.begins name then [names] else []) ++ openAtStarts name (openAfter names t) ts

/-- The last token adds what is open at it, if it begins an element of the name. -/
theorem openAtStarts_concat (name : String) (names : List String) (ts : List Token) (t : Token) :
    openAtStarts name names (ts ++ [t]) =
      openAtStarts name names ts ++ if t.begins name then [ts.foldl openAfter names] else [] := by
  induction ts generalizing names with
  | nil => exact List.append_nil _
  | cons u ts ih =>
    rw [List.cons_append, openAtStarts, ih, openAtStarts, List.append_assoc]
    rfl

namespace Builder

variable {b : Builder} {name : String}

/-- What the elements of that name stand inside so far. -/
def seen (name : String) (b : Builder) : List (List String) :=
  surroundingsOf name [] (closeAll b.stack b.nodes)

/-- A node that is added comes last. -/
theorem seen_cons (b : Builder) (n : Markup) :
    seen name { b with nodes := n :: b.nodes } =
      b.seen name ++ surroundings name (b.stack.map OpenElement.tag) n := by
  obtain ⟨before, hbefore⟩ := exists_surroundingsOf_closeAll name b.stack
  rw [seen, seen, hbefore, hbefore, List.reverse_cons, surroundingsOf_concat, List.append_assoc]

/-- Finishing the pending text shows nothing new, since a text is no element. -/
theorem seen_flush (b : Builder) : b.flush.seen name = b.seen name := by
  unfold flush
  split
  · rfl
  · exact (seen_cons b _).trans (List.append_nil _)

/-- An element that is opened comes last too, and is closed in the end where it stands. -/
theorem seen_push (b : Builder) (tag : String) (attrs : List Attr) :
    (b.push tag attrs).seen name =
      b.seen name ++ if tag = name then [b.stack.map OpenElement.tag] else [] := by
  have hpush : (b.push tag attrs).seen name =
      seen name { b with nodes := .element tag attrs [] :: b.nodes } := rfl
  rw [hpush, seen_cons, surroundings, surroundingsOf, List.append_nil]

/-- Closing some of the open elements and then all is closing all. -/
theorem closeAll_closeThrough (tag : String) (stack : List OpenElement) (nodes : List Markup) :
    closeAll (closeThrough tag stack nodes).1 (closeThrough tag stack nodes).2 =
      closeAll stack nodes := by
  induction stack generalizing nodes with
  | nil => rfl
  | cons e es ih =>
    rw [closeThrough]
    split
    · rfl
    · exact ih _

/-- Closing elements before the end changes nothing. -/
theorem seen_pop (b : Builder) (tag : String) : (b.pop tag).seen name = b.seen name := by
  unfold pop
  split
  · rw [seen, closeAll_closeThrough]
    rfl
  · rfl

/-- A start tag shows one more element if it bears the name, inside all that is open. -/
theorem seen_startTag (b : Builder) (tag : String) (attrs : List Attr) (selfClosing : Bool) :
    (b.startTag tag attrs selfClosing).seen name =
      b.seen name ++ if tag = name then [b.stack.map OpenElement.tag] else [] := by
  have hpush : (b.flush.push tag attrs).seen name =
      b.seen name ++ if tag = name then [b.stack.map OpenElement.tag] else [] := by
    rw [seen_push, seen_flush, stack_flush]
  rw [← hpush, Builder.startTag]
  split
  · exact seen_pop _ _
  · split
    · exact seen_pop _ _
    · rfl

/-- An end tag shows nothing new. -/
theorem seen_endTag (b : Builder) (tag : String) : (b.endTag tag).seen name = b.seen name := by
  rw [Builder.endTag]
  split
  · rfl
  · rw [seen_pop, seen_flush]

/-- One token: a start tag of the name adds an element, and nothing else does. -/
theorem Tracks.seen_add {names : List String} (h : b.Tracks names) (t : Token) :
    (b.add t).seen name = b.seen name ++ if t.begins name then [names] else [] := by
  cases t with
  | text s => exact (List.append_nil _).symm
  | startTag tag attrs selfClosing =>
    show (b.startTag tag attrs selfClosing).seen name = _
    rw [seen_startTag, h.stack]
    simp [Token.begins]
  | endTag tag => exact (seen_endTag b tag).trans (List.append_nil _).symm
  | hidden => exact (seen_flush b).trans (List.append_nil _).symm

/-- **What a run over tokens has shown** is what was open at the start tags among them. -/
theorem Tracks.seen_foldl_add {names : List String} (h : b.Tracks names) (ts : List Token) :
    (ts.foldl Builder.add b).seen name = b.seen name ++ openAtStarts name names ts := by
  induction ts generalizing b names with
  | nil => exact (List.append_nil _).symm
  | cons t ts ih =>
    rw [List.foldl_cons, ih (h.add t), h.seen_add, List.append_assoc]
    rfl

end Builder

/-- **The elements of a tree stand inside what was open at their start tags.** -/
theorem surroundingsOf_treeOfTokens (name : String) (ts : List Token) :
    surroundingsOf name [] (treeOfTokens ts) = openAtStarts name [] ts := by
  have hfold : (ts.foldl Builder.add .empty).seen name = openAtStarts name [] ts :=
    Builder.tracks_empty.seen_foldl_add ts
  rw [← Builder.seen_flush] at hfold
  exact hfold

/-- The last element of that name in the list or below it stands inside an element named `tag`. -/
def LastStandsInside (name tag : String) (nodes : List Markup) : Prop :=
  ∃ around, (surroundingsOf name [] nodes).getLast? = some around ∧ tag ∈ around

/-- Where the last start tag of that name is read, an element named `tag` is open. -/
def LastReadInside (name tag : String) (ts : List Token) : Prop :=
  ∃ before attrs selfClosing after, ts = before ++ .startTag name attrs selfClosing :: after ∧
    (∀ t ∈ after, t.begins name = false) ∧ tag ∈ leftOpen before

/-- Only a start tag begins an element. -/
theorem exists_startTag_of_begins {name : String} {t : Token} (h : t.begins name = true) :
    ∃ attrs selfClosing, t = .startTag name attrs selfClosing := by
  cases t with
  | startTag tag attrs selfClosing => exact ⟨attrs, selfClosing, by rw [eq_of_beq h]⟩
  | text | endTag | hidden => cases h

/-- The last entry comes from the last start tag of the name. -/
theorem getLast?_openAtStarts_eq_some_iff {name : String} {around : List String} (ts : List Token) :
    (openAtStarts name [] ts).getLast? = some around ↔
      ∃ before attrs selfClosing after, ts = before ++ .startTag name attrs selfClosing :: after ∧
        (∀ t ∈ after, t.begins name = false) ∧ around = leftOpen before := by
  induction ts using List.reverseRecOn with
  | nil => simp [openAtStarts]
  | append_singleton ts t ih =>
    rw [openAtStarts_concat]
    by_cases ht : t.begins name = true
    · rw [if_pos ht, List.getLast?_concat, Option.some.injEq]
      constructor
      · rintro rfl
        obtain ⟨attrs, selfClosing, rfl⟩ := exists_startTag_of_begins ht
        exact ⟨ts, attrs, selfClosing, [], rfl, List.forall_mem_nil _, rfl⟩
      · rintro ⟨before, attrs, selfClosing, after, hts, hafter, rfl⟩
        rcases List.eq_nil_or_concat' after with rfl | ⟨after, u, rfl⟩
        · rw [(List.append_inj' hts rfl).1]
          rfl
        · -- the last token would not be a start tag of the name
          rw [← List.cons_append, ← List.append_assoc] at hts
          have hu : t = u := (List.cons.inj (List.append_inj' hts rfl).2).1
          rw [hu, hafter u (List.mem_append_right _ List.mem_cons_self)] at ht
          cases ht
    · rw [if_neg ht, List.append_nil, ih]
      constructor
      · rintro ⟨before, attrs, selfClosing, after, rfl, hafter, rfl⟩
        refine ⟨before, attrs, selfClosing, after ++ [t], by simp, ?_, rfl⟩
        exact List.forall_mem_append.2 ⟨hafter, List.forall_mem_singleton.2 (by simpa using ht)⟩
      · rintro ⟨before, attrs, selfClosing, after, hts, hafter, rfl⟩
        rcases List.eq_nil_or_concat' after with rfl | ⟨after, u, rfl⟩
        · have htag := (List.cons.inj (List.append_inj' hts rfl).2).1
          rw [htag, Token.begins, BEq.rfl] at ht
          exact absurd rfl ht
        · rw [← List.cons_append, ← List.append_assoc] at hts
          refine ⟨before, attrs, selfClosing, after, (List.append_inj' hts rfl).1, ?_, rfl⟩
          exact fun t ht ↦ hafter t (List.mem_append_left _ ht)

/-- **What the last element of a name stands inside** can be told from the tokens. -/
theorem lastStandsInside_treeOfTokens_iff {name tag : String} (ts : List Token) :
    LastStandsInside name tag (treeOfTokens ts) ↔ LastReadInside name tag ts := by
  rw [LastStandsInside, surroundingsOf_treeOfTokens]
  constructor
  · rintro ⟨around, haround, htag⟩
    obtain ⟨before, attrs, selfClosing, after, hts, hafter, rfl⟩ :=
      (getLast?_openAtStarts_eq_some_iff ts).1 haround
    exact ⟨before, attrs, selfClosing, after, hts, hafter, htag⟩
  · rintro ⟨before, attrs, selfClosing, after, hts, hafter, htag⟩
    exact ⟨leftOpen before, (getLast?_openAtStarts_eq_some_iff ts).2
      ⟨before, attrs, selfClosing, after, hts, hafter, rfl⟩, htag⟩

/-- Reading is building a tree of the tokens. -/
theorem parse_of_tokens {source : String} {ts : List Token} (h : tokens source.toList = .ok ts) :
    parse source = .ok (treeOfTokens ts) := by
  rw [parse, h]
  rfl

/-- An element after a text stands inside what the text leaves open. -/
theorem lastStandsInside_iff {name tag : String} {ts : List Token} :
    LastStandsInside name tag
      (treeOfTokens (ts ++ [.startTag name [] false, .endTag name])) ↔ tag ∈ leftOpen ts := by
  have hlast : (openAtStarts name [] (ts ++ [.startTag name [] false, .endTag name])).getLast? =
      some (leftOpen ts) :=
    (getLast?_openAtStarts_eq_some_iff _).2
      ⟨ts, [], false, [.endTag name], rfl, List.forall_mem_singleton.2 rfl, rfl⟩
  rw [LastStandsInside, surroundingsOf_treeOfTokens, hlast]
  simp

end SafeMarkdown.Html
