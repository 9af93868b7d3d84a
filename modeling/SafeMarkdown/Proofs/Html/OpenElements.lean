import Mathlib.Data.List.TakeWhile
import SafeMarkdown.Proofs.Html.Builder

/-!
# Which elements are open

Of the stack that tokens build, only the names matter to what is open. `leftOpen` runs on names
alone, and the stack follows it (`Builder.tracks_foldl_add`).

How many elements of one name are left open is a matter of bookkeeping (`balance`). Start tags open
them and end tags of the name close them, with two exceptions: an end tag may find none to close,
and the end tag of an element around them closes them along with it.
-/

namespace SafeMarkdown.Html

/-! ### The names of open elements -/

/-- The names of the elements that are open after a token, innermost first. -/
def openAfter (names : List String) : Token → List String
  | .startTag tag _ selfClosing => if selfClosing ∨ tag ∈ voidTags then names else tag :: names
  | .endTag tag => if tag ∈ names then (names.dropWhile (· != tag)).tail else names
  | .text _ | .hidden => names

section Equations

variable {names : List String} {tag : String}

/-- A start tag that closes its element leaves nothing open. -/
theorem openAfter_startTag_of_closed {attrs : List Attr} {selfClosing : Bool}
    (h : selfClosing = true ∨ tag ∈ voidTags) :
    openAfter names (.startTag tag attrs selfClosing) = names :=
  if_pos h

/-- Any other leaves one more element open. -/
theorem openAfter_startTag_of_open {attrs : List Attr} {selfClosing : Bool}
    (h : ¬ (selfClosing = true ∨ tag ∈ voidTags)) :
    openAfter names (.startTag tag attrs selfClosing) = tag :: names :=
  if_neg h

/-- An end tag closes the nearest element of its name, and all inside it. -/
theorem openAfter_endTag_of_mem (h : tag ∈ names) :
    openAfter names (.endTag tag) = (names.dropWhile (· != tag)).tail :=
  if_pos h

/-- One that finds none changes nothing. -/
theorem openAfter_endTag_of_not_mem (h : tag ∉ names) : openAfter names (.endTag tag) = names :=
  if_neg h

end Equations

/-- The names of the elements that tokens leave open, innermost first. -/
def leftOpen (ts : List Token) : List String :=
  ts.foldl openAfter []

namespace Builder

variable {b : Builder} {names : List String}

/-- The builder looks for an open element by its name. -/
theorem isOpen_iff {tag : String} : b.isOpen tag = true ↔ tag ∈ b.stack.map OpenElement.tag := by
  simp [isOpen]

/-- Closing up to a name leaves the names beyond the nearest one. -/
theorem map_tag_closeThrough (tag : String) (stack : List OpenElement) (nodes : List Markup) :
    (closeThrough tag stack nodes).1.map OpenElement.tag =
      ((stack.map OpenElement.tag).dropWhile (· != tag)).tail := by
  induction stack generalizing nodes with
  | nil => rfl
  | cons e es ih =>
    by_cases h : e.tag = tag
    · simp [closeThrough, h]
    · simp [closeThrough, h, ih]

/-- The names are those of the open elements. No void element is open, and end tags are spent on no
others. -/
structure Tracks (b : Builder) (names : List String) : Prop where
  stack : b.stack.map OpenElement.tag = names
  notVoid : ∀ tag ∈ names, tag ∉ voidTags
  spent : ∀ tag ∈ b.spent, tag ∈ voidTags

/-- At first nothing is open. -/
theorem tracks_empty : empty.Tracks [] :=
  ⟨rfl, List.forall_mem_nil _, List.forall_mem_nil _⟩

/-- Finishing the pending text opens and closes nothing. -/
theorem Tracks.flush (h : b.Tracks names) : b.flush.Tracks names :=
  ⟨by rw [stack_flush, h.stack], h.notVoid, by rw [spent_flush]; exact h.spent⟩

/-- The builder opens what a start tag leaves open. -/
theorem Tracks.startTag (h : b.Tracks names) (tag : String) (attrs : List Attr)
    (selfClosing : Bool) :
    (b.startTag tag attrs selfClosing).Tracks
      (openAfter names (.startTag tag attrs selfClosing)) := by
  have hpop : (b.flush.push tag attrs).pop tag =
      { b.flush with nodes := .element tag attrs [] :: b.flush.nodes } :=
    pop_push b.flush tag attrs []
  have hflush := h.flush
  simp only [Builder.startTag, hpop]
  by_cases hclosed : selfClosing = true
  · rw [if_pos hclosed, openAfter_startTag_of_closed (.inl hclosed)]
    exact ⟨hflush.stack, hflush.notVoid, hflush.spent⟩
  · rw [if_neg hclosed]
    by_cases hvoid : tag ∈ voidTags
    · rw [if_pos hvoid, openAfter_startTag_of_closed (.inr hvoid)]
      exact ⟨hflush.stack, hflush.notVoid, List.forall_mem_cons.2 ⟨hvoid, hflush.spent⟩⟩
    · rw [if_neg hvoid, openAfter_startTag_of_open (not_or.2 ⟨hclosed, hvoid⟩)]
      exact ⟨congrArg (tag :: ·) hflush.stack, List.forall_mem_cons.2 ⟨hvoid, hflush.notVoid⟩,
        hflush.spent⟩

/-- The builder closes what an end tag closes. It does not look for elements that were closed by
their own start tag, which are not open. -/
theorem Tracks.endTag (h : b.Tracks names) (tag : String) :
    (b.endTag tag).Tracks (openAfter names (.endTag tag)) := by
  have hsub : (names.dropWhile (· != tag)).tail ⊆ names :=
    ((List.tail_sublist _).trans (List.dropWhile_sublist _)).subset
  rw [Builder.endTag]
  by_cases hspent : tag ∈ b.spent
  · -- an end tag that is spent is that of a void element, and no such element is open
    have hclosed : tag ∉ names := fun hmem ↦ h.notVoid tag hmem (h.spent tag hspent)
    rw [if_pos hspent, openAfter_endTag_of_not_mem hclosed]
    exact ⟨h.stack, h.notVoid, fun other hother ↦ h.spent other (List.mem_of_mem_erase hother)⟩
  · have hflush := h.flush
    have hopen : b.flush.isOpen tag = true ↔ tag ∈ names := by
      rw [isOpen_iff, hflush.stack]
    rw [if_neg hspent, Builder.pop]
    by_cases hmem : tag ∈ names
    · rw [if_pos (hopen.2 hmem), openAfter_endTag_of_mem hmem]
      refine ⟨?_, fun other hother ↦ h.notVoid other (hsub hother), hflush.spent⟩
      rw [map_tag_closeThrough, hflush.stack]
    · rw [if_neg (mt hopen.1 hmem), openAfter_endTag_of_not_mem hmem]
      exact hflush

/-- **Every token changes the open elements as said.** -/
theorem Tracks.add (h : b.Tracks names) (t : Token) : (b.add t).Tracks (openAfter names t) := by
  cases t with
  | text s => exact ⟨h.stack, h.notVoid, h.spent⟩
  | startTag tag attrs selfClosing => exact h.startTag tag attrs selfClosing
  | endTag tag => exact h.endTag tag
  | hidden => exact h.flush

/-- So do all tokens, one after the other. -/
theorem Tracks.foldl_add (h : b.Tracks names) (ts : List Token) :
    (ts.foldl Builder.add b).Tracks (ts.foldl openAfter names) := by
  induction ts generalizing b names with
  | nil => exact h
  | cons t ts ih => exact ih (h.add t)

/-- **The open elements are those that the names say.** -/
theorem tracks_foldl_add (ts : List Token) : (ts.foldl Builder.add .empty).Tracks (leftOpen ts) :=
  tracks_empty.foldl_add ts

end Builder

/-! ### How many are open -/

/-- The token is a start tag of that name. -/
def Token.begins (tag : String) : Token → Bool
  | .startTag name _ _ => name == tag
  | _ => false

/-- The token is a start tag of that name that does not close its element. -/
def Token.opens (tag : String) : Token → Bool
  | .startTag name _ selfClosing => name == tag && !selfClosing
  | _ => false

/-- The token is a start tag of that name that closes its element. -/
def Token.closesItself (tag : String) : Token → Bool
  | .startTag name _ selfClosing => name == tag && selfClosing
  | _ => false

/-- The token is an end tag of that name. -/
def Token.closes (tag : String) : Token → Bool
  | .endTag name => name == tag
  | _ => false

/-- A start tag either opens an element that stays open or closes it. -/
theorem countP_begins (tag : String) (ts : List Token) :
    ts.countP (Token.begins tag) =
      ts.countP (Token.opens tag) + ts.countP (Token.closesItself tag) := by
  induction ts with
  | nil => rfl
  | cons t ts ih =>
    have hone : (if t.begins tag then 1 else 0) =
        (if t.opens tag then 1 else 0) + if t.closesItself tag then 1 else 0 := by
      cases t with
      | startTag name attrs selfClosing =>
        by_cases hname : name = tag
        · cases selfClosing <;> simp [Token.begins, Token.opens, Token.closesItself, hname]
        · simp [Token.begins, Token.opens, Token.closesItself, hname]
      | text | endTag | hidden => rfl
    simp only [List.countP_cons, ih, hone]
    omega

/-- How many elements of that name a token closes that is no end tag of the name. -/
def sweptBy (tag : String) (names : List String) : Token → Nat
  | .endTag name =>
    if name ∈ names ∧ name ≠ tag then (names.takeWhile (· != name)).count tag else 0
  | _ => 0

/-- How many elements of that name are closed by end tags of other names, when elements of the given
names are open at first. -/
def sweptFrom (tag : String) (names : List String) : List Token → Nat
  | [] => 0
  | t :: ts => sweptBy tag names t + sweptFrom tag (openAfter names t) ts

/-- How many end tags of that name find no element to close. -/
def straysFrom (tag : String) (names : List String) : List Token → Nat
  | [] => 0
  | t :: ts =>
    (if t.closes tag ∧ tag ∉ names then 1 else 0) + straysFrom tag (openAfter names t) ts

/-- Of the open elements, an end tag leaves those further out than the innermost one of its name. -/
theorem count_takeWhile_add_count_tail {tag name : String} {names : List String}
    (h : name ∈ names) :
    (names.takeWhile (· != name)).count tag + (if name = tag then 1 else 0) +
      (names.dropWhile (· != name)).tail.count tag = names.count tag := by
  induction names with
  | nil => cases h
  | cons other names ih =>
    by_cases hother : other = name
    · simp [hother, List.count_cons, Nat.add_comm]
    · have hmem : name ∈ names := (List.mem_cons.1 h).resolve_left (Ne.symm hother)
      have hrest := ih hmem
      rw [List.takeWhile_cons_of_pos (by simpa using hother),
        List.dropWhile_cons_of_pos (by simpa using hother), List.count_cons, List.count_cons]
      omega

/-- An end tag of the name itself closes the innermost element of the name and no other. -/
theorem count_tail_add_one {tag : String} {names : List String} (h : tag ∈ names) :
    (names.dropWhile (· != tag)).tail.count tag + 1 = names.count tag := by
  have hinside : (names.takeWhile (· != tag)).count tag = 0 := by
    refine List.count_eq_zero.2 fun hmem ↦ ?_
    have hne := List.mem_takeWhile_imp hmem
    simp at hne
  have hcount := @count_takeWhile_add_count_tail tag tag names h
  rw [hinside, if_pos rfl] at hcount
  omega

/-- One token: what is open and what it opens is what stays open and what it closes. -/
theorem balance_step {tag : String} (htag : tag ∉ voidTags) (names : List String) (t : Token) :
    names.count tag + (if t.opens tag then 1 else 0) +
        (if t.closes tag ∧ tag ∉ names then 1 else 0) =
      (openAfter names t).count tag + sweptBy tag names t + (if t.closes tag then 1 else 0) := by
  cases t with
  | text s => simp [openAfter, sweptBy, Token.opens, Token.closes]
  | hidden => simp [openAfter, sweptBy, Token.opens, Token.closes]
  | startTag name attrs selfClosing =>
    by_cases hclosed : selfClosing = true ∨ name ∈ voidTags
    · have hopens : Token.opens tag (.startTag name attrs selfClosing) = false := by
        rcases hclosed with rfl | hvoid
        · simp [Token.opens]
        · have hne : name ≠ tag := fun heq ↦ htag (heq ▸ hvoid)
          simp [Token.opens, hne]
      simp [openAfter_startTag_of_closed hclosed, sweptBy, hopens, Token.closes]
    · have hkept : selfClosing = false := by simpa using (not_or.1 hclosed).1
      rw [openAfter_startTag_of_open hclosed, List.count_cons]
      simp [sweptBy, Token.opens, hkept, Token.closes]
  | endTag name =>
    by_cases hname : name = tag
    · subst hname
      by_cases hmem : name ∈ names
      · rw [openAfter_endTag_of_mem hmem, ← count_tail_add_one hmem]
        simp [sweptBy, Token.opens, Token.closes, hmem]
      · rw [openAfter_endTag_of_not_mem hmem]
        simp [sweptBy, Token.opens, Token.closes, hmem]
    · by_cases hmem : name ∈ names
      · have hcount := @count_takeWhile_add_count_tail tag name names hmem
        rw [if_neg hname, Nat.add_zero] at hcount
        rw [openAfter_endTag_of_mem hmem, ← hcount]
        simp [sweptBy, Token.opens, Token.closes, hmem, hname, Nat.add_comm]
      · rw [openAfter_endTag_of_not_mem hmem]
        simp [sweptBy, Token.opens, Token.closes, hmem, hname]

/-- **The balance of one name.** -/
theorem balance {tag : String} (htag : tag ∉ voidTags) (names : List String) (ts : List Token) :
    names.count tag + ts.countP (Token.opens tag) + straysFrom tag names ts =
      (ts.foldl openAfter names).count tag + sweptFrom tag names ts +
        ts.countP (Token.closes tag) := by
  induction ts generalizing names with
  | nil => rfl
  | cons t ts ih =>
    have hstep := balance_step htag names t
    have hrest := ih (openAfter names t)
    rw [List.countP_cons, List.countP_cons, straysFrom, sweptFrom, List.foldl_cons]
    omega

end SafeMarkdown.Html
