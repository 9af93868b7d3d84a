import Mathlib.Data.List.TakeWhile
import SafeMarkdown.Commonmark.RawHtml
import SafeMarkdown.Proofs.Html.Written
import SafeMarkdown.Proofs.Text.Split

/-!
# The grammar of start tags

A start tag in running text is read strictly, and by trial: a value without quotes may end at
several places, and reading goes on from each. `TagBody` is the grammar that is behind it. It gives
the text between the name of a tag and the bracket that closes the tag, and tells whether a slash
stands there that belongs to no attribute.

Reading follows the grammar (`exists_tagBody`), as long as the only blanks outside quotes are those
of HTML. Any other blank may be part of a value without quotes for one reader and its end for
another.

## The slash at the end

`endsInBareSlash` looks back from the bracket: a slash, a value without quotes before it, and an
equals sign before that. It does not follow the grammar, so it could be deceived by an equals sign
or a slash inside a quoted value. `TagBody.endsInBareSlash_iff` says that it is not: it answers yes
exactly where the grammar has no slash of its own and the tag ends in one all the same.

Both directions are inductions on the grammar. In a tag with a slash of its own, no equals sign has
such a value behind it that runs to the end, because after every value a blank or that slash comes
first (`TagBody.not_isBareSlash`). In a tag without one that ends in a slash, the last assignment
has such a value: a quoted value would end in a quote (`TagBody.exists_isBareSlash`).
-/

namespace SafeMarkdown.Commonmark

open Text (isBlank isHtmlSpace)
open Html (isQuote)

/-! ### Quotes -/

/-- The characters of a text that stand outside quotes, where the text begins outside quotes or
within an open one. The quotes are left out too. -/
def outsideQuotes (quote : Option Char) : List Char → List Char
  | [] => []
  | c :: r =>
    match quote with
    | none => if isQuote c then outsideQuotes (some c) r else c :: outsideQuotes none r
    | some q => outsideQuotes (if c = q then none else some q) r

/-- What is outside quotes goes on where no quote stands. -/
theorem outsideQuotes_append {s : List Char} (hs : ∀ c ∈ s, isQuote c = false) (t : List Char) :
    outsideQuotes none (s ++ t) = s ++ outsideQuotes none t := by
  induction s with
  | nil => rfl
  | cons c s ih =>
    obtain ⟨hc, hs⟩ := List.forall_mem_cons.1 hs
    rw [List.cons_append, outsideQuotes, hc, if_neg Bool.false_ne_true, ih hs, List.cons_append]

/-- Within a quote, nothing is outside until the quote ends. -/
theorem outsideQuotes_open {q : Char} {s : List Char} (hs : q ∉ s) (t : List Char) :
    outsideQuotes (some q) (s ++ q :: t) = outsideQuotes none t := by
  induction s with
  | nil => rw [List.nil_append, outsideQuotes, if_pos rfl]
  | cons c s ih =>
    rw [List.mem_cons, not_or] at hs
    rw [List.cons_append, outsideQuotes, if_neg (Ne.symm hs.1), ih hs.2]

/-- Outside quotes, all blanks of the text are spaces of HTML. -/
def SpacedAsHtml (s : List Char) : Prop :=
  ∀ c ∈ outsideQuotes none s, isBlank c = true → isHtmlSpace c = true

instance (s : List Char) : Decidable (SpacedAsHtml s) :=
  List.decidableBAll _ _

namespace SpacedAsHtml

variable {s t : List Char}

/-- A tag that is spaced as HTML is so after a part without quotes. -/
theorem of_append (h : SpacedAsHtml (s ++ t)) (hs : ∀ c ∈ s, isQuote c = false) :
    SpacedAsHtml t := by
  rw [SpacedAsHtml, outsideQuotes_append hs] at h
  exact fun c hc ↦ h c (List.mem_append_right s hc)

/-- In a part without quotes, every blank is one of HTML. -/
theorem isHtmlSpace_of_mem (h : SpacedAsHtml (s ++ t)) (hs : ∀ c ∈ s, isQuote c = false) :
    ∀ c ∈ s, isBlank c = true → isHtmlSpace c = true := by
  rw [SpacedAsHtml, outsideQuotes_append hs] at h
  exact fun c hc ↦ h c (List.mem_append_left _ hc)

/-- A tag that is spaced as HTML is so after a quoted value. -/
theorem of_quoted {q : Char} (hq : isQuote q = true) (hs : q ∉ s)
    (h : SpacedAsHtml (q :: (s ++ q :: t))) : SpacedAsHtml t := by
  rwa [SpacedAsHtml, outsideQuotes, if_pos hq, outsideQuotes_open hs] at h

end SpacedAsHtml

/-! ### The grammar -/

/-- All characters are blank. -/
def Blanks (s : List Char) : Prop :=
  ∀ c ∈ s, isBlank c = true

/-- The name of an attribute. -/
structure IsAttrName (c : Char) (r : List Char) : Prop where
  start : isAttrNameStart c = true
  part : ∀ d ∈ r, isAttrNamePart d = true

/-- The value of an attribute, where the tag goes on with `tail`: a text in quotes, or a run of
characters that are not blank. -/
inductive IsValue (tail : List Char) : List Char → Prop
  | quoted {q : Char} {value : List Char} (hq : isQuote q = true) (hvalue : q ∉ value) :
    IsValue tail (q :: (value ++ [q]))
  | bare {c : Char} {value : List Char}
    (hvalue : ∀ d ∈ c :: value, isBareValueChar d = true ∧ isBlank d = false)
    (htail : ∀ d ∈ tail.head?, isBareValueChar d = true → isBlank d = true) :
    IsValue tail (c :: value)

/-- What follows the name of an attribute, where the tag goes on with `tail`: nothing, or an equals
sign and a value. -/
inductive IsAssignment (tail : List Char) : List Char → Prop
  | missing : IsAssignment tail []
  | value {before after value : List Char} (hbefore : Blanks before) (hafter : Blanks after)
    (hvalue : IsValue tail value) : IsAssignment tail (before ++ '=' :: (after ++ value))

/-- What stands in a start tag between its name and its closing bracket; `closes` tells that it ends
in a slash which belongs to no attribute. -/
inductive TagBody : (closes : Bool) → List Char → Prop
  | close {blanks : List Char} (h : Blanks blanks) : TagBody false blanks
  | slash {blanks : List Char} (h : Blanks blanks) : TagBody true (blanks ++ ['/'])
  | attr {closes : Bool} {b c : Char} {blanks r assignment tail : List Char}
    (hblanks : Blanks (b :: blanks)) (hname : IsAttrName c r)
    (hassignment : IsAssignment tail assignment) (htail : TagBody closes tail) :
    TagBody closes (b :: blanks ++ (c :: r ++ (assignment ++ tail)))

/-- After the name of a tag or of an attribute, and after a value, there is a blank or the slash. -/
theorem TagBody.isBlank_or_eq_slash {closes : Bool} {body : List Char} (h : TagBody closes body) :
    ∀ c ∈ body.head?, isBlank c = true ∨ c = '/' := by
  intro c hc
  cases h with
  | close hblanks => exact .inl (hblanks c (List.mem_of_mem_head? hc))
  | @slash blanks hblanks =>
    cases blanks with
    | nil => exact .inr (Option.some.inj hc).symm
    | cons b blanks => exact .inl (hblanks c (List.mem_of_mem_head? hc))
  | attr hblanks => exact .inl (hblanks c (List.mem_of_mem_head? hc))

/-! ### Characters -/

/-- A class of characters without the two quotes holds no quote. -/
theorem isQuote_eq_false {p : Char → Bool} (hp : p '"' = false ∧ p '\'' = false) {c : Char}
    (h : p c = true) : isQuote c = false := by
  rw [isQuote, Bool.or_eq_false_iff, beq_eq_false_iff_ne, beq_eq_false_iff_ne]
  constructor
  · rintro rfl
    exact Bool.false_ne_true (hp.1.symm.trans h)
  · rintro rfl
    exact Bool.false_ne_true (hp.2.symm.trans h)

/-- A blank is no quote. -/
theorem isQuote_of_isBlank {c : Char} (h : isBlank c = true) : isQuote c = false :=
  isQuote_eq_false (by decide) h

/-- Neither is part of a name. -/
theorem isQuote_of_isAttrNamePart {c : Char} (h : isAttrNamePart c = true) : isQuote c = false :=
  isQuote_eq_false (by decide) h

/-- Neither is part of a value without quotes. -/
theorem isQuote_of_isBareValueChar {c : Char} (h : isBareValueChar c = true) : isQuote c = false :=
  isQuote_eq_false (by decide) h

/-- Names of attributes are ASCII. -/
theorem lt_of_isAttrNamePart {c : Char} (h : isAttrNamePart c = true) : c.toNat < 128 := by
  rw [isAttrNamePart] at h
  simp only [Bool.or_eq_true, beq_iff_eq] at h
  rcases h with (((h | rfl) | rfl) | rfl) | rfl
  · exact Text.lt_of_isAlphanum h
  all_goals decide

/-- A name may go on with what it may begin with. -/
theorem isAttrNamePart_of_isAttrNameStart {c : Char} (h : isAttrNameStart c = true) :
    isAttrNamePart c = true := by
  rw [isAttrNameStart] at h
  simp only [Bool.or_eq_true, beq_iff_eq] at h
  rcases h with (h | rfl) | rfl
  · simp [isAttrNamePart, Char.isAlphanum, h]
  all_goals decide

theorem IsAttrName.part_of_mem {c : Char} {r : List Char} (h : IsAttrName c r) :
    ∀ d ∈ c :: r, isAttrNamePart d = true :=
  List.forall_mem_cons.2 ⟨isAttrNamePart_of_isAttrNameStart h.start, h.part⟩

/-! ### Reading follows the grammar -/

theorem blanks_takeWhile (s : List Char) : Blanks (s.takeWhile isBlank) :=
  fun _ hc ↦ List.mem_takeWhile_imp hc

/-- A blank in a text that is spaced as HTML is no character of a value without quotes. -/
theorem isBlank_eq_false_of_bare {c : Char} (hspace : isBlank c = true → isHtmlSpace c = true)
    (h : isBareValueChar c = true) : isBlank c = false := by
  rw [Bool.eq_false_iff]
  intro hblank
  have hc := hspace hblank
  simp only [isHtmlSpace, Bool.or_eq_true, beq_iff_eq] at hc
  rcases hc with (((rfl | rfl) | rfl) | rfl) | rfl
  all_goals exact absurd h (by decide)

/-- The text up to a character, and the rest after it. -/
theorem exists_of_afterChar? {c : Char} {s rest : List Char} (h : afterChar? c s = some rest) :
    ∃ before, c ∉ before ∧ s = before ++ c :: rest := by
  unfold afterChar? at h
  split at h
  · cases h
  · rename_i d t hdrop
    cases h
    have hd : d = c := by
      have hhead := List.head?_dropWhile_not (· != c) s
      rw [hdrop] at hhead
      simpa using hhead
    refine ⟨s.takeWhile (· != c), ?_, ?_⟩
    · intro hmem
      simpa using List.mem_takeWhile_imp hmem
    · rw [← hd, ← hdrop, hd, List.takeWhile_append_dropWhile]

/-- Every end of a run of characters of a value leaves a run. -/
theorem exists_of_mem_bareValueEnds {s rest : List Char} (h : rest ∈ bareValueEnds s) :
    ∃ value, s = value ++ rest ∧ (∀ c ∈ value, isBareValueChar c = true) ∧
      ∀ c ∈ rest.head?, isBareValueChar c = true → isBlank c = true := by
  induction s with
  | nil =>
    obtain rfl := List.mem_singleton.1 h
    exact ⟨[], rfl, List.forall_mem_nil _, by simp⟩
  | cons c s ih =>
    have hlonger (hrest : rest ∈ bareValueEnds s) (hc : isBareValueChar c = true) :
        ∃ value, c :: s = value ++ rest ∧ (∀ d ∈ value, isBareValueChar d = true) ∧
          ∀ d ∈ rest.head?, isBareValueChar d = true → isBlank d = true := by
      obtain ⟨value, rfl, hvalue, htail⟩ := ih hrest
      exact ⟨c :: value, rfl, List.forall_mem_cons.2 ⟨hc, hvalue⟩, htail⟩
    unfold bareValueEnds at h
    split at h
    · rename_i hc
      split at h
      · rename_i hblank
        rcases List.mem_append.1 h with h | h
        · exact hlonger h hc
        · obtain rfl := List.mem_singleton.1 h
          exact ⟨[], rfl, List.forall_mem_nil _, by simpa using fun _ ↦ hblank⟩
      · exact hlonger h hc
    · rename_i hc
      obtain rfl := List.mem_singleton.1 h
      exact ⟨[], rfl, List.forall_mem_nil _, by simp [hc]⟩

/-- Where reading goes on after a value, there was one. -/
theorem exists_of_mem_valueEnds {s rest : List Char} (hs : SpacedAsHtml s)
    (h : rest ∈ valueEnds s) : ∃ value, s = value ++ rest ∧ IsValue rest value := by
  cases s with
  | nil => cases h
  | cons q s =>
    rw [valueEnds] at h
    split at h
    · rename_i hq
      obtain ⟨value, hvalue, rfl⟩ := exists_of_afterChar? (Option.mem_toList.1 h)
      exact ⟨q :: (value ++ [q]), by simp, .quoted hq hvalue⟩
    · split at h
      · rename_i hq
        obtain ⟨value, rfl, hvalue, htail⟩ := exists_of_mem_bareValueEnds h
        have hbare : ∀ c ∈ q :: value, isBareValueChar c = true :=
          List.forall_mem_cons.2 ⟨hq, hvalue⟩
        have hspace := hs.isHtmlSpace_of_mem (s := q :: value)
          fun c hc ↦ isQuote_of_isBareValueChar (hbare c hc)
        exact ⟨q :: value, rfl, .bare
          (fun c hc ↦ ⟨hbare c hc, isBlank_eq_false_of_bare (hspace c hc) (hbare c hc)⟩) htail⟩
      · cases h

/-- Where a value may end, a value stands before, after blanks. -/
theorem exists_of_mem_spacedValueEnds {s rest : List Char} (hs : SpacedAsHtml s)
    (h : rest ∈ spacedValueEnds s) :
    ∃ after value, s = after ++ (value ++ rest) ∧ Blanks after ∧ IsValue rest value := by
  induction s with
  | nil => cases h
  | cons c s ih =>
    have hdirect (h : rest ∈ valueEnds (c :: s)) :
        ∃ after value, c :: s = after ++ (value ++ rest) ∧ Blanks after ∧ IsValue rest value := by
      obtain ⟨value, hvalue⟩ := exists_of_mem_valueEnds hs h
      exact ⟨[], value, hvalue.1, List.forall_mem_nil _, hvalue.2⟩
    unfold spacedValueEnds at h
    split at h
    · rename_i hblank
      rcases List.mem_append.1 h with h | h
      · have hquote : ∀ d ∈ [c], isQuote d = false :=
          List.forall_mem_singleton.2 (isQuote_of_isBlank hblank)
        obtain ⟨after, value, rfl, hafter, hvalue⟩ := ih (hs.of_append (s := [c]) hquote) h
        exact ⟨c :: after, value, rfl, List.forall_mem_cons.2 ⟨hblank, hafter⟩, hvalue⟩
      · exact hdirect h
    · exact hdirect h

/-- No quote is left open by a value, so what follows it is spaced as the whole. -/
theorem IsValue.spacedAsHtml {tail value : List Char} (h : IsValue tail value)
    (hs : SpacedAsHtml (value ++ tail)) : SpacedAsHtml tail := by
  cases h with
  | @quoted q value hq hvalue =>
    refine SpacedAsHtml.of_quoted hq hvalue ?_
    rwa [List.cons_append, List.append_assoc, List.singleton_append] at hs
  | bare hvalue _ => exact hs.of_append fun c hc ↦ isQuote_of_isBareValueChar (hvalue c hc).1

/-- A value with less after it is a value. -/
theorem IsValue.of_append {tail t value : List Char} (h : IsValue (tail ++ t) value) :
    IsValue tail value := by
  cases h with
  | quoted hq hvalue => exact .quoted hq hvalue
  | bare hvalue htail =>
    refine .bare hvalue fun d hd ↦ htail d ?_
    rw [List.head?_append, Option.mem_def.1 hd]
    rfl

/-- A text that begins with a blank begins with a run of them. -/
theorem exists_takeWhile_eq_cons {s : List Char} (h : (s.head?.map isBlank).getD false = true) :
    ∃ b blanks, s.takeWhile isBlank = b :: blanks := by
  cases s with
  | nil => cases h
  | cons b s => exact ⟨b, _, List.takeWhile_cons_of_pos h⟩

/-- What reading makes of the text after the name of an attribute: it goes on after a value where
there is an equals sign, and right after the name where there is none. -/
theorem exists_assignment {fuel : Nat} {s rest : List Char} (hs : SpacedAsHtml s)
    (h : (match s.dropWhile isBlank with
      | '=' :: v => (spacedValueEnds v).findSome? (startTagTail? fuel)
      | _ => startTagTail? fuel s) = some rest) :
    ∃ assignment tail, s = assignment ++ tail ∧ IsAssignment tail assignment ∧
      SpacedAsHtml tail ∧ startTagTail? fuel tail = some rest := by
  split at h
  · rename_i v hv
    have hbefore := blanks_takeWhile s
    have hsplit : s.takeWhile isBlank ++ s.dropWhile isBlank = s := List.takeWhile_append_dropWhile
    generalize s.takeWhile isBlank = before at hbefore hsplit
    rw [hv] at hsplit
    have hspaced : SpacedAsHtml v := by
      rw [← hsplit] at hs
      exact (hs.of_append fun d hd ↦ isQuote_of_isBlank (hbefore d hd)).of_append (s := ['='])
        (List.forall_mem_singleton.2 rfl)
    obtain ⟨tail, htail, hread⟩ := List.exists_of_findSome?_eq_some h
    obtain ⟨after, value, rfl, hafter, hvalue⟩ := exists_of_mem_spacedValueEnds hspaced htail
    have hend : SpacedAsHtml tail :=
      hvalue.spacedAsHtml (hspaced.of_append fun d hd ↦ isQuote_of_isBlank (hafter d hd))
    exact ⟨_, tail, by rw [← hsplit]; simp, .value hbefore hafter hvalue, hend, hread⟩
  · exact ⟨[], s, rfl, .missing, hs, h⟩

/-- An assignment with less after it is an assignment. -/
theorem IsAssignment.of_append {tail t assignment : List Char}
    (h : IsAssignment (tail ++ t) assignment) : IsAssignment tail assignment := by
  cases h with
  | missing => exact .missing
  | value hbefore hafter hvalue => exact .value hbefore hafter hvalue.of_append

/-- **What is read as a start tag is one**: it goes on from its name as the grammar says, up to its
closing bracket. -/
theorem exists_tagBody {fuel : Nat} {s rest : List Char} (hs : SpacedAsHtml s)
    (h : startTagTail? fuel s = some rest) :
    ∃ closes body, TagBody closes body ∧ s = body ++ '>' :: rest := by
  induction fuel generalizing s with
  | zero => cases h
  | succ fuel ih =>
    have hblanks := blanks_takeWhile s
    have hsplit : s.takeWhile isBlank ++ s.dropWhile isBlank = s := List.takeWhile_append_dropWhile
    unfold startTagTail? at h
    -- the text ends, or the tag does, with a slash or without, or an attribute follows
    split at h
    · cases h
    · rename_i r hr
      cases h
      rw [hr] at hsplit
      exact ⟨false, _, .close hblanks, hsplit.symm⟩
    · rename_i r hr
      cases h
      rw [hr] at hsplit
      exact ⟨true, _, .slash hblanks, by rw [List.append_assoc]; exact hsplit.symm⟩
    · rename_i c r _ _ hr
      split at h
      · rename_i hcond
        obtain ⟨hhead, hstart⟩ := Bool.and_eq_true_iff.1 hcond
        obtain ⟨b, blanks, hb⟩ := exists_takeWhile_eq_cons hhead
        rw [hb] at hblanks
        rw [hb, hr] at hsplit
        have hname : IsAttrName c (r.takeWhile isAttrNamePart) :=
          ⟨hstart, fun d hd ↦ List.mem_takeWhile_imp hd⟩
        have hr' : r.takeWhile isAttrNamePart ++ r.dropWhile isAttrNamePart = r :=
          List.takeWhile_append_dropWhile
        generalize r.takeWhile isAttrNamePart = name at hname hr'
        generalize r.dropWhile isAttrNamePart = afterName at h hr'
        have hafterName : SpacedAsHtml afterName := by
          rw [← hsplit, ← hr', ← List.cons_append] at hs
          exact (hs.of_append fun d hd ↦ isQuote_of_isBlank (hblanks d hd)).of_append
            fun d hd ↦ isQuote_of_isAttrNamePart (hname.part_of_mem d hd)
        obtain ⟨assignment, tail, rfl, hassignment, htail, hread⟩ := exists_assignment hafterName h
        obtain ⟨closes, body, hbody, rfl⟩ := ih htail hread
        refine ⟨closes, _, .attr hblanks hname hassignment.of_append hbody, ?_⟩
        rw [← hsplit, ← hr']
        simp
      · cases h

/-! ### A slash before the bracket -/

/-- The characters that a value without quotes can have before its last one. -/
def isBareEnd (c : Char) : Bool :=
  !(isBlank c || isQuote c || c == '=')

/-- The text ends in a slash and a bracket, and the slash is the last character of a value without
quotes: going back from it, there is the rest of the value, then blanks, and then an equals sign. -/
def endsInBareSlash (s : List Char) : Bool :=
  match s.reverse with
  | '>' :: '/' :: r => ((r.dropWhile isBareEnd).dropWhile isBlank).head? == some '='
  | _ => false

/-- The text, which follows an equals sign, is a value without quotes that ends in a slash. -/
def IsBareSlash (s : List Char) : Prop :=
  ∃ blanks value, s = blanks ++ (value ++ ['/']) ∧ Blanks blanks ∧ ∀ c ∈ value, isBareEnd c = true

/-- **A tag ends in a bare slash** when its last value has no quotes and ends in a slash. -/
theorem endsInBareSlash_iff {s : List Char} :
    endsInBareSlash (s ++ ['>']) = true ↔ ∃ front w, s = front ++ '=' :: w ∧ IsBareSlash w := by
  have hreverse : (s ++ ['>']).reverse = '>' :: s.reverse := by simp
  rw [endsInBareSlash, hreverse]
  constructor
  · intro h
    split at h
    · rename_i r hr
      obtain ⟨t, ht⟩ := List.head?_eq_some_iff.1 (eq_of_beq h)
      have hs : s = ('/' :: r).reverse := by
        rw [← (List.cons.inj hr).2, List.reverse_reverse]
      have hr : r.takeWhile isBareEnd ++ ((r.dropWhile isBareEnd).takeWhile isBlank ++ '=' :: t) =
          r := by
        rw [← ht, List.takeWhile_append_dropWhile, List.takeWhile_append_dropWhile]
      have hvalue : ∀ c ∈ r.takeWhile isBareEnd, isBareEnd c = true :=
        fun _ hc ↦ List.mem_takeWhile_imp hc
      have hblanks := blanks_takeWhile (r.dropWhile isBareEnd)
      generalize r.takeWhile isBareEnd = value at hr hvalue
      generalize (r.dropWhile isBareEnd).takeWhile isBlank = blanks at hr hblanks
      refine ⟨t.reverse, _, ?_, blanks.reverse, value.reverse, rfl, ?_, ?_⟩
      · rw [hs, ← hr]
        simp
      · exact fun c hc ↦ hblanks c (List.mem_reverse.1 hc)
      · exact fun c hc ↦ hvalue c (List.mem_reverse.1 hc)
    · cases h
  · rintro ⟨front, w, rfl, blanks, value, rfl, hblanks, hvalue⟩
    have hshape : (front ++ '=' :: (blanks ++ (value ++ ['/']))).reverse =
        '/' :: (value.reverse ++ (blanks.reverse ++ '=' :: front.reverse)) := by simp
    have hvalue' : ∀ c ∈ value.reverse, isBareEnd c = true :=
      fun c hc ↦ hvalue c (List.mem_reverse.1 hc)
    have hblanks' : ∀ c ∈ blanks.reverse, isBlank c = true :=
      fun c hc ↦ hblanks c (List.mem_reverse.1 hc)
    have hstop : ∀ c ∈ (blanks.reverse ++ '=' :: front.reverse).head?, isBareEnd c = false := by
      intro c hc
      cases hb : blanks.reverse with
      | nil =>
        rw [hb] at hc
        cases hc
        rfl
      | cons b bs =>
        rw [hb] at hc hblanks'
        cases hc
        rw [isBareEnd, hblanks' c List.mem_cons_self]
        rfl
    rw [hshape]
    show ((List.dropWhile isBlank (List.dropWhile isBareEnd _)).head? == some '=') = true
    rw [(Text.takeWhile_append_eq hvalue' hstop).2,
      (Text.takeWhile_append_eq hblanks' (t := '=' :: front.reverse) (by rintro c ⟨⟩; rfl)).2]
    rfl

theorem IsBareSlash.isBareEnd_or {w : List Char} (h : IsBareSlash w) :
    ∀ c ∈ w, isBareEnd c = true ∨ isBlank c = true := by
  obtain ⟨blanks, value, rfl, hblanks, hvalue⟩ := h
  intro c hc
  simp only [List.mem_append, List.mem_singleton] at hc
  rcases hc with hc | hc | rfl
  · exact .inr (hblanks c hc)
  · exact .inl (hvalue c hc)
  · exact .inl rfl

/-- Such a value holds no quote. -/
theorem IsBareSlash.quote_not_mem {w : List Char} (h : IsBareSlash w) {q : Char}
    (hq : isQuote q = true) : q ∉ w := by
  intro hmem
  rcases h.isBareEnd_or q hmem with hend | hblank
  · rw [isBareEnd, hq, Bool.or_true, Bool.true_or] at hend
    cases hend
  · rw [isQuote_of_isBlank hblank] at hq
    cases hq

/-- After a value without quotes that a blank follows there is no such slash. -/
theorem not_isBareSlash {after : List Char} {c b : Char} {s t : List Char} (hafter : Blanks after)
    (hc : isBlank c = false) (hb : isBlank b = true) :
    ¬ IsBareSlash (after ++ (c :: s ++ b :: t)) := by
  rintro ⟨blanks, value, hw, hblanks, hvalue⟩
  have hdrop := congrArg (List.dropWhile isBlank) hw
  have hvalue' : ∀ d ∈ value ++ ['/'], isBlank d = false := by
    intro d hd
    rcases List.mem_append.1 hd with hd | hd
    · have hend := hvalue d hd
      cases hblank : isBlank d with
      | false => rfl
      | true =>
        rw [isBareEnd, hblank] at hend
        cases hend
    · rw [List.mem_singleton.1 hd]
      rfl
  have hstop : ∀ d ∈ (value ++ ['/']).head?, isBlank d = false :=
    fun d hd ↦ hvalue' d (List.mem_of_mem_head? hd)
  rw [(Text.takeWhile_append_eq hafter (by rintro d ⟨⟩; exact hc)).2,
    (Text.takeWhile_append_eq hblanks hstop).2] at hdrop
  have hblank := hvalue' b (hdrop ▸ by simp)
  rw [hb] at hblank
  cases hblank

/-- A tag with a slash of its own ends in one. -/
theorem TagBody.getLast?_eq_slash {body : List Char} (h : TagBody true body) :
    body.getLast? = some '/' := by
  generalize hcloses : true = closes at h
  induction h with
  | close => cases hcloses
  | slash => simp
  | attr _ _ _ _ ih =>
    rw [← List.append_assoc, ← List.append_assoc, List.getLast?_append, ih hcloses]
    rfl

/-- An equals sign with a slash that ends its value stands in the rest of the tag, if the tag does
not end with the value. -/
theorem IsAssignment.exists_front {tail assignment front front' w : List Char}
    (h : IsAssignment tail assignment) {b : Char} {t : List Char} (htail : tail = b :: t)
    (hb : isBlank b = true ∨ b = '/') (hw : IsBareSlash w) (hfront : '=' ∉ front)
    (heq : front ++ (assignment ++ tail) = front' ++ '=' :: w) :
    ∃ front₁ front₂, '=' ∉ front₁ ∧ front₁ ++ tail = front₂ ++ '=' :: w := by
  cases h with
  | missing => exact ⟨front, front', hfront, heq⟩
  | @value before after value hbefore hafter hvalue =>
    have hsign : '=' ∉ front ++ before := by
      rw [List.mem_append, not_or]
      exact ⟨hfront, Text.not_mem_of_forall (by decide) hbefore⟩
    have heq' : (front ++ before) ++ '=' :: (after ++ (value ++ tail)) = front' ++ '=' :: w := by
      rw [← heq]
      simp
    have hsplit := Text.eq_or_exists_of_append_cons hsign heq'
    cases hvalue with
    | @quoted q value hq hvalue =>
      have hquote := hw.quote_not_mem hq
      rcases hsplit with rfl | ⟨rest, hrest⟩
      · exact absurd (by simp) hquote
      · have hne : q ∉ '=' :: w := by
          rw [List.mem_cons, not_or]
          refine ⟨?_, hquote⟩
          rintro rfl
          cases hq
        have hclosed : (after ++ q :: value) ++ q :: tail = rest ++ '=' :: w := by
          rw [← hrest]
          simp
        obtain ⟨rest', hrest'⟩ := Text.exists_of_append_cons hne hclosed
        exact ⟨[], rest', List.not_mem_nil, hrest'⟩
    | @bare c value hvalue hbare =>
      rcases hsplit with rfl | ⟨rest, hrest⟩
      · have hblank : isBlank b = true := by
          rcases hb with hb | rfl
          · exact hb
          · exact hbare '/' (by rw [htail]; rfl) (by decide)
        rw [htail] at hw
        exact absurd hw (not_isBareSlash hafter (hvalue c List.mem_cons_self).2 hblank)
      · refine ⟨after ++ c :: value, rest, ?_, by rw [← hrest]; simp⟩
        rw [List.mem_append, not_or]
        exact ⟨Text.not_mem_of_forall (by decide) hafter,
          Text.not_mem_of_forall (by decide) fun d hd ↦ (hvalue d hd).1⟩

/-- A slash that belongs to no attribute ends no value. -/
theorem TagBody.not_isBareSlash {closes : Bool} {body : List Char} (h : TagBody closes body)
    (hcloses : closes = true) {front front' w : List Char} (hfront : '=' ∉ front)
    (heq : front ++ body = front' ++ '=' :: w) : ¬ IsBareSlash w := by
  intro hw
  induction h generalizing front front' with
  | close => cases hcloses
  | @slash blanks hblanks =>
    have hmem : '=' ∈ front ++ (blanks ++ ['/']) := by
      rw [heq]
      simp
    simp only [List.mem_append, List.mem_singleton] at hmem
    rcases hmem with hmem | hmem | hmem
    · exact hfront hmem
    · exact Text.not_mem_of_forall (by decide) hblanks hmem
    · cases hmem
  | @attr closes b c blanks r assignment tail hblanks hname hassignment htail ih =>
    have hsign : '=' ∉ front ++ (b :: blanks ++ c :: r) := by
      rw [List.mem_append, List.mem_append, not_or, not_or]
      exact ⟨hfront, Text.not_mem_of_forall (by decide) hblanks,
        Text.not_mem_of_forall (by decide) hname.part_of_mem⟩
    have heq' : front ++ (b :: blanks ++ c :: r) ++ (assignment ++ tail) = front' ++ '=' :: w := by
      rw [← heq]
      simp
    subst hcloses
    obtain ⟨d, t, rfl⟩ : ∃ d t, tail = d :: t := by
      cases tail with
      | nil => cases htail.getLast?_eq_slash
      | cons d t => exact ⟨d, t, rfl⟩
    obtain ⟨front₁, front₂, hfront₁, heq₁⟩ :=
      hassignment.exists_front rfl (htail.isBlank_or_eq_slash d rfl) hw hsign heq'
    exact ih rfl hfront₁ heq₁

theorem isBareEnd_of_isBareValueChar {c : Char} (h : isBareValueChar c = true)
    (hblank : isBlank c = false) : isBareEnd c = true := by
  have hsign : c ≠ '=' := by
    rintro rfl
    cases h
  rw [isBareEnd, hblank, isQuote_of_isBareValueChar h, beq_eq_false_iff_ne.2 hsign]
  rfl

/-- A slash at the end of what follows the name of an attribute ends its value. -/
theorem IsAssignment.exists_isBareSlash {assignment name : List Char}
    (h : IsAssignment [] assignment) (hname : '/' ∉ name)
    (hlast : (name ++ assignment).getLast? = some '/') :
    ∃ front w, assignment = front ++ '=' :: w ∧ IsBareSlash w := by
  cases h with
  | missing =>
    rw [List.append_nil] at hlast
    exact absurd (List.mem_of_getLast? hlast) hname
  | @value before after value hbefore hafter hvalue =>
    refine ⟨before, after ++ value, rfl, ?_⟩
    cases hvalue with
    | @quoted q value hq hvalue =>
      have hend : name ++ (before ++ '=' :: (after ++ q :: (value ++ [q]))) =
          name ++ (before ++ '=' :: (after ++ q :: value)) ++ [q] := by simp
      rw [hend, List.getLast?_concat, Option.some.injEq] at hlast
      rw [hlast] at hq
      cases hq
    | @bare c value hvalue _ =>
      have hend : name ++ (before ++ '=' :: (after ++ c :: value)) =
          name ++ (before ++ '=' :: after) ++ c :: value := by simp
      rw [hend, List.getLast?_append_cons] at hlast
      obtain ⟨front, hfront⟩ := List.getLast?_eq_some_iff.1 hlast
      refine ⟨after, front, by rw [hfront], hafter, fun d hd ↦ ?_⟩
      obtain ⟨hbare, hblank⟩ := hvalue d (hfront ▸ List.mem_append_left _ hd)
      exact isBareEnd_of_isBareValueChar hbare hblank

/-- A slash before the bracket that does belong to an attribute ends its value. -/
theorem TagBody.exists_isBareSlash {closes : Bool} {body : List Char} (h : TagBody closes body)
    (hcloses : closes = false) (hlast : body.getLast? = some '/') :
    ∃ front w, body = front ++ '=' :: w ∧ IsBareSlash w := by
  induction h with
  | close hblanks => cases hblanks _ (List.mem_of_getLast? hlast)
  | slash => cases hcloses
  | @attr closes b c blanks r assignment tail hblanks hname hassignment htail ih =>
    have hshape : b :: blanks ++ (c :: r ++ (assignment ++ tail)) =
        (b :: blanks ++ c :: r) ++ assignment ++ tail := by simp
    rw [hshape] at hlast ⊢
    cases tail with
    | cons d t =>
      rw [List.getLast?_append_cons] at hlast
      obtain ⟨front, w, hw, hslash⟩ := ih hcloses hlast
      exact ⟨_, w, by rw [hw, ← List.append_assoc], hslash⟩
    | nil =>
      have hslash : '/' ∉ b :: blanks ++ c :: r := by
        rw [List.mem_append, not_or]
        exact ⟨Text.not_mem_of_forall (by decide) hblanks,
          Text.not_mem_of_forall (by decide) hname.part_of_mem⟩
      rw [List.append_nil] at hlast ⊢
      obtain ⟨front, w, hw, hslash⟩ := hassignment.exists_isBareSlash hslash hlast
      exact ⟨_, w, by rw [hw, ← List.append_assoc], hslash⟩

/-- **What a slash before the bracket belongs to** can be told from the text of the tag alone. -/
theorem TagBody.endsInBareSlash_iff {closes : Bool} {body front : List Char}
    (h : TagBody closes body) (hfront : '=' ∉ front) :
    endsInBareSlash (front ++ body ++ ['>']) = true ↔
      closes = false ∧ body.getLast? = some '/' := by
  rw [Commonmark.endsInBareSlash_iff]
  constructor
  · rintro ⟨front', w, heq, hw⟩
    have hcloses : closes = false := by
      cases closes with
      | false => rfl
      | true => exact absurd hw (h.not_isBareSlash rfl hfront heq)
    have hlast : (front ++ body).getLast? = some '/' := by
      obtain ⟨blanks, value, rfl, -⟩ := hw
      have hend : front' ++ '=' :: (blanks ++ (value ++ ['/'])) =
          front' ++ '=' :: (blanks ++ value) ++ ['/'] := by simp
      rw [heq, hend, List.getLast?_concat]
    refine ⟨hcloses, ?_⟩
    cases body with
    | nil =>
      rw [List.append_nil] at heq
      exact absurd (heq ▸ by simp) hfront
    | cons d t => rwa [List.getLast?_append_cons] at hlast
  · rintro ⟨hcloses, hlast⟩
    obtain ⟨front', w, rfl, hw⟩ := h.exists_isBareSlash hcloses hlast
    exact ⟨front ++ front', w, by rw [List.append_assoc], hw⟩

end SafeMarkdown.Commonmark
