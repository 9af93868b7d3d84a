import SafeMarkdown.Proofs.Commonmark.StartTags
import SafeMarkdown.Proofs.Html.Refusal
import SafeMarkdown.Proofs.Html.Unclosed

/-!
# Tags that close themselves

A start tag in running text is taken for an empty element when its text ends in a slash and a
bracket. Reading the same tag decides by its attributes: a value without quotes takes in the slash
that follows it, and then the element stays open.

The two agree on every start tag except those that end in such a slash
(`isSelfClosing_iff_not_inside_iff`), if all blanks outside quotes are spaces of HTML. That is shown
along the grammar of start tags. Reading is tolerant and does not follow the grammar, but on a tag
that does it takes one way only (`scanAttrs_tagBody`), and ends at the bracket.

## What is read and what is refused

Reading a start tag may fail, at a number with too many digits in one of its values, and at nothing
else (`holdsLongNumber_of_parse`). So the theorem has two parts. A tag without such a number is
read, with the element after it; and wherever it is read, the two answers agree or not as said.
Scanning for attributes is followed on the grammar once, in `exists_scan_eq`, for tags that are read
and tags that are refused alike.

The hypothesis on blanks cannot be left out. A blank that is none of HTML ends the name of a tag for
the one reader and belongs to it for the other.
-/

namespace SafeMarkdown.Html

open Commonmark (Blanks IsAttrName IsValue IsAssignment TagBody SpacedAsHtml endsInBareSlash)
open Text (isBlank isHtmlSpace)

/-! ### Blanks and the end of a tag -/

/-- Blanks in front are skipped. -/
theorem skipTagSpace_append {blanks : List Char} (h : Blanks blanks) (s : List Char) :
    skipTagSpace (blanks ++ s) = skipTagSpace s := by
  induction blanks with
  | nil => rfl
  | cons b blanks ih =>
    obtain ⟨hb, h⟩ := List.forall_mem_cons.1 h
    rw [List.cons_append, skipTagSpace, hb, Bool.true_or, if_pos rfl, ih h]

/-- At a blank, something is skipped. -/
theorem length_skipTagSpace_lt {b : Char} (h : isBlank b = true) (s : List Char) :
    (skipTagSpace (b :: s)).length < (b :: s).length := by
  have hskip : skipTagSpace (b :: s) = skipTagSpace s :=
    skipTagSpace_append (List.forall_mem_singleton.2 h) s
  rw [hskip]
  exact Nat.lt_succ_of_le (skipTagSpace_suffix s).length_le

/-- What a start tag ends in: a bracket, with a slash before it if the tag closes itself. -/
def tagEnd (closes : Bool) (rest : List Char) : List Char :=
  if closes then '/' :: '>' :: rest else '>' :: rest

/-- At the end of a tag, nothing is. -/
theorem skipTagSpace_tagEnd (closes : Bool) (rest : List Char) :
    skipTagSpace (tagEnd closes rest) = tagEnd closes rest := by
  cases closes <;> rfl

/-- And no attribute begins there. -/
theorem scanAttrs_tagEnd (allowed closes : Bool) (rest : List Char) :
    scanAttrs allowed (tagEnd closes rest) = ([], tagEnd closes rest) := by
  cases closes with
  | false => exact scanAttrs_bracket allowed rest
  | true =>
    have hslash : isAttrStart '/' = false := by decide
    rw [tagEnd, if_pos rfl, scanAttrs, hslash, Bool.and_false, if_neg Bool.false_ne_true]

/-! ### Characters of names -/

/-- What is part of a name for the one reader is part of a name for the other. -/
theorem isAttrPart_of_isAttrNamePart {c : Char} (h : Commonmark.isAttrNamePart c = true) :
    isAttrPart c = true :=
  Text.forall_ascii (P := fun d ↦ Commonmark.isAttrNamePart d = true → isAttrPart d = true)
    (by decide) (Commonmark.lt_of_isAttrNamePart h) h

/-- The same of names of elements. -/
theorem isTagNameChar_of_isTagNamePart {c : Char} (h : Syntax.isTagNamePart c = true) :
    isTagNameChar c = true :=
  Text.forall_ascii (P := fun d ↦ Syntax.isTagNamePart d = true → isTagNameChar d = true)
    (by decide) (lt_of_isTagNamePart h) h

theorem isAttrStart_of_isAttrPart {c : Char} (h : isAttrPart c = true) : isAttrStart c = true :=
  (Bool.and_eq_true_iff.1 h).1

/-- A character that is blank ends the name of an attribute, and so do a slash, a bracket and an
equals sign. -/
theorem isAttrPart_eq_false {c : Char} (h : isBlank c = true ∨ c = '/' ∨ c = '>' ∨ c = '=') :
    isAttrPart c = false := by
  rcases h with h | rfl | rfl | rfl
  · rw [isAttrPart, isAttrStart, h]
    rfl
  all_goals decide

/-! ### Reading attributes -/

section Attributes

variable {closes : Bool} {body : List Char}

/-- What follows the name of a tag or an attribute, or a value, begins with a blank, a slash or a
bracket. -/
theorem head_tagBody (h : TagBody closes body) (rest : List Char) :
    ∀ c ∈ (body ++ '>' :: rest).head?, isBlank c = true ∨ c = '/' ∨ c = '>' := by
  intro c hc
  cases body with
  | nil => exact .inr (.inr (Option.some.inj hc).symm)
  | cons d body => exact (h.isBlank_or_eq_slash c hc).imp_right .inl

/-- No equals sign follows an attribute without a value. -/
theorem exists_dropWhile_tagBody (h : TagBody closes body) (rest : List Char) :
    ∃ c s, (body ++ '>' :: rest).dropWhile isBlank = c :: s ∧ c ≠ '=' := by
  have hdrop {blanks : List Char} (hblanks : Blanks blanks) {c : Char} (hc : isBlank c = false)
      (s : List Char) : (blanks ++ c :: s).dropWhile isBlank = c :: s :=
    (Text.takeWhile_append_eq hblanks (by rintro d ⟨⟩; exact hc)).2
  cases h with
  | close hblanks => exact ⟨'>', rest, hdrop hblanks rfl rest, by decide⟩
  | slash hblanks =>
    rw [List.append_assoc]
    exact ⟨'/', '>' :: rest, hdrop hblanks rfl _, by decide⟩
  | @attr _ b c blanks r assignment tail hblanks hname _ _ =>
    have hpart : isAttrPart c = true :=
      isAttrPart_of_isAttrNamePart (Commonmark.isAttrNamePart_of_isAttrNameStart hname.start)
    have hc : isBlank c = false := by
      rw [Bool.eq_false_iff]
      intro hblank
      rw [isAttrPart_eq_false (.inl hblank)] at hpart
      cases hpart
    refine ⟨c, r ++ (assignment ++ tail) ++ '>' :: rest, ?_, ?_⟩
    · rw [List.append_assoc]
      exact hdrop hblanks hc _
    · rintro rfl
      cases hpart

/-- After an equals sign, blanks are passed over and a value is read. -/
theorem exists_scan_eq_scanBody {before after s : List Char} (last c : Char)
    (hbefore : Blanks before) (hafter : Blanks after) (hc : isBlank c = false) (hsign : c ≠ '=') :
    ∃ missing spaced several, AttrValue.scan last (before ++ '=' :: (after ++ c :: s)) =
      AttrValue.scanBody missing spaced several (c :: s) := by
  have hdrop : (before ++ '=' :: (after ++ c :: s)).dropWhile isBlank = '=' :: (after ++ c :: s) :=
    (Text.takeWhile_append_eq hbefore (by rintro d ⟨⟩; rfl)).2
  have hsigns : (after ++ c :: s).dropWhile (· == '=') = after ++ c :: s := by
    cases after with
    | nil => exact List.dropWhile_cons_of_neg (by simpa using hsign)
    | cons b after =>
      refine List.dropWhile_cons_of_neg ?_
      rw [beq_iff_eq]
      rintro rfl
      cases hafter '=' List.mem_cons_self
  have hbody : (after ++ c :: s).dropWhile isBlank = c :: s :=
    (Text.takeWhile_append_eq hafter (by rintro d ⟨⟩; exact hc)).2
  unfold AttrValue.scan
  simp only [hdrop, BEq.rfl, if_true, hsigns, hbody]
  exact ⟨_, _, _, rfl⟩

/-- The value of an attribute is read up to where the tag goes on. -/
theorem rest_scan_assignment {tail assignment : List Char} (h : IsAssignment tail assignment)
    (htail : TagBody closes tail) (last : Char) (rest : List Char) :
    (AttrValue.scan last (assignment ++ (tail ++ '>' :: rest))).rest = tail ++ '>' :: rest := by
  cases h with
  | missing =>
    obtain ⟨c, s, hdrop, hc⟩ := exists_dropWhile_tagBody htail rest
    rw [List.nil_append]
    unfold AttrValue.scan
    simp only [hdrop, beq_eq_false_iff_ne.2 hc, Bool.false_eq_true, if_false]
  | @value before after value hbefore hafter hvalue =>
    cases hvalue with
    | @quoted q value hq hvalue =>
      have hshape : before ++ '=' :: (after ++ q :: (value ++ [q])) ++ (tail ++ '>' :: rest) =
          before ++ '=' :: (after ++ q :: (value ++ q :: (tail ++ '>' :: rest))) := by simp
      have hblank : isBlank q = false := by
        rw [Bool.eq_false_iff]
        intro hblank
        rw [Commonmark.isQuote_of_isBlank hblank] at hq
        cases hq
      have hsign : q ≠ '=' := by
        rintro rfl
        cases hq
      obtain ⟨missing, spaced, several, hscan⟩ :=
        exists_scan_eq_scanBody last q hbefore hafter hblank hsign
      rw [hshape, hscan, AttrValue.scanBody, if_pos hq, splitAtChar?_append hvalue]
    | @bare c value hvalue hbare =>
      have hshape : before ++ '=' :: (after ++ c :: value) ++ (tail ++ '>' :: rest) =
          before ++ '=' :: (after ++ c :: (value ++ (tail ++ '>' :: rest))) := by simp
      have hsign : c ≠ '=' := by
        rintro rfl
        cases (hvalue '=' List.mem_cons_self).1
      have hquote : ¬ isQuote c = true :=
        Bool.eq_false_iff.1
          (Commonmark.isQuote_of_isBareValueChar (hvalue c List.mem_cons_self).1)
      have hrun : ∀ d ∈ c :: value, isBareValueChar d = true := by
        intro d hd
        obtain ⟨hd, hblank⟩ := hvalue d hd
        have hbracket : d ≠ '>' := by
          rintro rfl
          cases hd
        rw [isBareValueChar, hblank, beq_eq_false_iff_ne.2 hbracket]
        rfl
      have hstop : ∀ d ∈ (tail ++ '>' :: rest).head?, isBareValueChar d = false := by
        intro d hd
        have hblank : isBlank d = true ∨ d = '>' := by
          cases tail with
          | nil => exact .inr (Option.some.inj hd).symm
          | cons b tail =>
            rcases htail.isBlank_or_eq_slash d hd with hblank | rfl
            · exact .inl hblank
            · exact .inl (hbare '/' hd (by decide))
        rcases hblank with hblank | rfl
        · rw [isBareValueChar, hblank, Bool.or_true]
          rfl
        · rfl
      obtain ⟨missing, spaced, several, hscan⟩ :=
        exists_scan_eq_scanBody last c hbefore hafter (hvalue c List.mem_cons_self).2 hsign
      rw [hshape, hscan, AttrValue.scanBody, if_neg hquote]
      exact (Text.takeWhile_append_eq hrun hstop).2

/-- An attribute of a tag is read up to where the tag goes on, and another one may follow where a
blank does. -/
theorem scan_assignment {c : Char} {r tail assignment : List Char} (hname : IsAttrName c r)
    (hassignment : IsAssignment tail assignment) (htail : TagBody closes tail) (rest : List Char) :
    (ScannedAttr.scan c (r ++ (assignment ++ (tail ++ '>' :: rest)))).rest =
        skipTagSpace (tail ++ '>' :: rest) ∧
      ∀ d ∈ tail.head?, isBlank d = true →
        (ScannedAttr.scan c (r ++ (assignment ++ (tail ++ '>' :: rest)))).next = true := by
  have hr : ∀ d ∈ r, isAttrPart d = true := fun d hd ↦
    isAttrPart_of_isAttrNamePart (hname.part d hd)
  have hstop : ∀ d ∈ (assignment ++ (tail ++ '>' :: rest)).head?, isAttrPart d = false := by
    intro d hd
    cases hassignment with
    | missing =>
      refine isAttrPart_eq_false ?_
      rcases head_tagBody htail rest d hd with h | h | h
      · exact .inl h
      · exact .inr (.inl h)
      · exact .inr (.inr (.inl h))
    | @value before after value hbefore _ _ =>
      cases before with
      | nil =>
        cases hd
        rfl
      | cons b before =>
        cases hd
        exact isAttrPart_eq_false (.inl (hbefore d List.mem_cons_self))
  obtain ⟨htake, hdrop⟩ := Text.takeWhile_append_eq hr hstop
  simp only [ScannedAttr.scan, htake, hdrop, rest_scan_assignment hassignment htail]
  refine ⟨trivial, fun d hd hblank ↦ ?_⟩
  obtain ⟨t, rfl⟩ := List.head?_eq_some_iff.1 hd
  rw [Bool.or_eq_true, decide_eq_true_eq]
  exact .inr (length_skipTagSpace_lt hblank _)

/-- **Reading follows the grammar.** What a start tag holds after its name is read as attributes,
up to the end of the tag, and that has a slash exactly when the grammar says so. -/
theorem scanAttrs_tagBody (h : TagBody closes body) (rest : List Char) :
    ∀ allowed, (∀ d ∈ body.head?, isBlank d = true → allowed = true) →
      ∃ attrs, scanAttrs allowed (skipTagSpace (body ++ '>' :: rest)) =
        (attrs, tagEnd closes rest) := by
  induction h with
  | close hblanks =>
    intro allowed _
    rw [skipTagSpace_append hblanks]
    show ∃ attrs, scanAttrs allowed (skipTagSpace (tagEnd false rest)) = (attrs, tagEnd false rest)
    rw [skipTagSpace_tagEnd]
    exact ⟨[], scanAttrs_tagEnd allowed false rest⟩
  | slash hblanks =>
    intro allowed _
    rw [List.append_assoc, skipTagSpace_append hblanks]
    show ∃ attrs, scanAttrs allowed (skipTagSpace (tagEnd true rest)) = (attrs, tagEnd true rest)
    rw [skipTagSpace_tagEnd]
    exact ⟨[], scanAttrs_tagEnd allowed true rest⟩
  | @attr closes b c blanks r assignment tail hblanks hname hassignment htail ih =>
    intro allowed hallowed
    have hstart : isAttrStart c = true := isAttrStart_of_isAttrPart
      (isAttrPart_of_isAttrNamePart (Commonmark.isAttrNamePart_of_isAttrNameStart hname.start))
    have hshape : b :: blanks ++ (c :: r ++ (assignment ++ tail)) ++ '>' :: rest =
        b :: blanks ++ c :: (r ++ (assignment ++ (tail ++ '>' :: rest))) := by simp
    obtain ⟨hrest, hnext⟩ := scan_assignment hname hassignment htail rest
    obtain ⟨attrs, hattrs⟩ := ih _ hnext
    have hblank := hallowed b rfl (hblanks b List.mem_cons_self)
    rw [hshape, skipTagSpace_append hblanks, skipTagSpace_of_isAttrStart hstart, scanAttrs, hblank,
      hstart, Bool.and_self, if_pos rfl]
    simp only [hrest, hattrs]
    exact ⟨_, rfl⟩

end Attributes

/-! ### Reading start tags -/

/-- The name of a start tag and the text after it up to the closing bracket, where the tag keeps to
the grammar. -/
structure IsStartTag (c : Char) (r : List Char) (closes : Bool) (body : List Char) : Prop where
  letter : c.isAlpha = true
  part : ∀ d ∈ r, Syntax.isTagNamePart d = true
  tagBody : TagBody closes body
  space : ∀ d ∈ body.head?, isBlank d = true → isHtmlSpace d = true

namespace IsStartTag

variable {closes : Bool} {c : Char} {r body : List Char}

/-- The name of a start tag consists of parts of names. -/
theorem part_of_mem (h : IsStartTag c r closes body) :
    ∀ d ∈ c :: r, Syntax.isTagNamePart d = true :=
  List.forall_mem_cons.2 ⟨isTagNamePart_of_isAlpha h.letter, h.part⟩

/-- Neither the bracket that opens a tag nor its name holds a character that ends names. -/
theorem not_mem_front (h : IsStartTag c r closes body) {d : Char} (hne : d ≠ '<')
    (hd : Syntax.isTagNamePart d = false) : d ∉ '<' :: c :: r := by
  rw [List.mem_cons, not_or]
  exact ⟨hne, Text.not_mem_of_forall hd h.part_of_mem⟩

/-- **A whole start tag keeps to the grammar.** -/
theorem of_startTag? {s : List Char} {tag : String} (hspaced : SpacedAsHtml ('<' :: s))
    (hwhole : Commonmark.startTag? s = some [])
    (htag : Syntax.startTagName? ('<' :: s) = some tag) :
    ∃ c r closes body, IsStartTag c r closes body ∧ s = c :: r ++ (body ++ ['>']) ∧
      tag = .ofList (Text.asciiLower (c :: r)) := by
  cases s with
  | nil => cases hwhole
  | cons c t =>
    have hsplit : t.takeWhile Syntax.isTagNamePart ++ t.dropWhile Syntax.isTagNamePart = t :=
      List.takeWhile_append_dropWhile
    have hpart : ∀ d ∈ t.takeWhile Syntax.isTagNamePart, Syntax.isTagNamePart d = true :=
      fun _ hd ↦ List.mem_takeWhile_imp hd
    rw [Syntax.startTagName?, Syntax.tagName?] at htag
    split at htag
    · rename_i hletter
      obtain rfl := Option.some.inj htag
      have hread : Commonmark.startTagTail? ((c :: t).length + 1)
          (t.dropWhile Syntax.isTagNamePart) = some [] := by
        rw [Commonmark.startTag?, Commonmark.afterTagName?, if_pos hletter] at hwhole
        exact hwhole
      generalize t.takeWhile Syntax.isTagNamePart = r at hsplit hpart
      generalize t.dropWhile Syntax.isTagNamePart = tail at hsplit hread
      subst hsplit
      have hname : ∀ d ∈ c :: r, Syntax.isTagNamePart d = true :=
        List.forall_mem_cons.2 ⟨isTagNamePart_of_isAlpha hletter, hpart⟩
      have hquote : ∀ d ∈ '<' :: c :: r, isQuote d = false :=
        List.forall_mem_cons.2 ⟨rfl, fun d hd ↦
          Commonmark.isQuote_eq_false (by decide) (hname d hd)⟩
      have htail : SpacedAsHtml tail := hspaced.of_append (s := '<' :: c :: r) hquote
      obtain ⟨closes, body, hbody, rfl⟩ := Commonmark.exists_tagBody htail hread
      refine ⟨c, r, closes, body, ⟨hletter, hpart, hbody, fun d hd hblank ↦ ?_⟩, rfl, rfl⟩
      obtain ⟨body, rfl⟩ := List.head?_eq_some_iff.1 hd
      exact htail.isHtmlSpace_of_mem (s := [d])
        (List.forall_mem_singleton.2 (Commonmark.isQuote_of_isBlank hblank)) d
        (List.mem_singleton_self d) hblank
    · cases htag

/-- Reading a start tag gives its name and goes on after its closing bracket, unless one of its
values is refused. -/
theorem exists_scan_eq (h : IsStartTag c r closes body) (rest : List Char) :
    ∃ attrs long, StartTag.scan (c :: r ++ (body ++ '>' :: rest)) =
      (StartTag.complete (.ofList (Text.asciiLower (c :: r))) attrs closes rest).orRefused
        long := by
  have hname : ∀ d ∈ c :: r, isTagNameChar d = true :=
    fun d hd ↦ isTagNameChar_of_isTagNamePart (h.part_of_mem d hd)
  have hlower : Text.lower (c :: r) = Text.asciiLower (c :: r) :=
    Text.lower_eq_asciiLower fun d hd ↦ lt_of_isTagNamePart (h.part_of_mem d hd)
  have hstop : ∀ d ∈ (body ++ '>' :: rest).head?, isTagNameChar d = false := by
    intro d hd
    cases body with
    | nil =>
      cases hd
      rfl
    | cons b body =>
      rcases h.tagBody.isBlank_or_eq_slash d hd with hblank | rfl
      · rw [isTagNameChar, h.space d hd hblank]
        rfl
      · rfl
  obtain ⟨htake, hdrop⟩ := Text.takeWhile_append_eq hname hstop
  have hallowed : ∀ d ∈ body.head?, isBlank d = true →
      (skipTagSpace (body ++ '>' :: rest)).length < (body ++ '>' :: rest).length := by
    intro d hd hblank
    obtain ⟨t, rfl⟩ := List.head?_eq_some_iff.1 hd
    exact length_skipTagSpace_lt hblank _
  obtain ⟨attrs, hattrs⟩ := scanAttrs_tagBody h.tagBody rest
    (decide ((skipTagSpace (body ++ '>' :: rest)).length < (body ++ '>' :: rest).length) ||
      ((c :: r).getLast?.map allowsAttrAfter).getD false)
    fun d hd hblank ↦ by rw [decide_eq_true (hallowed d hd hblank), Bool.true_or]
  simp only [StartTag.scan, htake, hdrop, hattrs, hlower]
  cases closes with
  | false => exact ⟨_, _, rfl⟩
  | true => exact ⟨_, _, rfl⟩

/-- In a text, a start tag is read as one, unless the text is refused for a number in the tag. -/
theorem exists_readsTo (h : IsStartTag c r closes body)
    (hraw : .ofList (Text.asciiLower (c :: r)) ∉ rawTextTags) (rest : List Char) :
    (∃ digits, tokens ('<' :: (c :: r ++ (body ++ '>' :: rest))) = .error (.longNumber digits)) ∨
      ∃ attrs, ReadsTo ('<' :: (c :: r ++ (body ++ '>' :: rest)))
        [.startTag (.ofList (Text.asciiLower (c :: r))) attrs closes] rest := by
  obtain ⟨attrs, long, hscan⟩ := h.exists_scan_eq rest
  have hnext : Step.next false '<' (c :: r ++ (body ++ '>' :: rest)) =
      Step.startTag false (c :: r ++ (body ++ '>' :: rest)) :=
    if_pos h.letter
  cases long with
  | some digits =>
    refine .inl ⟨digits, tokensFrom_of_next_eq_error ?_⟩
    rw [hnext, Step.startTag, hscan]
    rfl
  | none =>
    refine .inr ⟨attrs, readsTo_of_next ?_⟩
    rw [hnext, Step.startTag, hscan]
    simp [StartTag.orRefused, Step.wholeTag, hraw]

/-- An element that is read after a start tag stands inside the one that the tag opens, unless a
slash closes that at once. -/
theorem exists_parse (h : IsStartTag c r closes body) {source tag : String}
    (hsource : source.toList = '<' :: (c :: r ++ (body ++ ['>'])))
    (htag : tag = .ofList (Text.asciiLower (c :: r))) (hvoid : tag ∉ voidTags)
    (hraw : tag ∉ rawTextTags) :
    (∃ digits, parse (source ++ "<x-probe></x-probe>") = .error (.longNumber digits)) ∨
      ∃ nodes, parse (source ++ "<x-probe></x-probe>") = .ok nodes ∧
        (LastStandsInside "x-probe" tag nodes ↔ closes = false) := by
  have hplain : IsPlainName "x-probe" := by decide
  have hprobe : "<x-probe></x-probe>".toList =
      Markup.startTag "x-probe" [] ++ (Markup.endTag "x-probe" ++ []) := by decide
  have hshape : (source ++ "<x-probe></x-probe>").toList =
      '<' :: (c :: r ++ (body ++ '>' :: "<x-probe></x-probe>".toList)) := by
    rw [String.toList_append, hsource]
    simp
  rw [htag] at hraw
  rcases h.exists_readsTo hraw "<x-probe></x-probe>".toList with ⟨digits, hlong⟩ | ⟨attrs, hreads⟩
  · refine .inl ⟨digits, ?_⟩
    rw [parse, hshape, hlong]
    rfl
  have hopen : ReadsTo "<x-probe></x-probe>".toList
      [.startTag "x-probe" [] false, .endTag "x-probe"] [] := by
    rw [hprobe]
    exact (readsTo_startTag hplain (by decide) (List.forall_mem_nil _) List.nodup_nil _).trans
      (readsTo_endTag hplain [])
  have htokens := (hreads.trans hopen).tokens_eq
  rw [← hshape, ← htag] at htokens
  refine .inr ⟨_, parse_of_tokens htokens, ?_⟩
  rw [lastStandsInside_iff]
  show tag ∈ openAfter [] (.startTag tag attrs closes) ↔ closes = false
  cases closes with
  | false => simp [openAfter, hvoid]
  | true => simp [openAfter]

end IsStartTag

/-! ### The two verdicts -/

/-- A whole tag that is refused holds a number that is too long: what comes after the tag is no part
of the number. -/
theorem holdsLongNumber_of_parse {source after : String} {front : List Char} {digits : Nat}
    (hsource : source.toList = front ++ ['>']) (hafter : '#' ∉ after.toList)
    (h : parse (source ++ after) = .error (.longNumber digits)) :
    HoldsLongNumber source.toList := by
  have hfound : HoldsLongNumber (front ++ '>' :: after.toList) := by
    have hshape : (source ++ after).toList = front ++ '>' :: after.toList := by
      rw [String.toList_append, hsource]
      simp
    exact hshape ▸ ⟨digits, foundIn_of_parse h⟩
  refine ((hfound.of_append_cons (by decide)).resolve_right fun h ↦ hafter h.sharp_mem).mono ?_
  rw [hsource]
  exact (List.prefix_append _ _).isInfix

/-- A character that is not in the front of a text is its last one when it is that of the rest. -/
theorem getLast?_append_eq_some_iff {c : Char} {front s : List Char} (hfront : c ∉ front) :
    (front ++ s).getLast? = some c ↔ s.getLast? = some c := by
  cases s with
  | nil =>
    rw [List.append_nil]
    exact iff_of_false (fun h ↦ hfront (List.mem_of_getLast? h)) (by simp)
  | cons d s => rw [List.getLast?_append_cons]

/-- Of a tag that is not void, the text is judged: by the slash before its closing bracket. -/
theorem isSelfClosing_iff {s : List Char} {tag : String} (hvoid : tag ∉ Markup.voidTags) :
    Syntax.isSelfClosing (s ++ ['>']) tag = true ↔ s.getLast? = some '/' := by
  have htrim : Text.trimRight (s ++ ['>']) = s ++ ['>'] := by
    have hbracket : ¬ isBlank '>' = true := by decide
    rw [Text.trimRight, Text.dropTailWhile, List.reverse_append, List.reverse_singleton,
      List.singleton_append, List.dropWhile_cons_of_neg hbracket]
    simp
  rw [Syntax.isSelfClosing, htrim, decide_eq_false hvoid, Bool.or_false, List.isSuffixOf_iff_suffix,
    List.getLast?_eq_some_iff]
  constructor
  · rintro ⟨t, ht⟩
    have ht' : t ++ ['/'] ++ ['>'] = s ++ ['>'] := by
      rw [← ht]
      simp
    exact ⟨t, (List.append_cancel_right ht').symm⟩
  · rintro ⟨t, rfl⟩
    exact ⟨t, by simp⟩

/-- **When the text of a start tag agrees with reading it.** Let a text be one whole start tag of
an element that is neither void nor raw text, in which all blanks outside quotes are spaces of HTML.
It is read, together with an element right after it, unless it holds a number that is too long. That
the tag is taken for one that closes itself agrees with the element after it not standing inside one
of its name exactly when the tag does not end in a slash that belongs to a value without quotes. -/
theorem isSelfClosing_iff_not_inside_iff {source tag : String} {s : List Char}
    (hsource : source.toList = '<' :: s) (hwhole : Commonmark.startTag? s = some [])
    (htag : Syntax.startTagName? source.toList = some tag) (hvoid : tag ∉ voidTags)
    (hraw : tag ∉ rawTextTags) (hspaced : SpacedAsHtml source.toList) :
    (¬ HoldsLongNumber source.toList → Readable (source ++ "<x-probe></x-probe>")) ∧
      ∀ nodes, parse (source ++ "<x-probe></x-probe>") = .ok nodes →
        ((Syntax.isSelfClosing source.toList tag = true ↔
            ¬ LastStandsInside "x-probe" tag nodes) ↔
          endsInBareSlash source.toList = false) := by
  rw [hsource] at htag hspaced
  obtain ⟨c, r, closes, body, hstart, rfl, hname⟩ := IsStartTag.of_startTag? hspaced hwhole htag
  have hshape : source.toList = '<' :: c :: r ++ body ++ ['>'] := by
    rw [hsource]
    simp
  rcases hstart.exists_parse hsource hname hvoid hraw with ⟨digits, herror⟩ | ⟨tree, htree, hinside⟩
  · refine ⟨fun hnumber ↦ absurd ?_ hnumber, fun nodes hnodes ↦ ?_⟩
    · exact holdsLongNumber_of_parse hshape (by decide) herror
    · rw [herror] at hnodes
      cases hnodes
  refine ⟨fun _ ↦ ⟨tree, htree⟩, fun nodes hnodes ↦ ?_⟩
  obtain rfl : tree = nodes := Except.ok.inj (htree.symm.trans hnodes)
  have hvoid' : tag ∉ Markup.voidTags := fun h ↦ hvoid (voidTags_subset h)
  have hslash := getLast?_append_eq_some_iff (s := body)
    (hstart.not_mem_front (d := '/') (by decide) (by decide))
  have hbare := hstart.tagBody.endsInBareSlash_iff
    (hstart.not_mem_front (d := '=') (by decide) (by decide))
  rw [hshape, ← Bool.not_eq_true (endsInBareSlash _), hbare, isSelfClosing_iff hvoid', hslash,
    hinside]
  -- a slash that closes the element is the last character of the tag before its bracket
  cases closes with
  | false => simp
  | true => simp [hstart.tagBody.getLast?_eq_slash]

/-- A tag that closes itself after a value that ends in a slash and one that holds a bracket. -/
theorem isSelfClosing_spacedSlash :
    "<b title='/>' class=x/ />".toList = '<' :: "b title='/>' class=x/ />".toList ∧
      Commonmark.startTag? "b title='/>' class=x/ />".toList = some [] ∧
      Syntax.startTagName? "<b title='/>' class=x/ />".toList = some "b" ∧
      "b" ∉ voidTags ∧ "b" ∉ rawTextTags ∧
      SpacedAsHtml "<b title='/>' class=x/ />".toList ∧
      Syntax.isSelfClosing "<b title='/>' class=x/ />".toList "b" = true ∧
      ∃ nodes, parse ("<b title='/>' class=x/ />" ++ "<x-probe></x-probe>") = .ok nodes ∧
        ¬ LastStandsInside "x-probe" "b" nodes := by
  have hwhole : Commonmark.startTag? "b title='/>' class=x/ />".toList = some [] := by decide
  have htag : Syntax.startTagName? "<b title='/>' class=x/ />".toList = some "b" := by decide
  have hspaced : SpacedAsHtml "<b title='/>' class=x/ />".toList := by decide
  have hcloses : Syntax.isSelfClosing "<b title='/>' class=x/ />".toList "b" = true := by decide
  have hnumber : ¬ HoldsLongNumber "<b title='/>' class=x/ />".toList := fun h ↦
    absurd h.sharp_mem (by decide)
  obtain ⟨hread, hagree⟩ :=
    isSelfClosing_iff_not_inside_iff rfl hwhole htag (by decide) (by decide) hspaced
  obtain ⟨nodes, hnodes⟩ := hread hnumber
  exact ⟨rfl, hwhole, htag, by decide, by decide, hspaced, hcloses, nodes, hnodes,
    ((hagree nodes hnodes).2 (by decide)).1 hcloses⟩

/-- **A value takes in the slash that ends the tag.** The element stays open, and the text of the
tag says that it is closed. -/
theorem isSelfClosing_ne_bareSlash :
    Commonmark.startTag? "b class=x/>".toList = some [] ∧
      Syntax.startTagName? "<b class=x/>".toList = some "b" ∧
      "b" ∉ voidTags ∧ "b" ∉ rawTextTags ∧
      Syntax.isSelfClosing "<b class=x/>".toList "b" = true ∧
      ∃ nodes, parse ("<b class=x/>" ++ "<x-probe></x-probe>") = .ok nodes ∧
        LastStandsInside "x-probe" "b" nodes := by
  have hparse : parse ("<b class=x/>" ++ "<x-probe></x-probe>") =
      .ok [.element "b" [("class", "x/")] [.element "x-probe" [] []]] := by
    with_unfolding_all rfl
  exact ⟨by decide, by decide, by decide, by decide, by decide, _, hparse, ["b"], rfl, by decide⟩

end SafeMarkdown.Html
