import SafeMarkdown.Html.Tree
import SafeMarkdown.Proofs.KeyedList
import SafeMarkdown.Proofs.Markup.Tags
import SafeMarkdown.Proofs.Text.Case
import SafeMarkdown.Proofs.Text.Split

/-!
# Reading tags and texts that were written

The reader of HTML is tolerant and has many ways to go on. On what the serialiser writes it takes
one way only: an escaped text is read as texts that make up the original, a start tag as that start
tag with its attributes, an end tag as that end tag, and reading goes on after each. `ReadsTo` is
the relation between a text, the tokens read at its head, and the text that is left; it composes.

Names are the point where writing and reading differ, since they are written as they are and read
in lower case up to a separator. For plain names, of lower-case letters, digits and hyphens, the
two agree.

Values and texts are the point where escaping is undone. An escaped character is read back whatever
comes after it (`unescape_escapeChar`), because what is written for it ends in a semicolon, so a
value can be gone through character by character. A text is cut at its escapes by the reader, and
what comes out is a list of texts (`readsTo_run`) that the builder of the tree joins again.
-/

namespace SafeMarkdown.Html

open Markup (escape escapeChar attrChars)

/-! ### Plain names -/

/-- A character of a plain name: a lower-case letter, a digit or a hyphen. -/
def isPlainChar (c : Char) : Bool :=
  c.isLower || c.isDigit || c == '-'

/-- The name is a lower-case letter followed by plain characters. -/
def IsPlainName (name : String) : Prop :=
  ∃ c r, name.toList = c :: r ∧ c.isLower = true ∧ ∀ d ∈ r, isPlainChar d = true

instance (name : String) : Decidable (IsPlainName name) :=
  match h : name.toList with
  | [] => isFalse fun ⟨_, _, hname, _⟩ ↦ by cases h.symm.trans hname
  | c :: r => decidable_of_iff (c.isLower = true ∧ r.all isPlainChar = true)
    ⟨fun ⟨hc, hr⟩ ↦ ⟨c, r, h, hc, List.all_eq_true.1 hr⟩,
      fun ⟨_, _, hname, hc, hr⟩ ↦ by cases h.symm.trans hname; exact ⟨hc, List.all_eq_true.2 hr⟩⟩

/-- Lower-case letters are plain. -/
theorem isPlainChar_of_isLower {c : Char} (h : c.isLower = true) : isPlainChar c = true := by
  rw [isPlainChar, h, Bool.true_or, Bool.true_or]

/-- Lower-case letters are letters. -/
theorem isAlpha_of_isLower {c : Char} (h : c.isLower = true) : c.isAlpha = true := by
  show (c.isUpper || c.isLower) = true
  rw [h, Bool.or_true]

/-- Plain characters are ASCII. -/
theorem lt_of_isPlainChar {c : Char} (h : isPlainChar c = true) : c.toNat < 128 := by
  rw [isPlainChar, Bool.or_eq_true, Bool.or_eq_true, beq_iff_eq] at h
  rcases h with (h | h) | rfl
  · have hle : c.toNat ≤ 122 := of_decide_eq_true (Bool.and_eq_true_iff.1 h).2
    omega
  · have hle : c.toNat ≤ 57 := of_decide_eq_true (Bool.and_eq_true_iff.1 h).2
    omega
  · decide

/-- What the readers of names make of a plain character. -/
structure ReadsPlain (c : Char) : Prop where
  tagName : isTagNameChar c = true
  attrStart : isAttrStart c = true
  attr : isAttrPart c = true
  endTag : isPlainNameChar c = true
  lower : c.toLower = c
  notBlank : Text.isBlank c = false
  notBracket : c ≠ '>'

instance (c : Char) : Decidable (ReadsPlain c) :=
  decidable_of_iff (isTagNameChar c = true ∧ isAttrStart c = true ∧ isAttrPart c = true ∧
      isPlainNameChar c = true ∧ c.toLower = c ∧ Text.isBlank c = false ∧ c ≠ '>')
    ⟨fun ⟨h₁, h₂, h₃, h₄, h₅, h₆, h₇⟩ ↦ ⟨h₁, h₂, h₃, h₄, h₅, h₆, h₇⟩,
      fun ⟨h₁, h₂, h₃, h₄, h₅, h₆, h₇⟩ ↦ ⟨h₁, h₂, h₃, h₄, h₅, h₆, h₇⟩⟩

/-- What ends a name is not plain, and lower case leaves plain characters alone. -/
theorem readsPlain_of_isPlainChar {c : Char} (h : isPlainChar c = true) : ReadsPlain c :=
  Text.forall_ascii (P := fun d ↦ isPlainChar d = true → ReadsPlain d) (by decide)
    (lt_of_isPlainChar h) h

namespace IsPlainName

variable {name : String}

/-- All characters of a plain name are plain, its first too. -/
theorem isPlainChar_of_mem (h : IsPlainName name) : ∀ c ∈ name.toList, isPlainChar c = true := by
  obtain ⟨c, r, hname, hc, hr⟩ := h
  rw [hname]
  exact List.forall_mem_cons.2 ⟨isPlainChar_of_isLower hc, hr⟩

/-- So the reader takes each of them as it is. -/
theorem readsPlain_of_mem (h : IsPlainName name) {c : Char} (hc : c ∈ name.toList) :
    ReadsPlain c :=
  readsPlain_of_isPlainChar (h.isPlainChar_of_mem c hc)

/-- A plain name is in lower case. -/
theorem lower_eq (h : IsPlainName name) : Text.lower name.toList = name.toList :=
  Text.lower_eq_self fun c hc ↦
    ⟨lt_of_isPlainChar (h.isPlainChar_of_mem c hc), (h.readsPlain_of_mem hc).lower⟩

/-- Also as far as ASCII is concerned. -/
theorem asciiLower_eq (h : IsPlainName name) : Text.asciiLower name.toList = name.toList := by
  have hsame : ∀ c ∈ name.toList, c.toLower = c := fun c hc ↦ (h.readsPlain_of_mem hc).lower
  exact (List.map_congr_left hsame).trans (List.map_id _)

end IsPlainName

/-! ### Escaped values -/

/-- A character that is no ampersand is itself. -/
theorem unescape_cons {c : Char} (h : c ≠ '&') (s : List Char) :
    unescape (c :: s) = c :: unescape s := by
  rw [unescape]
  · rintro r rfl
    exact absurd rfl h
  · rintro rfl
    exact absurd rfl h

/-- **An escaped character is read back**, whatever comes after it. -/
theorem unescape_escapeChar (c : Char) (s : List Char) :
    unescape (escapeChar c ++ s) = c :: unescape s := by
  unfold escapeChar
  split
  case h_6 hamp _ _ _ _ => exact unescape_cons hamp s
  case h_4 | h_5 =>
    rw [List.cons_append, List.cons_append, unescape]
    rfl
  all_goals
    rw [List.cons_append, List.cons_append, unescape]
    · rfl
    · simp

/-- Escaping is undone by decoding. -/
theorem unescape_escape (s : List Char) : unescape (escape s) = s := by
  induction s with
  | nil => rw [escape, List.flatMap_nil, unescape]
  | cons c s ih => rw [escape, List.flatMap_cons, unescape_escapeChar, ← escape, ih]

/-- And it holds no number. -/
theorem longReference?_escapeChar (c : Char) (s : List Char) :
    longReference? (escapeChar c ++ s) = longReference? s := by
  unfold escapeChar
  split
  case h_6 hamp _ _ _ _ =>
    rw [List.singleton_append, longReference?, if_neg (by simpa using hamp), Option.none_or]
  all_goals rfl

/-- No reference that escaping writes is too long to be read. -/
theorem longReference?_escape (s : List Char) : longReference? (escape s) = none := by
  induction s with
  | nil => rfl
  | cons c s ih => rw [escape, List.flatMap_cons, longReference?_escapeChar, ← escape, ih]

/-- A text is split at the first place where the character stands. -/
theorem splitAtChar?_append {q : Char} {s : List Char} (hs : q ∉ s) (t : List Char) :
    splitAtChar? q (s ++ q :: t) = some (s, t) := by
  induction s with
  | nil => rw [List.nil_append, splitAtChar?, if_pos BEq.rfl]
  | cons c s ih =>
    rw [List.mem_cons, not_or] at hs
    have hc : ¬ (c == q) = true := fun h ↦ hs.1 (eq_of_beq h).symm
    rw [List.cons_append, splitAtChar?, if_neg hc, ih hs.2]
    rfl

/-! ### Start tags -/

/-- A quoted value is read up to its closing quote. -/
theorem scan_quotedValue (last : Char) {value : List Char} (hvalue : '"' ∉ value) (t : List Char) :
    AttrValue.scan last ('=' :: '"' :: (value ++ '"' :: t)) = ⟨some value, true, t⟩ := by
  have hequals : Text.isBlank '=' = false := by decide
  have hquote : Text.isBlank '"' = false := by decide
  simp [AttrValue.scan, AttrValue.scanBody, hequals, hquote, isQuote, splitAtChar?_append hvalue]

/-- An attribute is read with its name and with its value as it is written. -/
theorem scan_attr {a : Attr} (ha : IsPlainName a.1) {c : Char} {r : List Char}
    (hname : a.1.toList = c :: r) (t : List Char) :
    ScannedAttr.scan c (r ++ '=' :: '"' :: (escape a.2.toList ++ '"' :: t)) =
      ⟨(a.1, escape a.2.toList), true, skipTagSpace t⟩ := by
  have hr : ∀ d ∈ r, isAttrPart d = true := fun d hd ↦
    (ha.readsPlain_of_mem (hname ▸ List.mem_cons_of_mem c hd)).attr
  have hvalue : '"' ∉ escape a.2.toList := fun h ↦ (Markup.ne_of_mem_escape h).2.2 rfl
  obtain ⟨htake, hdrop⟩ := Text.takeWhile_append_eq hr
    (t := '=' :: '"' :: (escape a.2.toList ++ '"' :: t)) (by simp [isAttrPart])
  have hlower : String.ofList (Text.lower (c :: r)) = a.1 := by
    rw [← hname, ha.lower_eq, String.ofList_toList]
  simp only [ScannedAttr.scan, htake, hdrop, scan_quotedValue _ hvalue, hlower, Option.getD_some,
    Bool.true_or]

/-- An attribute begins where there is no space to skip. -/
theorem skipTagSpace_of_isAttrStart {c : Char} (h : isAttrStart c = true) (s : List Char) :
    skipTagSpace (c :: s) = c :: s := by
  simp only [isAttrStart, Bool.not_eq_true', Bool.or_eq_false_iff] at h
  rw [skipTagSpace, h.1.1, h.1.2, Bool.false_and, Bool.or_false, if_neg Bool.false_ne_true]

/-- Of the attributes of a written tag, the space at the front is skipped. -/
theorem skipTagSpace_attrs {a : Attr} (ha : IsPlainName a.1) (attrs : List Attr) (t : List Char) :
    skipTagSpace ((a :: attrs).flatMap attrChars ++ t) =
      a.1.toList ++ '=' :: '"' :: (escape a.2.toList ++ '"' :: (attrs.flatMap attrChars ++ t)) := by
  have hshape : (a :: attrs).flatMap attrChars ++ t = ' ' :: (a.1.toList ++
      '=' :: '"' :: (escape a.2.toList ++ '"' :: (attrs.flatMap attrChars ++ t))) := by
    simp [attrChars]
  have hspace (s : List Char) : skipTagSpace (' ' :: s) = skipTagSpace s := rfl
  obtain ⟨c, r, hname, hc, -⟩ := ha
  have hstart : isAttrStart c = true :=
    (readsPlain_of_isPlainChar (isPlainChar_of_isLower hc)).attrStart
  rw [hshape, hspace, hname, List.cons_append, skipTagSpace_of_isAttrStart hstart]

/-- The bracket that closes a tag ends its attributes. -/
theorem scanAttrs_bracket (allowed : Bool) (rest : List Char) :
    scanAttrs allowed ('>' :: rest) = ([], '>' :: rest) := by
  have hbracket : isAttrStart '>' = false := by decide
  rw [scanAttrs, hbracket, Bool.and_false, if_neg Bool.false_ne_true]

/-- An attribute with its value as it is written. -/
def writtenAttr (a : Attr) : String × List Char :=
  (a.1, escape a.2.toList)

/-- The attributes of a written tag are read as they are written, up to the closing bracket. -/
theorem scanAttrs_written {attrs : List Attr} (hattrs : ∀ a ∈ attrs, IsPlainName a.1)
    (rest : List Char) :
    scanAttrs true (skipTagSpace (attrs.flatMap attrChars ++ '>' :: rest)) =
      (attrs.map writtenAttr, '>' :: rest) := by
  induction attrs with
  | nil => exact scanAttrs_bracket true rest
  | cons a attrs ih =>
    obtain ⟨ha, hattrs⟩ := List.forall_mem_cons.1 hattrs
    obtain ⟨c, r, hname, hc, -⟩ := id ha
    have hstart : (true && isAttrStart c) = true :=
      (readsPlain_of_isPlainChar (isPlainChar_of_isLower hc)).attrStart
    rw [skipTagSpace_attrs ha, hname, List.cons_append, scanAttrs, if_pos hstart,
      scan_attr ha hname]
    dsimp only
    rw [ih hattrs, List.map_cons, writtenAttr]

/-- Decoding the values gives the attributes back. -/
theorem map_unescape_writtenAttr (attrs : List Attr) :
    ((attrs.map writtenAttr).map fun a ↦ (a.1, String.ofList (unescape a.2))) = attrs := by
  rw [List.map_map]
  refine (List.map_congr_left fun a _ ↦ ?_).trans (List.map_id attrs)
  show (a.1, String.ofList (unescape (escape a.2.toList))) = a
  rw [unescape_escape, String.ofList_toList]

/-- No value is refused for a number in it. -/
theorem findSome?_longReference?_writtenAttr (attrs : List Attr) :
    ((attrs.map writtenAttr).findSome? fun a ↦ longReference? a.2) = none := by
  rw [List.findSome?_map, List.findSome?_eq_none_iff]
  exact fun a _ ↦ longReference?_escape a.2.toList

/-- A start tag is read as it was before it was written. -/
theorem scan_startTag {tag : String} {attrs : List Attr} (htag : IsPlainName tag)
    (hattrs : ∀ a ∈ attrs, IsPlainName a.1) (hnodup : (attrs.map Prod.fst).Nodup)
    (rest : List Char) :
    StartTag.scan (tag.toList ++ (attrs.flatMap attrChars ++ '>' :: rest)) =
      .complete tag attrs false rest := by
  have hname : ∀ c ∈ tag.toList, isTagNameChar c = true := fun c hc ↦
    (htag.readsPlain_of_mem hc).tagName
  have hend : ∀ c ∈ (attrs.flatMap attrChars ++ '>' :: rest).head?, isTagNameChar c = false := by
    cases attrs with
    | nil => simp [isTagNameChar]
    | cons a attrs => simp [attrChars, isTagNameChar, Text.isHtmlSpace]
  obtain ⟨htake, hdrop⟩ := Text.takeWhile_append_eq hname hend
  have hmerge : (attrs.map writtenAttr).map Prod.fst = attrs.map Prod.fst := by
    rw [List.map_map]
    rfl
  -- without attributes no space is skipped, so none is allowed, and none is there
  have hscan : ∀ allowed, (attrs ≠ [] → allowed = true) →
      scanAttrs allowed (skipTagSpace (attrs.flatMap attrChars ++ '>' :: rest)) =
        (attrs.map writtenAttr, '>' :: rest) := by
    intro allowed hallowed
    by_cases hnil : attrs = []
    · rw [hnil]
      exact scanAttrs_bracket allowed rest
    · rw [hallowed hnil]
      exact scanAttrs_written hattrs rest
  simp only [StartTag.scan, htake, hdrop]
  rw [hscan]
  · simp only [mergePairs_of_nodup (hmerge ▸ hnodup), map_unescape_writtenAttr, htag.lower_eq,
      String.ofList_toList, findSome?_longReference?_writtenAttr]
    rfl
  · intro hne
    obtain ⟨a, others, rfl⟩ := List.exists_cons_of_ne_nil hne
    have hskip (s : List Char) : (skipTagSpace (' ' :: s)).length < (' ' :: s).length :=
      Nat.lt_succ_of_le (skipTagSpace_suffix s).length_le
    rw [Bool.or_eq_true, decide_eq_true_eq]
    exact .inl (hskip _)

/-! ### Reading step by step -/

/-- Reading the text in the first phase gives these tokens and goes on with the rest. -/
def ReadsTo (s : List Char) (ts : List Token) (rest : List Char) : Prop :=
  tokensFrom false s = (tokensFrom false rest).map (ts ++ ·)

/-- Putting tokens in front twice puts both in front at once. -/
theorem map_append_tokens (ts ts' : List Token) (x : Except Rejection (List Token)) :
    (x.map (ts' ++ ·)).map (ts ++ ·) = x.map (ts ++ ts' ++ ·) := by
  cases x with
  | error e => rfl
  | ok us => exact congrArg Except.ok (List.append_assoc ts ts' us).symm

/-- Nothing is read at the head of a text. -/
theorem readsTo_refl (s : List Char) : ReadsTo s [] s := by
  unfold ReadsTo
  cases tokensFrom false s <;> rfl

/-- **Reading composes.** -/
theorem ReadsTo.trans {s t u : List Char} {ts ts' : List Token} (h : ReadsTo s ts t)
    (h' : ReadsTo t ts' u) : ReadsTo s (ts ++ ts') u := by
  unfold ReadsTo at *
  rw [h, h', map_append_tokens]

/-- One step that consumes something is a reading. -/
theorem readsTo_of_next {c : Char} {r rest : List Char} {ts : List Token}
    (h : Step.next false c r = .ok (.proceed ts rest)) : ReadsTo (c :: r) ts rest := by
  rw [ReadsTo, tokensFrom_cons, h]

/-- Reading fails where a step fails. -/
theorem tokensFrom_of_next_eq_error {final : Bool} {c : Char} {r : List Char} {e : Rejection}
    (h : Step.next final c r = .error e) : tokensFrom final (c :: r) = .error e := by
  rw [tokensFrom_cons, h]

/-- A text that is read to its end has the tokens that were read. -/
theorem ReadsTo.tokens_eq {s : List Char} {ts : List Token} (h : ReadsTo s ts []) :
    tokens s = .ok ts := by
  unfold ReadsTo at h
  rw [tokens, h, tokensFrom]
  exact congrArg Except.ok (List.append_nil ts)

/-- **A start tag that was written is read**, with its attributes in order. -/
theorem readsTo_startTag {tag : String} {attrs : List Attr} (htag : IsPlainName tag)
    (hraw : tag ∉ rawTextTags) (hattrs : ∀ a ∈ attrs, IsPlainName a.1)
    (hnodup : (attrs.map Prod.fst).Nodup) (rest : List Char) :
    ReadsTo (Markup.startTag tag attrs ++ rest) [.startTag tag attrs false] rest := by
  have hshape : Markup.startTag tag attrs ++ rest =
      '<' :: (tag.toList ++ (attrs.flatMap attrChars ++ '>' :: rest)) := by
    simp [Markup.startTag]
  have hscan := scan_startTag htag hattrs hnodup rest
  obtain ⟨c, r, hname, hc, -⟩ := htag
  rw [hshape]
  refine readsTo_of_next ?_
  have hnext : Step.next false '<' (tag.toList ++ (attrs.flatMap attrChars ++ '>' :: rest)) =
      Step.startTag false (tag.toList ++ (attrs.flatMap attrChars ++ '>' :: rest)) := by
    rw [hname, List.cons_append]
    exact if_pos (isAlpha_of_isLower hc)
  rw [hnext, Step.startTag, hscan]
  simp [Step.wholeTag, hraw]

/-- The rest after a bracket begins behind the first one. -/
theorem afterBracket?_append {s : List Char} (hs : '>' ∉ s) (rest : List Char) :
    afterBracket? (s ++ '>' :: rest) = some rest := by
  induction s with
  | nil => rfl
  | cons c s ih =>
    rw [List.mem_cons, not_or] at hs
    have hc : matchSpaced? ['>'] (c :: (s ++ '>' :: rest)) = none := by
      have hne : ¬ (c == '>') = true := fun h ↦ hs.1 (eq_of_beq h).symm
      rw [matchSpaced?, if_neg hne]
    rw [List.cons_append, afterBracket?, afterFirst?, hc]
    exact ih hs.2

/-- An end tag that was written has nothing but its name in it. -/
theorem plainEndTag?_written {tag : String} (htag : IsPlainName tag) (rest : List Char) :
    plainEndTag? (tag.toList ++ '>' :: rest) = some (tag, rest) := by
  have hlower := htag.asciiLower_eq
  have hend : ∀ c ∈ tag.toList, isPlainNameChar c = true := fun c hc ↦
    (htag.readsPlain_of_mem hc).endTag
  obtain ⟨c, r, hname, hc, -⟩ := htag
  rw [hname] at hlower hend
  obtain ⟨htake, hdrop⟩ := Text.takeWhile_append_eq (List.forall_mem_cons.1 hend).2
    (t := '>' :: rest) (by simp [isPlainNameChar])
  have hblank : ¬ Text.isBlank c = true :=
    Bool.eq_false_iff.1 (readsPlain_of_isPlainChar (isPlainChar_of_isLower hc)).notBlank
  have hbracket : ¬ Text.isBlank '>' = true := by decide
  rw [hname, List.cons_append, plainEndTag?, List.dropWhile_cons_of_neg hblank]
  simp only [isAlpha_of_isLower hc, if_true, hdrop, htake, List.dropWhile_cons_of_neg hbracket,
    BEq.rfl]
  rw [hlower, ← hname, String.ofList_toList]

/-- Its token is that of its name. -/
theorem endTagTokens_written {tag : String} (htag : IsPlainName tag) (rest : List Char) :
    endTagTokens (tag.toList ++ '>' :: rest) = [.endTag tag] := by
  unfold endTagTokens
  rw [plainEndTag?_written htag]

/-- Reading takes one step for it. -/
theorem next_endTag {tag : String} (htag : IsPlainName tag) (rest : List Char) :
    Step.next false '<' ('/' :: (tag.toList ++ '>' :: rest)) =
      .ok (.proceed [.endTag tag] rest) := by
  have hbracket : '>' ∉ tag.toList := fun h ↦ (htag.readsPlain_of_mem h).notBracket rfl
  have hletter : ¬ ('/' : Char).isAlpha = true := by decide
  rw [Step.next, if_pos BEq.rfl, Step.markup, if_neg hletter, if_pos BEq.rfl]
  rw [Step.endTag, afterBracket?_append hbracket, endTagTokens_written htag]

/-- **An end tag that was written is read.** -/
theorem readsTo_endTag {tag : String} (htag : IsPlainName tag) (rest : List Char) :
    ReadsTo (Markup.endTag tag ++ rest) [.endTag tag] rest := by
  have hshape : Markup.endTag tag ++ rest = '<' :: '/' :: (tag.toList ++ '>' :: rest) := by
    simp [Markup.endTag]
  rw [hshape]
  exact readsTo_of_next (next_endTag htag rest)

/-! ### Texts -/

/-- Escaping leaves the character as it is. -/
def isKept (c : Char) : Bool :=
  escapeChar c == [c]

/-- A character that is kept as it is ends no text. -/
theorem not_isSpecial_of_isKept {c : Char} (h : isKept c = true) : Step.isSpecial c = false := by
  rw [Step.isSpecial, Bool.or_eq_false_iff, beq_eq_false_iff_ne, beq_eq_false_iff_ne]
  constructor <;>
  · rintro rfl
    exact absurd h (by decide)

/-- A character that is escaped is read back from its reference. -/
theorem readsTo_escapeChar {c : Char} (h : isKept c = false) (s : List Char) :
    ReadsTo (escapeChar c ++ s) [.text [c]] s := by
  unfold isKept at h
  unfold escapeChar at h ⊢
  split at h
  case h_6 => simp at h
  all_goals exact readsTo_of_next rfl

/-- One that is not kept is written with an ampersand. -/
theorem exists_escapeChar_eq_amp {c : Char} (h : isKept c = false) :
    ∃ t, escapeChar c = '&' :: t := by
  unfold isKept at h
  unfold escapeChar at h ⊢
  split at h
  case h_6 => simp at h
  all_goals exact ⟨_, rfl⟩

/-- The text ends, or markup begins. -/
def EndsText (s : List Char) : Prop :=
  ∀ c ∈ s.head?, c = '<'

/-- A text is escaped from its head on. -/
theorem escape_cons_append (c : Char) (v s : List Char) :
    escape (c :: v) ++ s = escapeChar c ++ (escape v ++ s) := by
  rw [escape, List.flatMap_cons, List.append_assoc, escape]

/-- The characters that stand for themselves are read as one run. -/
theorem run_escape {s : List Char} (hs : EndsText s) (v : List Char) :
    (escape v ++ s).takeWhile (fun d ↦ !Step.isSpecial d) = v.takeWhile isKept ∧
      (escape v ++ s).dropWhile (fun d ↦ !Step.isSpecial d) = escape (v.dropWhile isKept) ++ s := by
  induction v with
  | nil =>
    refine Text.takeWhile_append_eq (List.forall_mem_nil _) fun c hc ↦ ?_
    rw [hs c hc]
    rfl
  | cons c v ih =>
    rw [escape_cons_append]
    cases hc : isKept c with
    | true =>
      have hplain : Step.isSpecial c = false := not_isSpecial_of_isKept hc
      rw [eq_of_beq hc, List.singleton_append]
      simp only [List.takeWhile_cons, List.dropWhile_cons, hplain, hc, Bool.not_false, if_true,
        ih.1, ih.2, and_self]
    | false =>
      obtain ⟨t, ht⟩ := exists_escapeChar_eq_amp hc
      have hamp : Step.isSpecial '&' = true := by decide
      rw [List.dropWhile_cons, hc, if_neg Bool.false_ne_true, escape_cons_append, ht]
      simp only [List.cons_append, List.takeWhile_cons, List.dropWhile_cons, hamp, hc,
        Bool.not_true, Bool.false_eq_true, if_false, and_self]

/-- What is kept up to the next escape is read as one text. -/
theorem readsTo_run {c : Char} (hc : isKept c = true) {s : List Char} (hs : EndsText s)
    (v : List Char) :
    ReadsTo (escape (c :: v) ++ s) [.text (c :: v.takeWhile isKept)]
      (escape (v.dropWhile isKept) ++ s) := by
  obtain ⟨htake, hdrop⟩ := run_escape hs v
  have hspecial := not_isSpecial_of_isKept hc
  rw [Step.isSpecial, Bool.or_eq_false_iff] at hspecial
  rw [escape_cons_append, eq_of_beq hc, List.singleton_append]
  refine readsTo_of_next ?_
  rw [Step.next, if_neg (Bool.eq_false_iff.1 hspecial.1), if_neg (Bool.eq_false_iff.1 hspecial.2),
    htake, hdrop]

/-- An escaped text is read as texts that make up the original. -/
theorem exists_readsTo_text {s : List Char} (hs : EndsText s) :
    ∀ v : List Char, ∃ vs : List (List Char), vs.flatten = v ∧
      ReadsTo (escape v ++ s) (vs.map .text) s
  | [] => ⟨[], rfl, readsTo_refl s⟩
  | c :: v => by
    cases hc : isKept c with
    | true =>
      have hlength : (v.dropWhile isKept).length ≤ v.length :=
        (List.dropWhile_suffix isKept).length_le
      obtain ⟨vs, hvs, hreads⟩ := exists_readsTo_text hs (v.dropWhile isKept)
      refine ⟨(c :: v.takeWhile isKept) :: vs, ?_, (readsTo_run hc hs v).trans hreads⟩
      rw [List.flatten_cons, hvs, List.cons_append, List.takeWhile_append_dropWhile]
    | false =>
      obtain ⟨vs, hvs, hreads⟩ := exists_readsTo_text hs v
      rw [escape_cons_append]
      exact ⟨[c] :: vs, by rw [List.flatten_cons, hvs, List.singleton_append],
        (readsTo_escapeChar hc _).trans hreads⟩
termination_by v => v.length

end SafeMarkdown.Html
