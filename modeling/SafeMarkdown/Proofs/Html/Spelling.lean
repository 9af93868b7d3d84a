import SafeMarkdown.Proofs.Html.OpenElements
import SafeMarkdown.Proofs.Html.Pieces
import SafeMarkdown.Proofs.Html.Written
import SafeMarkdown.Proofs.Text.AnyCase
import SafeMarkdown.Syntax.Tag

/-!
# Tags as they are spelled and as they are read

A text can be searched for the spellings of a tag, wherever they stand: `IsStartTagAt` and
`IsEndTagAt` say where one is found. Reading the text finds tags too, at the beginnings of pieces.

What is read as a start tag is always spelled as one (`isStartTagAt_of_scan`), because the reader
takes the name up to a character that ends the spelling as well; the exception, a NUL, is no tag. An
end tag may be read more loosely than it is spelled, with blanks before its name or with attributes.
And both can be spelled where they are not read. So the spellings found in a text are its tags, with
those that are not read and without the end tags that are only read
(`countWithin_isStartTagAt`, `countWithin_isEndTagAt`).

## Case

Spellings are compared in any case, in the wide sense of the search: a long s counts as an s, and a
dotless i as an i. Reading takes the lower case of a name. Whatever has the lower case of a plain
name also spells it (`SpellsWord`), so reading finds no tag that the search would miss; the search
finds more.
-/

namespace SafeMarkdown.Syntax

open Text (isBlank SpellsWord)

/-! ### Spelled tags -/

/-- The characters that end the name of a start tag as it is spelled. -/
def EndsSpelling (c : Char) : Prop :=
  isBlank c = true ∨ c = '/' ∨ c = '>'

instance : DecidablePred EndsSpelling := fun _ ↦
  inferInstanceAs (Decidable (_ ∨ _ ∨ _))

/-- At the head of the text stands the spelling of a start tag: its name in any case, between a
bracket and a character that ends it. -/
def IsStartTagAt (tag : String) (s : List Char) : Prop :=
  ∃ word c rest, s = '<' :: (word ++ c :: rest) ∧ SpellsWord tag.toList word ∧ EndsSpelling c

/-- At the head of the text stands the spelling of an end tag: its name in any case, and nothing but
blanks between that and the closing bracket. -/
def IsEndTagAt (tag : String) (s : List Char) : Prop :=
  ∃ word blanks rest, s = '<' :: '/' :: (word ++ (blanks ++ '>' :: rest)) ∧
    SpellsWord tag.toList word ∧ ∀ b ∈ blanks, isBlank b = true

/-- The first closing bracket of the text comes right after a slash. -/
def ClosesAtOnce (s : List Char) : Prop :=
  ∃ front rest, s = front ++ '/' :: '>' :: rest ∧ '>' ∉ front

variable {tag : String} {s : List Char}

/-- The search for a start tag finds its spellings. -/
theorem beginsStartTag_iff : beginsStartTag tag.toList s = true ↔ IsStartTagAt tag s := by
  constructor
  · intro h
    unfold beginsStartTag at h
    split at h
    · split at h
      · rename_i r c rest hdrop
        obtain ⟨word, hword, rfl⟩ := Text.dropWordIgnoringCase?_eq_some_iff.1 hdrop
        refine ⟨word, c, rest, rfl, hword, ?_⟩
        simpa [EndsSpelling, or_assoc] using h
      · cases h
    · cases h
  · rintro ⟨word, c, rest, rfl, hword, hc⟩
    rw [beginsStartTag, hword.dropWordIgnoringCase?]
    simpa [EndsSpelling, or_assoc] using hc

/-- The search for an end tag finds its spellings. -/
theorem beginsEndTag_iff : beginsEndTag tag.toList s = true ↔ IsEndTagAt tag s := by
  constructor
  · intro h
    unfold beginsEndTag at h
    split at h
    · split at h
      · rename_i r t hdrop
        obtain ⟨word, hword, rfl⟩ := Text.dropWordIgnoringCase?_eq_some_iff.1 hdrop
        obtain ⟨rest, hrest⟩ := List.head?_eq_some_iff.1 (eq_of_beq h)
        refine ⟨word, t.takeWhile isBlank, rest, ?_, hword, fun _ hb ↦ List.mem_takeWhile_imp hb⟩
        rw [← hrest, List.takeWhile_append_dropWhile]
      · cases h
    · cases h
  · rintro ⟨word, blanks, rest, rfl, hword, hblanks⟩
    have hspace : (blanks ++ '>' :: rest).dropWhile isBlank = '>' :: rest := by
      rw [List.dropWhile_append_of_pos hblanks]
      rfl
    rw [beginsEndTag, hword.dropWordIgnoringCase?]
    simp [hspace]

/-- A tag is taken for self-closed when its bracket comes right after a slash. -/
theorem beginsSelfClosed_iff : beginsSelfClosed s = true ↔ ClosesAtOnce s := by
  rw [beginsSelfClosed, Bool.and_eq_true, List.contains_iff_mem, beq_iff_eq,
    List.getLast?_eq_some_iff]
  constructor
  · rintro ⟨hmem, front, hfront⟩
    have hsplit : s.takeWhile (· != '>') ++ s.dropWhile (· != '>') = s :=
      List.takeWhile_append_dropWhile
    have hbefore : '>' ∉ s.takeWhile (· != '>') := fun h ↦ by
      simpa using List.mem_takeWhile_imp h
    cases hrest : s.dropWhile (· != '>') with
    | nil =>
      rw [hrest, List.append_nil] at hsplit
      rw [hsplit] at hbefore
      exact absurd hmem hbefore
    | cons c rest =>
      have hc : c = '>' := by
        have hhead := List.head?_dropWhile_not (· != '>') s
        rw [hrest] at hhead
        simpa using hhead
      refine ⟨front, rest, ?_, fun h ↦ hbefore (hfront ▸ List.mem_append_left _ h)⟩
      rw [← hsplit, hrest, hfront, hc]
      simp
  · rintro ⟨front, rest, rfl, hfront⟩
    have hbefore : ∀ c ∈ front ++ ['/'], (c != '>') = true := by
      simp only [List.forall_mem_append, List.forall_mem_singleton]
      exact ⟨fun c hc ↦ bne_iff_ne.2 fun h ↦ hfront (h ▸ hc), rfl⟩
    have hshape : front ++ '/' :: '>' :: rest = front ++ ['/'] ++ '>' :: rest := by simp
    refine ⟨by simp, front, ?_⟩
    rw [hshape, List.takeWhile_append_of_pos hbefore]
    simp

instance : DecidablePred (IsStartTagAt tag) := fun _ ↦
  decidable_of_iff _ beginsStartTag_iff

instance : DecidablePred (IsEndTagAt tag) := fun _ ↦
  decidable_of_iff _ beginsEndTag_iff

instance : DecidablePred ClosesAtOnce := fun _ ↦
  decidable_of_iff _ beginsSelfClosed_iff

end SafeMarkdown.Syntax

namespace SafeMarkdown.Html

open Syntax (IsStartTagAt IsEndTagAt EndsSpelling)
open Text (isBlank SpellsWord)

/-! ### Names of start tags -/

/-- A name may go on with a letter. -/
theorem isTagNamePart_of_isAlpha {c : Char} (h : c.isAlpha = true) :
    Syntax.isTagNamePart c = true := by
  rw [Syntax.isTagNamePart, Char.isAlphanum, h]
  rfl

/-- Names are ASCII. -/
theorem lt_of_isTagNamePart {c : Char} (h : Syntax.isTagNamePart c = true) : c.toNat < 128 := by
  rcases Bool.or_eq_true_iff.1 h with h | h
  · exact Text.lt_of_isAlphanum h
  · rw [eq_of_beq h]
    decide

/-- In lower case, their characters are plain. -/
theorem isPlainChar_toLower {c : Char} (h : Syntax.isTagNamePart c = true) :
    isPlainChar c.toLower = true :=
  Text.forall_ascii (P := fun d ↦ Syntax.isTagNamePart d = true → isPlainChar d.toLower = true)
    (by decide) (lt_of_isTagNamePart h) h

/-- The name of the start tag that a text begins with is a plain one. -/
theorem isPlainName_of_startTagName? {s : List Char} {tag : String}
    (h : Syntax.startTagName? s = some tag) : IsPlainName tag := by
  unfold Syntax.startTagName? at h
  split at h
  · rename_i r
    obtain ⟨⟨name, rest⟩, hname, rfl⟩ := Option.map_eq_some_iff.1 h
    unfold Syntax.tagName? at hname
    split at hname
    · cases hname
    · rename_i c r
      split at hname
      · rename_i hc
        cases hname
        refine ⟨c.toLower, Text.asciiLower (r.takeWhile Syntax.isTagNamePart), ?_, ?_, ?_⟩
        · rw [String.toList_ofList]
          rfl
        · exact Text.forall_ascii (P := fun d ↦ d.isAlpha = true → d.toLower.isLower = true)
            (by decide) (lt_of_isTagNamePart (isTagNamePart_of_isAlpha hc)) hc
        · intro d hd
          obtain ⟨e, he, rfl⟩ := List.mem_map.1 hd
          exact isPlainChar_toLower (List.mem_takeWhile_imp he)
      · cases hname
  · cases h

/-! ### The characters of spelled names -/

/-- A character that may stand in the spelling of a name ends nothing. -/
structure IsSpelled (c : Char) : Prop where
  notBlank : isBlank c = false
  notQuote : isQuote c = false
  notSlash : c ≠ '/'
  notOpening : c ≠ '<'
  notClosing : c ≠ '>'

instance (c : Char) : Decidable (IsSpelled c) :=
  decidable_of_iff (isBlank c = false ∧ isQuote c = false ∧ c ≠ '/' ∧ c ≠ '<' ∧ c ≠ '>')
    ⟨fun ⟨h₁, h₂, h₃, h₄, h₅⟩ ↦ ⟨h₁, h₂, h₃, h₄, h₅⟩,
      fun ⟨h₁, h₂, h₃, h₄, h₅⟩ ↦ ⟨h₁, h₂, h₃, h₄, h₅⟩⟩

/-- A character of a spelling does not end it. -/
theorem IsSpelled.not_endsSpelling {c : Char} (h : IsSpelled c) : ¬ EndsSpelling c := by
  rintro (hc | hc | hc)
  · exact Bool.false_ne_true (h.notBlank.symm.trans hc)
  · exact h.notSlash hc
  · exact h.notClosing hc

/-- Nor may an attribute follow it without a separator. -/
theorem IsSpelled.not_allowsAttrAfter {c : Char} (h : IsSpelled c) : allowsAttrAfter c = false := by
  rw [allowsAttrAfter, h.notQuote, h.notBlank, beq_eq_false_iff_ne.2 h.notSlash]
  rfl

/-- What ends the name of a tag that is read ends its spelling, unless it is a NUL. -/
theorem endsSpelling_of_not_isTagNameChar {c : Char} (h : isTagNameChar c = false)
    (hnul : c ≠ '\x00') : EndsSpelling c := by
  simp only [isTagNameChar, Bool.not_eq_false', Bool.or_eq_true, beq_iff_eq] at h
  rcases h with ((hspace | rfl) | rfl) | rfl
  · refine .inl ?_
    simp only [Text.isHtmlSpace, Bool.or_eq_true, beq_iff_eq] at hspace
    rcases hspace with (((rfl | rfl) | rfl) | rfl) | rfl
    all_goals
      decide
  · exact .inr (.inl rfl)
  · exact .inr (.inr rfl)
  · exact absurd rfl hnul

/-- What matches a plain character in any case is part of a spelling. -/
theorem isSpelled_of_matchesIgnoringCase {p c : Char} (hp : isPlainChar p = true)
    (h : Text.matchesIgnoringCase p c = true) : IsSpelled c := by
  have hcases : c.toLower = p ∨ c = 'ſ' ∨ c.toNat = 0x212A ∨ c = 'ı' ∨ c = 'İ' := by
    simp only [Text.matchesIgnoringCase, Bool.or_eq_true, Bool.and_eq_true, beq_iff_eq] at h
    tauto
  rcases hcases with rfl | rfl | hkelvin | rfl | rfl
  · by_cases hc : c.toNat < 128
    · exact Text.forall_ascii (P := fun d ↦ isPlainChar d.toLower = true → IsSpelled d)
        (by decide) hc hp
    · rw [Text.toLower_eq_self (by omega)] at hp
      exact absurd (lt_of_isPlainChar hp) hc
  · decide
  · rw [← Char.ofNat_toNat c, hkelvin]
    decide
  · decide
  · decide

/-- No character of the spelling of a name ends anything. -/
theorem isSpelled_of_mem {tag : String} {word : List Char} (htag : IsPlainName tag)
    (h : SpellsWord tag.toList word) : ∀ c ∈ word, IsSpelled c := by
  intro c hc
  obtain ⟨p, hp, hmatch⟩ := h.exists_of_mem c hc
  exact isSpelled_of_matchesIgnoringCase (htag.isPlainChar_of_mem p hp) hmatch

/-! ### What is read is spelled -/

/-- A start tag that is read whole has the name that is read, in lower case, and ends in a bracket
or in a slash and a bracket. -/
theorem StartTag.name_and_end_of_scan {name : String} {attrs : List Attr} {selfClosing : Bool}
    {s rest : List Char} (h : scan s = .complete name attrs selfClosing rest) :
    name = .ofList (Text.lower (s.takeWhile isTagNameChar)) ∧
      ∃ c t, (scanAttrs (decide ((skipTagSpace (s.dropWhile isTagNameChar)).length <
          (s.dropWhile isTagNameChar).length) ||
        ((s.takeWhile isTagNameChar).getLast?.map allowsAttrAfter).getD false)
        (skipTagSpace (s.dropWhile isTagNameChar))).2 = c :: t ∧ (c = '>' ∨ c = '/') := by
  unfold scan at h
  simp only at h
  split at h
  · rename_i hend
    cases eq_of_orRefused h (by simp)
    exact ⟨rfl, _, _, hend, .inl rfl⟩
  · rename_i hend
    cases eq_of_orRefused h (by simp)
    exact ⟨rfl, _, _, hend, .inr rfl⟩
  · cases h
  · split at h
    · cases h
    · cases eq_of_orRefused h (by simp)

/-- **A start tag that is read is spelled.** The name runs up to a character that ends the spelling:
to a space, a slash or a bracket, since no tag goes on after a NUL. -/
theorem isStartTagAt_of_scan {tag : String} {attrs : List Attr} {selfClosing : Bool}
    {s rest : List Char} (htag : IsPlainName tag)
    (h : StartTag.scan s = .complete tag attrs selfClosing rest) : IsStartTagAt tag ('<' :: s) := by
  obtain ⟨hname, c, t, hend, hc⟩ := StartTag.name_and_end_of_scan h
  have hlower : Text.lower (s.takeWhile isTagNameChar) = tag.toList := by
    rw [hname, String.toList_ofList]
  have hword : SpellsWord tag.toList (s.takeWhile isTagNameChar) := Text.spellsWord_of_lower_eq
    (fun p hp ↦ lt_of_isPlainChar (htag.isPlainChar_of_mem p hp)) hlower
  have hsplit : s.takeWhile isTagNameChar ++ s.dropWhile isTagNameChar = s :=
    List.takeWhile_append_dropWhile
  have hstop := List.head?_dropWhile_not isTagNameChar s
  generalize s.takeWhile isTagNameChar = word at hword hsplit hend
  generalize s.dropWhile isTagNameChar = after at hsplit hend hstop
  cases after with
  | nil =>
    rw [skipTagSpace, scanAttrs] at hend
    cases hend
  | cons d after =>
    refine ⟨word, d, after, by rw [hsplit], hword, ?_⟩
    by_cases hnul : d = '\x00'
    · -- after a NUL no attribute is read, and no tag ends with one
      subst hnul
      have hlast : (word.getLast?.map allowsAttrAfter).getD false = false := by
        cases hword : word.getLast? with
        | none => rfl
        | some e =>
          exact (isSpelled_of_mem htag ‹_› e (List.mem_of_getLast? hword)).not_allowsAttrAfter
      have hskip : skipTagSpace ('\x00' :: after) = '\x00' :: after := rfl
      rw [hskip, decide_eq_false (lt_irrefl _), Bool.false_or, hlast, scanAttrs, Bool.false_and,
        if_neg Bool.false_ne_true] at hend
      obtain ⟨rfl, -⟩ := List.cons.inj hend
      exact absurd hc (by decide)
    · refine endsSpelling_of_not_isTagNameChar (Bool.eq_false_iff.2 ?_) hnul
      simpa using hstop

/-! ### Where tags of one name are read -/

/-- The token is a tag of that name. -/
def Token.bears (tag : String) (t : Token) : Bool :=
  t.begins tag || t.closes tag

/-- Of what a step reads at the head of `s`, only the first token can be a tag of that name, and if
it is a start tag, it is spelled there. -/
def Step.ReadsTag (tag : String) (s : List Char) : Step → Prop
  | proceed ts _ => (∀ t ∈ ts.tail, t.bears tag = false) ∧
      ∀ t ∈ ts.head?, t.begins tag = true → IsStartTagAt tag s
  | stop ts _ => ∀ t ∈ ts, t.bears tag = false

section ReadsTag

variable {tag : String}

/-- A token of another name does not begin an element of this one. -/
theorem not_begins_of_not_bears {t : Token} (h : t.bears tag = false) : t.begins tag = false :=
  (Bool.or_eq_false_iff.1 h).1

/-- Nor does it close one. -/
theorem not_closes_of_not_bears {t : Token} (h : t.bears tag = false) : t.closes tag = false :=
  (Bool.or_eq_false_iff.1 h).2

/-- Raw text holds no tag but the end tag of its element. -/
theorem not_bears_of_mem_rawText {name : List Char} (htag : tag ≠ .ofList name) (fuel : Nat)
    (s : List Char) : ∀ t ∈ (rawText name fuel s).1, t.bears tag = false := by
  induction fuel generalizing s with
  | zero => exact List.forall_mem_nil _
  | succ fuel ih =>
    unfold rawText
    split
    · exact List.forall_mem_nil _
    · rename_i before _ rest _
      split
      · have hend : Token.bears tag (.endTag (.ofList name)) = false :=
          beq_eq_false_iff_ne.2 htag.symm
        exact List.forall_mem_cons.2 ⟨rfl, List.forall_mem_singleton.2 hend⟩
      · exact List.forall_mem_cons.2 ⟨rfl, ih rest⟩

namespace Step

variable {s : List Char} {final : Bool}

/-- A step that reads one token at most, and no start tag. -/
theorem readsTag_proceed {ts : List Token} {rest : List Char} (hlength : ts.length ≤ 1)
    (h : ∀ t ∈ ts, t.begins tag = false) : (proceed ts rest).ReadsTag tag s := by
  constructor
  · have htail : ts.tail = [] := List.eq_nil_of_length_eq_zero (by simp; omega)
    rw [htail]
    exact List.forall_mem_nil _
  · intro t ht hbegins
    rw [h t (List.mem_of_mem_head? ht)] at hbegins
    cases hbegins

/-- A text reads no tag. -/
theorem readsTag_text (u rest : List Char) : (proceed [.text u] rest).ReadsTag tag s :=
  readsTag_proceed le_rfl (List.forall_mem_singleton.2 rfl)

/-- Neither does markup that the text cuts off. -/
theorem readsTag_cutOff (r : List Char) : (cutOff final r).ReadsTag tag s := by
  unfold cutOff
  split
  · split
    · exact readsTag_text _ _
    · split
      · exact readsTag_text _ _
      · exact readsTag_text _ _
  · exact List.forall_mem_nil _

/-- Neither does markup that is hidden. -/
theorem readsTag_hide (r : List Char) (o : Option (List Char)) :
    (hide final r o).ReadsTag tag s := by
  cases o with
  | none => exact readsTag_cutOff r
  | some rest => exact readsTag_proceed le_rfl (List.forall_mem_singleton.2 rfl)

/-- An end tag reads one end tag at most, and no start tag. -/
theorem readsTag_endTag (r : List Char) : (endTag final r).ReadsTag tag s := by
  unfold endTag
  split
  · unfold endTagTokens
    split
    · exact readsTag_proceed le_rfl (List.forall_mem_singleton.2 rfl)
    · exact readsTag_proceed (Nat.zero_le 1) (List.forall_mem_nil _)
    · split
      · exact readsTag_proceed le_rfl (List.forall_mem_singleton.2 rfl)
      · split
        · exact readsTag_proceed (Nat.zero_le 1) (List.forall_mem_nil _)
        · exact readsTag_proceed le_rfl (List.forall_mem_singleton.2 rfl)
  · exact readsTag_cutOff _

/-- A start tag that was read whole reads its own name, and no tag besides if it is not that of a
raw text. -/
theorem readsTag_wholeTag {name : String} {attrs : List Attr} {selfClosing : Bool}
    {rest : List Char} (hraw : tag ∉ rawTextTags) (hspelled : name = tag → IsStartTagAt tag s) :
    (wholeTag name attrs selfClosing rest).ReadsTag tag s := by
  have hhead : ∀ t ∈ some (Token.startTag name attrs selfClosing), t.begins tag = true →
      IsStartTagAt tag s := by
    rintro t ⟨⟩ hbegins
    exact hspelled (eq_of_beq hbegins)
  unfold wholeTag
  split
  · rename_i hname
    have hne : tag ≠ .ofList name.toList := by
      rw [String.ofList_toList]
      rintro rfl
      exact hraw (of_decide_eq_true (Bool.and_eq_true_iff.1 hname).1)
    refine ⟨?_, hhead⟩
    exact not_bears_of_mem_rawText hne (rest.length + 1) rest
  · exact ⟨List.forall_mem_nil _, hhead⟩

/-- **What is read as a start tag is spelled as one.** The name that was read ends where a spelling
ends. -/
theorem readsTag_startTag {r : List Char} {step : Step} (htag : IsPlainName tag)
    (hraw : tag ∉ rawTextTags) (h : startTag final r = .ok step) :
    step.ReadsTag tag ('<' :: r) := by
  unfold startTag at h
  split at h
  · rename_i name attrs selfClosing rest hscan
    cases h
    refine readsTag_wholeTag hraw ?_
    rintro rfl
    exact isStartTagAt_of_scan htag hscan
  · cases h
  · cases h
    exact readsTag_text _ _
  · cases h
    exact readsTag_cutOff r

/-- The same of any markup. -/
theorem readsTag_markup {r : List Char} {step : Step} (htag : IsPlainName tag)
    (hraw : tag ∉ rawTextTags) (h : markup final r = .ok step) : step.ReadsTag tag ('<' :: r) := by
  unfold markup at h
  split at h
  · cases h
    exact List.forall_mem_nil _
  · rename_i c t
    split at h
    · exact readsTag_startTag htag hraw h
    · split at h
      · cases h
        exact readsTag_endTag t
      · split at h
        · obtain ⟨o, -, rfl⟩ := map_eq_ok_iff.1 h
          exact readsTag_hide (c :: t) o
        · split at h
          · cases h
            exact readsTag_hide _ _
          · cases h
            exact readsTag_text _ _

/-- A reference reads no tag. -/
theorem readsTag_reference {r : List Char} {step : Step} (h : reference final r = .ok step) :
    step.ReadsTag tag s := by
  unfold reference at h
  split at h
  · cases h
    exact List.forall_mem_nil _
  · rename_i c t
    split at h
    · unfold codeReference at h
      split at h
      · split at h
        · cases h
        · cases h
          exact readsTag_text _ _
      · split at h
        · cases h
          exact List.forall_mem_singleton.2 rfl
        · cases h
          exact List.forall_mem_nil _
    · split at h
      · cases h
        unfold namedReference
        split
        · exact readsTag_text _ _
        · split
          · exact List.forall_mem_nil _
          · exact List.forall_mem_nil _
      · cases h
        exact readsTag_text _ _

/-- **One step reads one tag of a name at most**, and at its beginning. -/
theorem readsTag_of_next {c : Char} {r : List Char} {step : Step} (htag : IsPlainName tag)
    (hraw : tag ∉ rawTextTags) (h : next final c r = .ok step) : step.ReadsTag tag (c :: r) := by
  unfold next at h
  split at h
  · rename_i hc
    rw [eq_of_beq hc]
    exact readsTag_markup htag hraw h
  · split at h
    · exact readsTag_reference h
    · cases h
      exact readsTag_text _ _

end Step

/-! ### Spelled tags and tags that are read -/

namespace Piece

variable {p : Piece} {reads reads' : Token → Bool}

/-- Only the first token of a piece can be a tag of a given name, and then the piece is not empty;
a start tag is spelled there. -/
theorem IsStep.readsTag (h : p.IsStep) (htag : IsPlainName tag) (hraw : tag ∉ rawTextTags) :
    p.ReadsAtHead (Token.bears tag) ∧
      ∀ t ∈ p.tokens.head?, t.begins tag = true → IsStartTagAt tag p.whole := by
  cases h with
  | @proceed final c r hwhole hnext =>
    obtain ⟨htail, hhead⟩ := Step.readsTag_of_next htag hraw hnext
    refine ⟨⟨htail, fun hchars ↦ ?_⟩, hwhole ▸ hhead⟩
    -- the step has gone on, so the piece is not empty
    have hlength : p.after.length ≤ r.length := (Step.leavesEnd_next hnext).length_le
    rw [Piece.whole, hchars, List.nil_append] at hwhole
    rw [hwhole, List.length_cons] at hlength
    omega
  | @stop final c r ts rest hwhole hnext htokens =>
    have hts : ∀ t ∈ ts, t.bears tag = false := Step.readsTag_of_next htag hraw hnext
    have hall : ∀ t ∈ p.tokens, t.bears tag = false := by
      rcases htokens with htokens | htokens
      · exact htokens ▸ hts
      · rw [htokens]
        exact List.forall_mem_append.2 ⟨hts, List.forall_mem_singleton.2 rfl⟩
    refine ⟨⟨fun t ht ↦ hall t (List.mem_of_mem_tail ht), fun _ ↦ hall⟩, fun t ht hbegins ↦ ?_⟩
    have hnot := not_begins_of_not_bears (hall t (List.mem_of_mem_head? ht))
    exact absurd hbegins (Bool.eq_false_iff.1 hnot)

/-- A piece that reads tags of one sort at its head only reads those of a narrower sort there only.
-/
theorem ReadsAtHead.mono (h : p.ReadsAtHead reads)
    (himp : ∀ t, reads t = false → reads' t = false) : p.ReadsAtHead reads' :=
  ⟨fun t ht ↦ himp t (h.tail t ht), fun hchars t ht ↦ himp t (h.chars hchars t ht)⟩

/-- What is read as a start tag is spelled as one. -/
theorem IsStep.loose_begins (h : p.IsStep) (htag : IsPlainName tag) (hraw : tag ∉ rawTextTags) :
    p.loose (IsStartTagAt tag) (Token.begins tag) = 0 := by
  obtain ⟨hreads, hspelled⟩ := h.readsTag htag hraw
  refine if_neg ?_
  rintro ⟨hany, hnot⟩
  obtain ⟨t, ht, hbegins⟩ := List.any_eq_true.1 hany
  have htail := hreads.tail
  cases htokens : p.tokens with
  | nil =>
    rw [htokens] at ht
    cases ht
  | cons u us =>
    rw [htokens] at ht hspelled htail
    rcases List.mem_cons.1 ht with rfl | ht
    · exact hnot (hspelled t rfl hbegins)
    · exact absurd hbegins (Bool.eq_false_iff.1 (not_begins_of_not_bears (htail t ht)))

end Piece

variable {final : Bool} {s : List Char} {ps : List Piece}

/-- **The spellings of a start tag** in a text are those that are read and those that are not. -/
theorem countWithin_isStartTagAt (h : piecesFrom final s = .ok ps) (htag : IsPlainName tag)
    (hraw : tag ∉ rawTextTags) :
    countWithin (IsStartTagAt tag) s [] =
      (tokensOf ps).countP (Token.begins tag) +
        unread (IsStartTagAt tag) (Token.begins tag) ps := by
  have hstep := isStep_of_mem h
  have hloose : loose (IsStartTagAt tag) (Token.begins tag) ps = 0 := by
    refine List.sum_eq_zero_iff_forall_eq_nat.2 fun n hn ↦ ?_
    obtain ⟨p, hp, rfl⟩ := List.mem_map.1 hn
    exact (hstep p hp).loose_begins htag hraw
  have hcount := countWithin_add_loose (P := IsStartTagAt tag) h fun p hp ↦
    ((hstep p hp).readsTag htag hraw).1.mono fun _ ↦ not_begins_of_not_bears
  rwa [hloose, Nat.add_zero] at hcount

/-- **The spellings of an end tag** in a text are those that are read and those that are not; some
end tags are read where none is spelled. -/
theorem countWithin_isEndTagAt (h : piecesFrom final s = .ok ps) (htag : IsPlainName tag)
    (hraw : tag ∉ rawTextTags) :
    countWithin (IsEndTagAt tag) s [] + loose (IsEndTagAt tag) (Token.closes tag) ps =
      (tokensOf ps).countP (Token.closes tag) +
        unread (IsEndTagAt tag) (Token.closes tag) ps :=
  countWithin_add_loose h fun p hp ↦
    ((isStep_of_mem h p hp).readsTag htag hraw).1.mono fun _ ↦ not_closes_of_not_bears

end ReadsTag

end SafeMarkdown.Html
