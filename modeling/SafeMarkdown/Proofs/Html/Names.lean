import Mathlib.Data.List.TakeWhile
import SafeMarkdown.Proofs.Html.Builder
import SafeMarkdown.Proofs.KeyedList
import SafeMarkdown.Proofs.Markup.EndTags
import SafeMarkdown.Proofs.Text.Case

/-!
# The names in a tree that was read

The elements of a tree take their names and attributes from start tag tokens. So a vocabulary that
holds the names of all tokens of a text holds those of its tree (`within_treeOfTokens`). The names
of tokens hold no slash, because a slash ends a name, so those of trees do not either
(`slashFree_of_parse`).
-/

namespace SafeMarkdown.Html

open Markup (All Within slashFree)

/-- A start tag bears names of the vocabulary; other tokens bear no name that gets into a tree. -/
def Token.Within (v : Vocabulary) : Token → Prop
  | .startTag name attrs _ => v.tag name ∧ ∀ a ∈ attrs, v.attr name a.1
  | _ => True

/-- Every token of the list keeps to the vocabulary. -/
abbrev TokensWithin (v : Vocabulary) (tokens : List Token) : Prop :=
  ∀ t ∈ tokens, t.Within v

/-! ### Names end at a slash -/

/-- A name that begins with no slash and ends before one holds none, in lower case. -/
theorem slash_not_mem_lower {p : Char → Bool} {c : Char} {s : List Char} (hc : c ≠ '/')
    (hp : p '/' = false) : '/' ∉ Text.lower (c :: s.takeWhile p) := by
  intro h
  rcases List.mem_cons.1 (Text.mem_of_mem_lower (by decide) h) with h | h
  · exact hc h.symm
  · exact absurd (List.mem_takeWhile_imp h) (by simp [hp])

/-- The same of a name that may be empty. -/
theorem slash_not_mem_lower_takeWhile {p : Char → Bool} {s : List Char} (hp : p '/' = false) :
    '/' ∉ Text.lower (s.takeWhile p) := fun h ↦
  absurd (List.mem_takeWhile_imp (Text.mem_of_mem_lower (by decide) h)) (by simp [hp])

/-- The names of scanned attributes hold no slash. -/
theorem slash_not_mem_of_mem_scanAttrs {allowed : Bool} {s : List Char} :
    ∀ a ∈ (scanAttrs allowed s).1, '/' ∉ a.1.toList := by
  fun_induction scanAttrs allowed s with
  | case1 => simp
  | case2 allowed c r h attr others ih =>
    refine List.forall_mem_cons.2 ⟨?_, ih⟩
    have hc : c ≠ '/' := by
      rintro rfl
      simp [isAttrStart] at h
    have := slash_not_mem_lower (p := isAttrPart) (s := r) hc (by decide)
    simpa [attr, ScannedAttr.scan] using this
  | case3 => simp

/-- A start tag that was read whole bears names without a slash. -/
theorem StartTag.slashFree_of_scan {s : List Char} {name : String} {attrs : List Attr}
    {selfClosing : Bool} {rest : List Char}
    (h : scan s = .complete name attrs selfClosing rest) :
    '/' ∉ name.toList ∧ ∀ a ∈ attrs, '/' ∉ a.1.toList := by
  have hname : '/' ∉ (String.ofList (Text.lower (s.takeWhile isTagNameChar))).toList := by
    simpa using slash_not_mem_lower_takeWhile (p := isTagNameChar) (s := s) (by decide)
  have hattrs : ∀ allowed, ∀ a ∈ (mergePairs (scanAttrs allowed
      (skipTagSpace (s.dropWhile isTagNameChar))).1).map fun a ↦
        (a.1, String.ofList (unescape a.2)), '/' ∉ a.1.toList := by
    intro allowed a ha
    obtain ⟨b, hb, rfl⟩ := List.mem_map.1 ha
    exact slash_not_mem_of_mem_scanAttrs b (mem_of_mem_mergePairs hb)
  unfold scan at h
  simp only at h
  split at h
  · cases eq_of_orRefused h (by simp)
    exact ⟨hname, hattrs _⟩
  · cases eq_of_orRefused h (by simp)
    exact ⟨hname, hattrs _⟩
  · cases h
  · split at h
    · cases h
    · cases eq_of_orRefused h (by simp)

/-! ### Tokens -/

/-- One token is within a vocabulary when its names are. -/
theorem tokensWithin_singleton {v : Vocabulary} {t : Token} :
    TokensWithin v [t] ↔ t.Within v := by
  simp [TokensWithin]

/-- Raw text is no start tag. -/
theorem tokensWithin_rawText {v : Vocabulary} (name : List Char) (fuel : Nat) (s : List Char) :
    TokensWithin v (rawText name fuel s).1 := by
  induction fuel generalizing s with
  | zero => simp [rawText, TokensWithin]
  | succ fuel ih =>
    unfold rawText
    split
    · simp [TokensWithin]
    · split
      · simp [TokensWithin, Token.Within]
      · exact List.forall_mem_cons.2 ⟨trivial, ih _⟩

/-- An end tag brings no names into a tree. -/
theorem tokensWithin_endTagTokens {v : Vocabulary} (s : List Char) :
    TokensWithin v (endTagTokens s) := by
  unfold endTagTokens
  split
  · simp [TokensWithin, Token.Within]
  · simp [TokensWithin]
  · repeat' split
    all_goals simp [TokensWithin, Token.Within]

namespace Step

/-- The tokens of a step. -/
def tokens : Step → List Token
  | proceed tokens _ => tokens
  | stop tokens _ => tokens

/-- Neither does markup that the text cuts off. -/
theorem tokensWithin_cutOff {v : Vocabulary} (final : Bool) (r : List Char) :
    TokensWithin v (cutOff final r).tokens := by
  unfold cutOff
  repeat' split
  all_goals simp [tokens, TokensWithin, Token.Within]

/-- Neither does markup that is hidden. -/
theorem tokensWithin_hide {v : Vocabulary} (final : Bool) (r : List Char)
    (o : Option (List Char)) : TokensWithin v (hide final r o).tokens := by
  cases o with
  | none => exact tokensWithin_cutOff final r
  | some rest => simp [hide, tokens, TokensWithin, Token.Within]

/-- A start tag that was read whole brings its own names. -/
theorem tokensWithin_wholeTag {v : Vocabulary} {name : String} {attrs : List Attr}
    (selfClosing : Bool) (h : (Token.startTag name attrs selfClosing).Within v) (rest : List Char) :
    TokensWithin v (wholeTag name attrs selfClosing rest).tokens := by
  unfold wholeTag
  split
  · -- the name switches to raw text, which is passed over up to its end tag
    exact List.forall_mem_cons.2 ⟨h, tokensWithin_rawText name.toList (rest.length + 1) rest⟩
  · exact tokensWithin_singleton.2 h

/-- A start tag is read with names that hold no slash. -/
theorem tokensWithin_startTag {final : Bool} {r : List Char} {step : Step}
    (h : startTag final r = .ok step) : TokensWithin slashFree step.tokens := by
  unfold startTag at h
  split at h
  · rename_i name attrs selfClosing rest hscan
    cases h
    have htag : (Token.startTag name attrs selfClosing).Within slashFree :=
      StartTag.slashFree_of_scan hscan
    exact tokensWithin_wholeTag selfClosing htag rest
  · cases h
  · cases h
    simp [tokens, TokensWithin, Token.Within]
  · cases h
    exact tokensWithin_cutOff final r

/-- Reading an end tag brings no names. -/
theorem tokensWithin_endTag {v : Vocabulary} (final : Bool) (r : List Char) :
    TokensWithin v (endTag final r).tokens := by
  unfold endTag
  split
  · exact tokensWithin_endTagTokens r
  · exact tokensWithin_cutOff final _

/-- Whatever markup is read, its names hold no slash. -/
theorem tokensWithin_markup {final : Bool} {r : List Char} {step : Step}
    (h : markup final r = .ok step) : TokensWithin slashFree step.tokens := by
  unfold markup at h
  split at h
  · cases h
    simp [tokens, TokensWithin]
  · rename_i c t
    split at h
    · exact tokensWithin_startTag h
    · split at h
      · cases h
        exact tokensWithin_endTag final t
      · split at h
        · obtain ⟨o, -, rfl⟩ := map_eq_ok_iff.1 h
          exact tokensWithin_hide final _ o
        · split at h
          · cases h
            exact tokensWithin_hide final _ _
          · cases h
            simp [tokens, TokensWithin, Token.Within]

/-- Reading a reference brings no names. -/
theorem tokensWithin_reference {v : Vocabulary} {final : Bool} {r : List Char} {step : Step}
    (h : reference final r = .ok step) : TokensWithin v step.tokens := by
  unfold reference codeReference namedReference at h
  repeat' split at h
  all_goals
    cases h
  all_goals simp [tokens, TokensWithin, Token.Within]

/-- **One step of reading** gives tokens whose names hold no slash. -/
theorem tokensWithin_next {final : Bool} {c : Char} {r : List Char} {step : Step}
    (h : next final c r = .ok step) : TokensWithin slashFree step.tokens := by
  unfold next at h
  split at h
  · exact tokensWithin_markup h
  · split at h
    · exact tokensWithin_reference h
    · cases h
      simp [tokens, TokensWithin, Token.Within]

end Step

/-- The start tags among the tokens of a text bear names without a slash. -/
theorem slashFree_of_tokensFrom {final : Bool} {s : List Char} {ts : List Token}
    (h : tokensFrom final s = .ok ts) : TokensWithin slashFree ts := by
  fun_induction tokensFrom final s generalizing ts with
  | case1 =>
    cases h
    simp [TokensWithin]
  | case2 => cases h
  | case3 final c r tokens rest hstep ih =>
    obtain ⟨ts', hts', rfl⟩ := map_eq_ok_iff.1 h
    exact List.forall_mem_append.2 ⟨Step.tokensWithin_next hstep, ih hts'⟩
  | case4 c r tokens rest hstep =>
    -- the second phase stops here, and what it leaves is text
    have hfirst : TokensWithin slashFree tokens := Step.tokensWithin_next hstep
    cases h
    split
    · exact hfirst
    · exact List.forall_mem_append.2 ⟨hfirst, by simp [Token.Within]⟩
  | case5 final c r tokens rest hstep hfinal ih =>
    -- the first phase stops here, and the second reads what is left
    obtain ⟨ts', hts', rfl⟩ := map_eq_ok_iff.1 h
    exact List.forall_mem_append.2 ⟨Step.tokensWithin_next hstep, ih hts'⟩

/-! ### Trees -/

/-- Being within a vocabulary is kept when a tree is built from tokens. -/
theorem treeClosed_within (v : Vocabulary) :
    TreeClosed (fun tag attrs ↦ v.tag tag ∧ ∀ a ∈ attrs, v.attr tag a.1) (Markup.Within v) where
  text _ := Markup.within_text
  empty h := Markup.within_element.2 ⟨h.1, h.2, List.forall_mem_nil _⟩
  element h _ hchildren := Markup.within_element.2 ⟨h.1, h.2, hchildren⟩

/-- **Names in a tree are names of tokens.** -/
theorem within_treeOfTokens {v : Vocabulary} {ts : List Token} (h : TokensWithin v ts) :
    All (Markup.Within v) (treeOfTokens ts) := by
  refine (treeClosed_within v).all_treeOfTokens fun t ht ↦ ?_
  have := h t ht
  cases t <;> exact this

/-- The names in a tree that was read hold no slash. -/
theorem slashFree_of_parse {source : String} {nodes : List Markup} (h : parse source = .ok nodes) :
    All (Markup.Within slashFree) nodes := by
  obtain ⟨ts, hts, rfl⟩ := map_eq_ok_iff.1 h
  exact within_treeOfTokens (slashFree_of_tokensFrom hts)

end SafeMarkdown.Html
