import SafeMarkdown.Html.Token

/-!
# Cutting HTML text into tokens

`Step.next` reads what stands at the head of a text: it consumes some of it, or stops. `tokens`
repeats it through the two phases. What a step leaves is an end of the text, and a shorter one,
except after a stop, which may leave the text as it was and ends the phase.

That is why the repetition comes to an end, and it is shown along the way: each part of the reader
that gives back a rest has a lemma that the rest is an end of its text (`suffix_of_` with the name
of the part), and each step has one that says so of the step (`leavesEnd_next`).
-/

namespace SafeMarkdown.Html

/-- What reading at the head of a text gives: tokens, and the text that is left. -/
inductive Step where
  /-- Reading goes on at `rest`. -/
  | proceed (tokens : List Token) (rest : List Char)
  /-- The phase ends at `rest`. -/
  | stop (tokens : List Token) (rest : List Char)

namespace Step

/-- The step leaves an end of the text that begins with `c` and goes on with `r`, and no more than
`r` unless it stops. -/
def LeavesEnd (c : Char) (r : List Char) : Step → Prop
  | proceed _ rest => rest <:+ r
  | stop _ rest => rest <:+ c :: r

/-- The character begins markup or a reference. -/
def isSpecial (c : Char) : Bool :=
  c == '<' || c == '&'

/-- A construct that begins with `<` before `r` and is cut off. The second phase takes it for text
up to the next closing bracket, else up to the next `<`, else the one character. -/
def cutOff (final : Bool) (r : List Char) : Step :=
  if final then
    match splitAtChar? '>' r with
    | some (before, rest) => proceed [.text ('<' :: before ++ ['>'])] rest
    | none =>
      if r.contains '<' then
        proceed [.text ('<' :: r.takeWhile (· != '<'))] (r.dropWhile (· != '<'))
      else proceed [.text ['<']] r
  else stop [] ('<' :: r)

/-- A construct that is not shown, from its `<` before `r` up to the given rest. -/
def hide (final : Bool) (r : List Char) : Option (List Char) → Step
  | some rest => proceed [.hidden] rest
  | none => cutOff final r

/-- A whole start tag, and the raw text of its element if it opens one that has raw text. -/
def wholeTag (name : String) (attrs : List Attr) (selfClosing : Bool) (rest : List Char) : Step :=
  if name ∈ rawTextTags && !selfClosing then
    let (tokens, after) := rawText name.toList (rest.length + 1) rest
    proceed (.startTag name attrs selfClosing :: tokens) (after.getD [])
  else proceed [.startTag name attrs selfClosing] rest

/-- A start tag, from its `<` before `r`. -/
def startTag (final : Bool) (r : List Char) : Except Rejection Step :=
  match StartTag.scan r with
  | .complete name attrs selfClosing rest => .ok (wholeTag name attrs selfClosing rest)
  | .refused digits => .error (.longNumber digits)
  | .junk rest => .ok (proceed [.text ('<' :: r.take (r.length - rest.length))] rest)
  | .incomplete => .ok (cutOff final r)

/-- An end tag, from its `</` before `r`. -/
def endTag (final : Bool) (r : List Char) : Step :=
  match afterBracket? r with
  | some rest => proceed (endTagTokens r) rest
  | none => cutOff final ('/' :: r)

/-- What stands at a `<` before `r`. -/
def markup (final : Bool) (r : List Char) : Except Rejection Step :=
  match r with
  | [] => .ok (stop [] ['<'])
  | c :: t =>
    if c.isAlpha then startTag final r
    else if c == '/' then .ok (endTag final t)
    else if c == '!' then (declaration t).map (hide final r)
    else if c == '?' then .ok (hide final r (afterBracket? t))
    else .ok (proceed [.text ['<']] r)

/-- A reference by code, from its `&#` before `t`. One that is not well formed stops reading. -/
def codeReference (t : List Char) : Except Rejection Step :=
  match codeReference? t with
  | some (ch, rest) =>
    match longDecimal? t with
    | some digits => .error (.longNumber digits)
    | none => .ok (proceed [.text [ch]] rest)
  | none =>
    if t.contains ';' then .ok (stop [.text ['&', '#']] t) else .ok (stop [] ('&' :: '#' :: t))

/-- A reference by name, from its `&` before `r`, which begins with a letter. -/
def namedReference (final : Bool) (r : List Char) : Step :=
  match nameReference? r with
  | some (name, rest) => proceed [.text (textOfName name)] rest
  | none => if final && r.tail.isEmpty then stop [] r else stop [] ('&' :: r)

/-- What stands at a `&` before `r`. -/
def reference (final : Bool) (r : List Char) : Except Rejection Step :=
  match r with
  | [] => .ok (stop [] ['&'])
  | c :: t =>
    if c == '#' then codeReference t
    else if c.isAlpha then .ok (namedReference final r)
    else .ok (proceed [.text ['&']] r)

/-- What stands at the head of a text that begins with `c` and goes on with `r`. -/
def next (final : Bool) (c : Char) (r : List Char) : Except Rejection Step :=
  if c == '<' then markup final r
  else if c == '&' then reference final r
  else
    .ok (proceed [.text (c :: r.takeWhile fun d ↦ !isSpecial d)] (r.dropWhile fun d ↦ !isSpecial d))

end Step

/-! ### Every step leaves an end of the text -/

theorem suffix_of_matchSpaced? {w s rest : List Char} (h : matchSpaced? w s = some rest) :
    rest <:+ s := by
  induction w, s using matchSpaced?.induct with
  | case1 s => simp_all [matchSpaced?]
  | case2 p c r hc => simp_all [matchSpaced?]
  | case3 p c r hc => simp_all [matchSpaced?]
  | case4 p ps c r hps hc ih =>
    rw [matchSpaced?, if_pos hc] at h
    · exact (ih h).trans ((List.dropWhile_suffix _).trans (List.suffix_cons c r))
    · exact hps
  | case5 p ps c r hps hc => simp_all [matchSpaced?]
  | case6 => simp [matchSpaced?] at h

theorem suffix_of_afterFirst? {m : List Char → Option (List Char)}
    (hm : ∀ {s rest}, m s = some rest → rest <:+ s) {s rest : List Char}
    (h : afterFirst? m s = some rest) : rest <:+ s := by
  induction s with
  | nil => simp [afterFirst?] at h
  | cons c r ih =>
    unfold afterFirst? at h
    split at h
    · rename_i hr
      rw [← Option.some.inj h]
      exact hm hr
    · exact (ih h).trans (List.suffix_cons c r)

theorem suffix_of_afterBracket? {s rest : List Char} (h : afterBracket? s = some rest) :
    rest <:+ s :=
  suffix_of_afterFirst? suffix_of_matchSpaced? h

theorem suffix_of_matchCommentEnd? {s rest : List Char} (h : matchCommentEnd? s = some rest) :
    rest <:+ s := by
  unfold matchCommentEnd? at h
  split at h
  · exact (suffix_of_matchSpaced? h).trans (List.suffix_cons _ _)
  · simp at h

theorem suffix_of_markedSection {s rest : List Char} (h : markedSection s = .ok (some rest)) :
    rest <:+ s := by
  unfold markedSection at h
  split at h
  · simp at h
  · split at h
    · simp at h
    · dsimp only at h
      split at h
      · simp at h
      · split at h
        · exact suffix_of_afterFirst? suffix_of_matchSpaced? (Except.ok.inj h)
        · split at h
          · exact suffix_of_afterFirst? suffix_of_matchSpaced? (Except.ok.inj h)
          · simp at h

theorem suffix_of_declaration {s rest : List Char} (h : declaration s = .ok (some rest)) :
    rest <:+ s := by
  unfold declaration at h
  split at h
  · exact (suffix_of_afterFirst? suffix_of_matchCommentEnd? (Except.ok.inj h)).trans
      ((List.suffix_cons _ _).trans (List.suffix_cons _ _))
  · exact (suffix_of_markedSection h).trans (List.suffix_cons _ _)
  · have h := suffix_of_afterBracket? (Except.ok.inj h)
    split at h
    · exact h.trans (List.drop_suffix _ _)
    · exact h

theorem suffix_of_codeReference? {s rest : List Char} {c : Char}
    (h : codeReference? s = some (c, rest)) : rest <:+ s := by
  unfold codeReference? at h
  simp only [Option.bind_eq_bind, Option.bind_eq_some_iff, Prod.exists] at h
  obtain ⟨n, r, hr, h⟩ := h
  split at h
  · simp at h
  · split at h
    · simp at h
    · simp only [Option.some.injEq, Prod.mk.injEq] at h
      rw [← h.2]
      exact (dropSemicolon_suffix _).trans (suffix_of_scanCode? hr)

theorem suffix_of_splitAtLastMark? {s a b : List Char} (h : splitAtLastMark? s = some (a, b)) :
    b <:+ s := by
  induction s generalizing a b with
  | nil => simp [splitAtLastMark?] at h
  | cons c r ih =>
    unfold splitAtLastMark? at h
    split at h
    · rename_i a' b' hr
      simp only [Option.some.injEq, Prod.mk.injEq] at h
      rw [← h.2]
      exact (ih hr).trans (List.suffix_cons c r)
    · split at h
      · simp only [Option.some.injEq, Prod.mk.injEq] at h
        obtain ⟨-, rfl⟩ := h
        exact List.suffix_refl (c :: r)
      · simp at h

theorem suffix_of_nameReference? {s name rest : List Char}
    (h : nameReference? s = some (name, rest)) : rest <:+ s := by
  unfold nameReference? at h
  split at h
  · simp at h
  · rename_i c r
    split at h
    · split at h
      · simp only [Option.map_eq_some_iff, Prod.exists, Prod.mk.injEq] at h
        obtain ⟨a, b, hr, -, rfl⟩ := h
        exact (suffix_of_splitAtLastMark? hr).trans (List.suffix_cons c r)
      · simp only [Option.some.injEq, Prod.mk.injEq] at h
        rw [← h.2]
        exact (dropSemicolon_suffix _).trans
          ((List.dropWhile_suffix _).trans (List.suffix_cons c r))
    · simp at h

theorem suffix_of_dropWordIgnoringCase? {w s rest : List Char}
    (h : Text.dropWordIgnoringCase? w s = some rest) : rest <:+ s := by
  induction w generalizing s with
  | nil => simp_all [Text.dropWordIgnoringCase?]
  | cons p ps ih =>
    cases s with
    | nil => simp [Text.dropWordIgnoringCase?] at h
    | cons c r =>
      unfold Text.dropWordIgnoringCase? at h
      split at h
      · exact (ih h).trans (List.suffix_cons c r)
      · simp at h

/-- The end tag of a raw text leaves what comes after it. -/
theorem suffix_of_matchRawEnd? {name s tag rest : List Char}
    (h : matchRawEnd? name s = some (tag, rest)) : rest <:+ s := by
  unfold matchRawEnd? at h
  split at h
  · rename_i t
    simp only [Option.bind_eq_bind, Option.bind_eq_some_iff] at h
    obtain ⟨r, hr, h⟩ := h
    have hword : r <:+ '<' :: '/' :: t :=
      (suffix_of_dropWordIgnoringCase? hr).trans
        ((List.dropWhile_suffix _).trans ((List.suffix_cons _ _).trans (List.suffix_cons _ _)))
    split at h
    · simp at h
    · rename_i d u hd
      split at h
      · simp only [Option.some.injEq, Prod.mk.injEq] at h
        have hblank : d :: u <:+ r := hd ▸ List.dropWhile_suffix _
        rw [← h.2]
        exact (List.suffix_cons d u).trans (hblank.trans hword)
      · simp at h
  · simp at h

/-- So does looking for it. -/
theorem suffix_of_splitAtRawEnd? {name s before tag rest : List Char}
    (h : splitAtRawEnd? name s = some (before, tag, rest)) : rest <:+ s := by
  induction s generalizing before with
  | nil => simp [splitAtRawEnd?] at h
  | cons c r ih =>
    unfold splitAtRawEnd? at h
    split at h
    · rename_i hr
      simp only [Option.some.injEq, Prod.mk.injEq] at h
      rw [← h.2.2]
      exact suffix_of_matchRawEnd? hr
    · simp only [Option.map_eq_some_iff, Prod.exists, Prod.mk.injEq] at h
      obtain ⟨a, b, c', hr, -, rfl, rfl⟩ := h
      exact (ih hr).trans (List.suffix_cons c r)

/-- So does the raw text with it. -/
theorem suffix_of_rawText {name : List Char} {fuel : Nat} {s rest : List Char}
    (h : (rawText name fuel s).2 = some rest) : rest <:+ s := by
  induction fuel generalizing s with
  | zero => simp [rawText] at h
  | succ fuel ih =>
    unfold rawText at h
    split at h
    · simp at h
    · rename_i hs
      have hsplit := suffix_of_splitAtRawEnd? hs
      split at h
      · rw [← Option.some.inj h]
        exact hsplit
      · exact (ih h).trans hsplit

namespace Step

/-- Markup that the text cuts off is left where it stands, or taken as text up to the end. -/
theorem leavesEnd_cutOff (final : Bool) (r : List Char) : (cutOff final r).LeavesEnd '<' r := by
  unfold cutOff
  split
  · split
    · rename_i h
      exact suffix_of_splitAtChar? h
    · split
      · exact List.dropWhile_suffix _
      · exact List.suffix_refl _
  · exact List.suffix_refl _

/-- Hidden markup leaves what comes after it. -/
theorem leavesEnd_hide (final : Bool) {r : List Char} {o : Option (List Char)}
    (h : ∀ rest, o = some rest → rest <:+ r) : (hide final r o).LeavesEnd '<' r := by
  cases o with
  | none => exact leavesEnd_cutOff final r
  | some rest => exact h rest rfl

/-- A start tag that was read whole leaves what comes after it, and after its raw text. -/
theorem leavesEnd_wholeTag (name : String) (attrs : List Attr) (selfClosing : Bool)
    {r rest : List Char} (h : rest <:+ r) :
    (wholeTag name attrs selfClosing rest).LeavesEnd '<' r := by
  unfold wholeTag
  split
  · simp only [LeavesEnd]
    cases ha : (rawText _ _ _).2 with
    | none => exact List.nil_suffix
    | some after => exact (suffix_of_rawText ha).trans h
  · exact h

/-- So does any start tag. -/
theorem leavesEnd_startTag {final : Bool} {r : List Char} {step : Step}
    (h : startTag final r = .ok step) : step.LeavesEnd '<' r := by
  unfold startTag at h
  split at h
  · rename_i hscan
    rw [← Except.ok.inj h]
    exact leavesEnd_wholeTag _ _ _ (StartTag.suffix_of_rest? (s := r) (by rw [hscan]; rfl))
  · cases h
  · rename_i hscan
    rw [← Except.ok.inj h]
    exact StartTag.suffix_of_rest? (s := r) (by rw [hscan]; rfl)
  · rw [← Except.ok.inj h]
    exact leavesEnd_cutOff final r

/-- So does an end tag. -/
theorem leavesEnd_endTag (final : Bool) (r : List Char) :
    (endTag final r).LeavesEnd '<' ('/' :: r) := by
  unfold endTag
  split
  · rename_i h
    exact (suffix_of_afterBracket? h).trans (List.suffix_cons _ _)
  · exact leavesEnd_cutOff final _

/-- So does any markup. -/
theorem leavesEnd_markup {final : Bool} {r : List Char} {step : Step}
    (h : markup final r = .ok step) : step.LeavesEnd '<' r := by
  unfold markup at h
  split at h
  · rw [← Except.ok.inj h]
    exact List.suffix_refl _
  · rename_i c t
    split at h
    · exact leavesEnd_startTag h
    · split at h
      · rename_i hc
        rw [← Except.ok.inj h, eq_of_beq hc]
        exact leavesEnd_endTag final t
      · split at h
        · cases hd : declaration t with
          | error e => simp [hd, Except.map] at h
          | ok o =>
            rw [hd] at h
            rw [← Except.ok.inj h]
            refine leavesEnd_hide final fun rest ho ↦ ?_
            subst ho
            exact (suffix_of_declaration hd).trans (List.suffix_cons c t)
        · split at h
          · rw [← Except.ok.inj h]
            exact leavesEnd_hide final fun rest ho ↦
              (suffix_of_afterBracket? ho).trans (List.suffix_cons c t)
          · rw [← Except.ok.inj h]
            exact List.suffix_refl _

/-- So does a reference by code. -/
theorem leavesEnd_codeReference {t : List Char} {step : Step} (h : codeReference t = .ok step) :
    step.LeavesEnd '&' ('#' :: t) := by
  unfold codeReference at h
  split at h
  · rename_i href
    split at h
    · cases h
    · rw [← Except.ok.inj h]
      exact (suffix_of_codeReference? href).trans (List.suffix_cons _ _)
  · split at h
    · rw [← Except.ok.inj h]
      exact (List.suffix_cons _ _).trans (List.suffix_cons _ _)
    · rw [← Except.ok.inj h]
      exact List.suffix_refl _

/-- So does a reference by name. -/
theorem leavesEnd_namedReference (final : Bool) (r : List Char) :
    (namedReference final r).LeavesEnd '&' r := by
  unfold namedReference
  split
  · rename_i h
    exact suffix_of_nameReference? h
  · split
    · exact List.suffix_cons _ _
    · exact List.suffix_refl _

/-- So does any reference. -/
theorem leavesEnd_reference {final : Bool} {r : List Char} {step : Step}
    (h : reference final r = .ok step) : step.LeavesEnd '&' r := by
  unfold reference at h
  split at h
  · rw [← Except.ok.inj h]
    exact List.suffix_refl _
  · rename_i c t
    split at h
    · rename_i hc
      rw [eq_of_beq hc]
      exact leavesEnd_codeReference h
    · split at h
      · rw [← Except.ok.inj h]
        exact leavesEnd_namedReference final _
      · rw [← Except.ok.inj h]
        exact List.suffix_refl _

/-- **Every step leaves an end of the text.** -/
theorem leavesEnd_next {final : Bool} {c : Char} {r : List Char} {step : Step}
    (h : next final c r = .ok step) : step.LeavesEnd c r := by
  unfold next at h
  split at h
  · rename_i hc
    rw [eq_of_beq hc]
    exact leavesEnd_markup h
  · split at h
    · rename_i hc
      rw [eq_of_beq hc]
      exact leavesEnd_reference h
    · rw [← Except.ok.inj h]
      exact List.dropWhile_suffix _

end Step

/-! ### Reading all of a text -/

/-- The tokens of a text, read in the first phase or, when `final`, in the second. -/
def tokensFrom (final : Bool) (s : List Char) : Except Rejection (List Token) :=
  match s with
  | [] => .ok []
  | c :: r =>
    match h : Step.next final c r with
    | .error e => .error e
    | .ok (.proceed tokens rest) => (tokensFrom final rest).map (tokens ++ ·)
    | .ok (.stop tokens rest) =>
      if final then .ok (if rest.isEmpty then tokens else tokens ++ [.text rest])
      else (tokensFrom true rest).map (tokens ++ ·)
termination_by 2 * s.length + (if final then 0 else 1)
decreasing_by
  · have : rest.length ≤ r.length := (Step.leavesEnd_next h).length_le
    simp only [List.length_cons]
    omega
  · rename_i hf
    have : rest.length ≤ (c :: r).length := (Step.leavesEnd_next h).length_le
    simp only [List.length_cons, hf] at *
    simp
    omega

/-- What reading does with a text is decided by the step at its head. -/
theorem tokensFrom_cons (final : Bool) (c : Char) (r : List Char) :
    tokensFrom final (c :: r) =
      match Step.next final c r with
      | .error e => .error e
      | .ok (.proceed tokens rest) => (tokensFrom final rest).map (tokens ++ ·)
      | .ok (.stop tokens rest) =>
        if final then .ok (if rest.isEmpty then tokens else tokens ++ [.text rest])
        else (tokensFrom true rest).map (tokens ++ ·) := by
  rw [tokensFrom]
  cases Step.next final c r with
  | error e => rfl
  | ok step => cases step <;> rfl

/-- The tokens of a text. -/
def tokens (s : List Char) : Except Rejection (List Token) :=
  tokensFrom false s

end SafeMarkdown.Html
