import Mathlib.Algebra.GroupWithZero.Nat
import SafeMarkdown.Html.Tree
import SafeMarkdown.Proofs.Outcome

/-!
# The pieces of a text

Reading cuts a text into pieces, one for each step, and every piece gives its tokens. `pieces` keeps
the characters of a piece beside its tokens. The tokens of the pieces are those of the text
(`tokensFrom_eq`), and every piece is read by one step (`isStep_of_mem`).

The pieces also make up the text. So what is counted in a text place by place can be counted piece
by piece, and the places where a piece begins can be told from those inside one. That is what
compares a count of places with a count of tokens (`countWithin_add_loose`): some places are not
read as what is counted (`unread`), and some tokens are read where no place is counted (`loose`).

## Heads of pieces

A comparison of places with tokens needs to know where in a piece a token stands. For tags there is
one answer: a step that reads a tag reads it at the head of its piece, and no second one with the
same name. This is `Piece.ReadsAtHead`, assumed here and shown for tags where they are spelled out.
The token of a piece is then compared with the one place at its head, and all other places in the
piece are places where nothing is read.
-/

namespace SafeMarkdown.Html

/-- A part of a text that is read in one step. -/
structure Piece where
  /-- The characters of the piece. -/
  chars : List Char
  /-- The text after them. -/
  after : List Char
  /-- What they are read as. -/
  tokens : List Token
deriving Repr

namespace Piece

/-- The piece at the head of a text, up to where the rest begins. -/
def upTo (s rest : List Char) (tokens : List Token) : Piece :=
  ⟨s.take (s.length - rest.length), rest, tokens⟩

/-- The characters of the piece and all that follows them. -/
def whole (p : Piece) : List Char :=
  p.chars ++ p.after

theorem whole_upTo {s rest : List Char} (h : rest <:+ s) (tokens : List Token) :
    (upTo s rest tokens).whole = s := by
  obtain ⟨front, rfl⟩ := h
  simp [whole, upTo]

/-- The piece is read by one step. Where that stops, the rest may be taken in as text. -/
inductive IsStep (p : Piece) : Prop where
  | proceed {final : Bool} {c : Char} {r : List Char} (whole : p.whole = c :: r)
      (next : Step.next final c r = .ok (.proceed p.tokens p.after))
  | stop {final : Bool} {c : Char} {r ts rest : List _} (whole : p.whole = c :: r)
      (next : Step.next final c r = .ok (.stop ts rest))
      (tokens : p.tokens = ts ∨ p.tokens = ts ++ [.text rest])

end Piece

/-- The pieces of a text, read in the first phase or, when `final`, in the second. What the second
phase leaves is part of its last piece. -/
def piecesFrom (final : Bool) (s : List Char) : Except Rejection (List Piece) :=
  match s with
  | [] => .ok []
  | c :: r =>
    match h : Step.next final c r with
    | .error e => .error e
    | .ok (.proceed tokens rest) => (piecesFrom final rest).map (.upTo (c :: r) rest tokens :: ·)
    | .ok (.stop tokens rest) =>
      if final then .ok [⟨c :: r, [], if rest.isEmpty then tokens else tokens ++ [.text rest]⟩]
      else (piecesFrom true rest).map (.upTo (c :: r) rest tokens :: ·)
termination_by 2 * s.length + (if final then 0 else 1)
decreasing_by
  · have : rest.length ≤ r.length := (Step.leavesEnd_next h).length_le
    simp only [List.length_cons]
    omega
  · rename_i hf
    have : rest.length ≤ (c :: r).length := (Step.leavesEnd_next h).length_le
    simp only [List.length_cons, hf] at *
    simp
    omega

/-- The pieces of a text. -/
def pieces (s : List Char) : Except Rejection (List Piece) :=
  piecesFrom false s

/-- The tokens of pieces, in order. -/
def tokensOf (ps : List Piece) : List Token :=
  ps.flatMap Piece.tokens

theorem tokensOf_cons (p : Piece) (ps : List Piece) :
    tokensOf (p :: ps) = p.tokens ++ tokensOf ps :=
  rfl

/-- **The tokens of a text are those of its pieces.** -/
theorem tokensFrom_eq (final : Bool) (s : List Char) :
    tokensFrom final s = (piecesFrom final s).map tokensOf := by
  have hmap (x : Except Rejection (List Piece)) (p : Piece) :
      (x.map (p :: ·)).map tokensOf = (x.map tokensOf).map (p.tokens ++ ·) := by
    cases x <;> rfl
  fun_induction piecesFrom final s with
  | case1 =>
    rw [tokensFrom]
    rfl
  | case2 final c r e hnext =>
    rw [tokensFrom_cons, hnext]
    rfl
  | case3 final c r ts rest hnext ih =>
    rw [tokensFrom_cons, hnext, hmap, ← ih]
    rfl
  | case4 c r ts rest hnext =>
    rw [tokensFrom_cons, hnext]
    simp [Except.map, tokensOf]
  | case5 final c r ts rest hnext hfinal ih =>
    simp only [tokensFrom_cons, hnext, hmap, ← ih, if_neg hfinal]
    rfl

/-- A text is read as the tree of the tokens of its pieces. -/
theorem parse_eq_ok_iff {source : String} {nodes : List Markup} :
    parse source = .ok nodes ↔
      ∃ ps, pieces source.toList = .ok ps ∧ treeOfTokens (tokensOf ps) = nodes := by
  rw [parse, tokens, tokensFrom_eq, map_eq_ok_iff]
  constructor
  · rintro ⟨ts, hts, rfl⟩
    obtain ⟨ps, hps, rfl⟩ := map_eq_ok_iff.1 hts
    exact ⟨ps, hps, rfl⟩
  · rintro ⟨ps, hps, rfl⟩
    exact ⟨tokensOf ps, map_eq_ok_iff.2 ⟨ps, hps, rfl⟩, rfl⟩

section Pieces

variable {final : Bool} {s : List Char} {ps : List Piece}

/-- **Every piece is read by one step.** -/
theorem isStep_of_mem (h : piecesFrom final s = .ok ps) : ∀ p ∈ ps, p.IsStep := by
  fun_induction piecesFrom final s generalizing ps with
  | case1 =>
    cases h
    exact List.forall_mem_nil _
  | case2 => cases h
  | case3 final c r ts rest hnext ih =>
    obtain ⟨qs, hqs, rfl⟩ := map_eq_ok_iff.1 h
    have hrest : rest <:+ r := Step.leavesEnd_next hnext
    have hwhole := Piece.whole_upTo (hrest.trans (List.suffix_cons c r)) ts
    exact List.forall_mem_cons.2 ⟨.proceed hwhole hnext, ih hqs⟩
  | case4 c r ts rest hnext =>
    cases h
    refine List.forall_mem_singleton.2 (.stop (List.append_nil _) hnext ?_)
    cases rest with
    | nil => exact .inl rfl
    | cons d rest => exact .inr rfl
  | case5 final c r ts rest hnext hfinal ih =>
    obtain ⟨qs, hqs, rfl⟩ := map_eq_ok_iff.1 h
    have hrest : rest <:+ c :: r := Step.leavesEnd_next hnext
    exact List.forall_mem_cons.2 ⟨.stop (Piece.whole_upTo hrest ts) hnext (.inl rfl), ih hqs⟩

end Pieces

/-! ### Counting place by place -/

section Counting

variable (P : List Char → Prop) [DecidablePred P] (reads : Token → Bool)

/-- At how many places in a text, which `after` follows, what stands from there on satisfies `P`. -/
def countWithin : (s after : List Char) → Nat
  | [], _ => 0
  | c :: r, after => (if P (c :: r ++ after) then 1 else 0) + countWithin r after

namespace Piece

/-- How many places in a piece satisfy `P` and are not read as that: the places inside it, and its
beginning where no token of the piece is one that `reads` accepts. -/
def unread (p : Piece) : Nat :=
  match p.chars with
  | [] => 0
  | c :: r =>
    (if P (c :: r ++ p.after) ∧ ¬ p.tokens.any reads then 1 else 0) + countWithin P r p.after

/-- One for a piece that is read as something that `reads` accepts and does not satisfy `P`. -/
def loose (p : Piece) : Nat :=
  if p.tokens.any reads ∧ ¬ P p.whole then 1 else 0

/-- Of the tokens of a piece only the first can be one that `reads` accepts, and only in a piece
that holds a character. -/
structure ReadsAtHead (p : Piece) : Prop where
  tail : ∀ t ∈ p.tokens.tail, reads t = false
  chars : p.chars = [] → ∀ t ∈ p.tokens, reads t = false

end Piece

/-- How many places in the pieces satisfy `P` and are not read as that. -/
def unread (ps : List Piece) : Nat :=
  (ps.map (Piece.unread P reads)).sum

/-- How many pieces are read as something that `reads` accepts and do not satisfy `P`. -/
def loose (ps : List Piece) : Nat :=
  (ps.map (Piece.loose P reads)).sum

variable {P reads}

theorem countWithin_append (s t after : List Char) :
    countWithin P (s ++ t) after = countWithin P s (t ++ after) + countWithin P t after := by
  induction s with
  | nil => simp [countWithin]
  | cons c s ih => simp [countWithin, ih, Nat.add_assoc]

/-- A count over a text is the sum of the counts over its pieces. -/
theorem countWithin_eq_sum {final : Bool} {s : List Char} {ps : List Piece}
    (h : piecesFrom final s = .ok ps) :
    countWithin P s [] = (ps.map fun p ↦ countWithin P p.chars p.after).sum := by
  -- a piece and the text after it make up the whole
  have hstep {p : Piece} {t : List Char} (hwhole : p.whole = t) :
      countWithin P t [] = countWithin P p.chars p.after + countWithin P p.after [] := by
    rw [← hwhole, Piece.whole, countWithin_append, List.append_nil]
  fun_induction piecesFrom final s generalizing ps with
  | case1 =>
    cases h
    rfl
  | case2 => cases h
  | case3 final c r ts rest hnext ih =>
    obtain ⟨qs, hqs, rfl⟩ := map_eq_ok_iff.1 h
    have hrest : rest <:+ r := Step.leavesEnd_next hnext
    rw [hstep (Piece.whole_upTo (hrest.trans (List.suffix_cons c r)) ts), List.map_cons,
      List.sum_cons, ← ih hqs]
    rfl
  | case4 c r ts rest hnext =>
    cases h
    rfl
  | case5 final c r ts rest hnext hfinal ih =>
    obtain ⟨qs, hqs, rfl⟩ := map_eq_ok_iff.1 h
    have hrest : rest <:+ c :: r := Step.leavesEnd_next hnext
    rw [hstep (Piece.whole_upTo hrest ts), List.map_cons, List.sum_cons, ← ih hqs]
    rfl

theorem countP_of_tail {ts : List Token} (h : ∀ t ∈ ts.tail, reads t = false) :
    ts.countP reads = if ts.any reads then 1 else 0 := by
  cases ts with
  | nil => rfl
  | cons t ts =>
    have hnone : ∀ u ∈ ts, ¬ reads u = true := fun u hu ↦ Bool.eq_false_iff.1 (h u hu)
    rw [List.countP_cons, List.countP_eq_zero.2 hnone, List.any_cons, List.any_eq_false.2 hnone,
      Bool.or_false, Nat.zero_add]

/-- In one piece: the places that satisfy `P` are those that are read as that and those that are
not. -/
theorem Piece.countWithin_add_loose {p : Piece} (h : p.ReadsAtHead reads) :
    countWithin P p.chars p.after + p.loose P reads =
      p.tokens.countP reads + p.unread P reads := by
  rw [countP_of_tail h.tail]
  obtain ⟨chars, after, ts⟩ := p
  cases chars with
  | nil =>
    have hany : ts.any reads = false :=
      List.any_eq_false.2 fun t ht ↦ Bool.eq_false_iff.1 (h.chars rfl t ht)
    simp [loose, unread, countWithin, hany]
  | cons c r =>
    simp only [loose, unread, countWithin, whole, List.cons_append]
    by_cases hP : P (c :: (r ++ after))
    · by_cases hany : ts.any reads = true
      · simp [hP, hany]
      · simp [hP, hany]
    · by_cases hany : ts.any reads = true
      · simp [hP, hany, Nat.add_comm]
      · simp [hP, hany]

/-- **What is counted and what is read.** The places of a text that satisfy `P`, with the tokens
that are read where none does, are the tokens that `reads` accepts, with the places that are not
read as one. -/
theorem countWithin_add_loose {final : Bool} {s : List Char} {ps : List Piece}
    (h : piecesFrom final s = .ok ps) (hhead : ∀ p ∈ ps, p.ReadsAtHead reads) :
    countWithin P s [] + loose P reads ps =
      (tokensOf ps).countP reads + unread P reads ps := by
  rw [countWithin_eq_sum h]
  clear h
  induction ps with
  | nil => rfl
  | cons p ps ih =>
    obtain ⟨hp, hps⟩ := List.forall_mem_cons.1 hhead
    have hpiece := Piece.countWithin_add_loose (P := P) hp
    have hrest := ih hps
    simp only [loose, unread, tokensOf_cons, List.map_cons, List.sum_cons,
      List.countP_append] at hrest ⊢
    omega

end Counting

end SafeMarkdown.Html
