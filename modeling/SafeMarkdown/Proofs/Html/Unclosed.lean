import SafeMarkdown.Proofs.Html.Block
import SafeMarkdown.Proofs.Html.Surroundings
import SafeMarkdown.Proofs.Outcome
import SafeMarkdown.Proofs.Syntax.Role

/-!
# Blocks that leave their element open

Whether an HTML block opens an element that it does not close is decided by its text: the spellings
of its start tag are counted against those of its end tag. Reading the block decides it too, by what
an element would stand inside that came right after the block.

The two need not agree (`unclosedTag?_ne_commentedEnd`). `unclosedTag?_iff_inside_iff` says when
they do, for every block that can be read. Two things come in between. The spellings in a text are
not its tags: `countWithin_isStartTagAt` and `countWithin_isEndTagAt` say by how much. And tags do
not always open and close what they name: that is `balance`. `hiddenOpenings` and `feignedOpenings`
collect what makes counting see too little and too much. Where neither occurs, counting and reading
agree (`unclosedTag?_iff_inside`).
-/

namespace SafeMarkdown.Html

open Syntax (unclosedTag? startTagName? beginsSelfClosed IsStartTagAt IsEndTagAt ClosesAtOnce)

/-- What makes counting see fewer open elements of that name than are read: end tags that find none
to close, spellings of end tags that are not read, and start tags that are not spelled out in the
trimmed block. -/
def hiddenOpenings (tag : String) (s : List Char) (ps : List Piece) : Nat :=
  straysFrom tag [] (tokensOf ps) + unread (IsEndTagAt tag) (Token.closes tag) ps +
    cutOffStarts tag s

/-- What makes counting see more open elements of that name than are read: those that are closed
along with one around them or by their own start tag, spellings of start tags that are not read, and
end tags that are read where none is spelled. -/
def feignedOpenings (tag : String) (ps : List Piece) : Nat :=
  sweptFrom tag [] (tokensOf ps) + (tokensOf ps).countP (Token.closesItself tag) +
    unread (IsStartTagAt tag) (Token.begins tag) ps + loose (IsEndTagAt tag) (Token.closes tag) ps

theorem unclosedTag?_eq_some_iff {s : List Char} {tag : String}
    (hstart : startTagName? (Text.trim s) = some tag) (hvoid : tag ∉ Markup.voidTags) :
    unclosedTag? s = some tag ↔ ¬ ClosesAtOnce (Text.trim s) ∧
      countWithin (IsEndTagAt tag) (Text.trim s) [] <
        countWithin (IsStartTagAt tag) (Text.trim s) [] := by
  rw [← Syntax.beginsSelfClosed_iff, ← countSuffixes_eq fun _ ↦ Syntax.beginsEndTag_iff,
    ← countSuffixes_eq fun _ ↦ Syntax.beginsStartTag_iff]
  simp only [unclosedTag?, hstart, hvoid, decide_false, Bool.false_or]
  cases beginsSelfClosed (Text.trim s) <;> simp

section Agreement

variable {source tag : String} {ps : List Piece}

/-- **What counting decides**, in terms of how the block is read, with an element after it. -/
theorem unclosedTag?_iff_balance (hstart : startTagName? (Text.trim source.toList) = some tag)
    (hvoid : tag ∉ voidTags) (hraw : tag ∉ rawTextTags)
    (hps : pieces (source ++ "<x-probe></x-probe>").toList = .ok ps) :
    unclosedTag? source.toList = some tag ↔ ¬ ClosesAtOnce (Text.trim source.toList) ∧
      hiddenOpenings tag source.toList ps <
        (leftOpen (tokensOf ps)).count tag + feignedOpenings tag ps := by
  have htag := isPlainName_of_startTagName? hstart
  have hshape : "<x-probe></x-probe>".toList = '<' :: "x-probe></x-probe>".toList := rfl
  -- the spellings in the text with the element after it, by how they are read
  have hstarts := countWithin_isStartTagAt hps htag hraw
  have hends := countWithin_isEndTagAt hps htag hraw
  have hprobe := countWithin_probe_eq htag
  rw [String.toList_append, hshape] at hstarts hends
  rw [hshape] at hprobe
  -- the spellings in the trimmed block
  have hblockStarts := countWithin_isStartTagAt_block htag source.toList
    "x-probe></x-probe>".toList
  have hblockEnds := countWithin_isEndTagAt_block htag source.toList "x-probe></x-probe>".toList
  have hbegins := countP_begins tag (tokensOf ps)
  have hbalance := balance hvoid [] (tokensOf ps)
  rw [List.count_nil, Nat.zero_add] at hbalance
  rw [unclosedTag?_eq_some_iff hstart fun h ↦ hvoid (voidTags_subset h)]
  refine and_congr_right fun _ ↦ ?_
  unfold hiddenOpenings feignedOpenings leftOpen
  omega

/-- Counting and reading agree on a block in which no opening is hidden and none is feigned, if an
element after it is read. -/
theorem unclosedTag?_iff_inside {ts : List Token} {nodes : List Markup}
    (hstart : startTagName? (Text.trim source.toList) = some tag)
    (hvoid : tag ∉ voidTags) (hraw : tag ∉ rawTextTags)
    (hopens : ¬ ClosesAtOnce (Text.trim source.toList))
    (hps : pieces (source ++ "<x-probe></x-probe>").toList = .ok ps)
    (hread : tokensOf ps = ts ++ [.startTag "x-probe" [] false, .endTag "x-probe"])
    (hhidden : hiddenOpenings tag source.toList ps = 0) (hfeigned : feignedOpenings tag ps = 0)
    (hnodes : parse (source ++ "<x-probe></x-probe>") = .ok nodes) :
    unclosedTag? source.toList = some tag ↔ LastStandsInside "x-probe" tag nodes := by
  obtain ⟨qs, hqs, rfl⟩ := parse_eq_ok_iff.1 hnodes
  obtain rfl : ps = qs := Except.ok.inj (hps.symm.trans hqs)
  have hleft : leftOpen (ts ++ [.startTag "x-probe" [] false, .endTag "x-probe"]) =
      leftOpen ts := by
    rw [leftOpen, List.foldl_append]
    show openAfter (openAfter (leftOpen ts) (.startTag "x-probe" [] false)) (.endTag "x-probe") = _
    rw [openAfter_startTag_of_open (by decide), openAfter_endTag_of_mem List.mem_cons_self]
    simp
  rw [unclosedTag?_iff_balance hstart hvoid hraw hps, hhidden, hfeigned, hread,
    lastStandsInside_iff, hleft, Nat.add_zero, List.count_pos_iff]
  exact and_iff_right hopens

/-- **When counting agrees with reading.** Let a block begin with the start tag of an element that
is neither void nor raw text, and let it be read with an element after it. Whether the block opens a
bracket is decided by counting alone. If the element after the block is read inside one of the
name, counting agrees exactly when the block does not begin with a tag that closes itself and the
openings that are hidden from it are fewer than those that are left and those that are feigned. If
the element after the block is not read inside one of the name, or not at all, counting agrees
exactly when one of these fails. -/
theorem unclosedTag?_iff_inside_iff {nodes : List Markup}
    (hstart : startTagName? (Text.trim source.toList) = some tag)
    (hvoid : tag ∉ voidTags) (hraw : tag ∉ rawTextTags)
    (hnodes : parse (source ++ "<x-probe></x-probe>") = .ok nodes) :
    (Syntax.roleBlock source = .opening tag ↔ unclosedTag? source.toList = some tag) ∧
      ∃ ps, pieces (source ++ "<x-probe></x-probe>").toList = .ok ps ∧
        ((unclosedTag? source.toList = some tag ↔ LastStandsInside "x-probe" tag nodes) ↔
          (LastReadInside "x-probe" tag (tokensOf ps) →
            ¬ ClosesAtOnce (Text.trim source.toList) ∧
            hiddenOpenings tag source.toList ps <
              (leftOpen (tokensOf ps)).count tag + feignedOpenings tag ps) ∧
          (¬ LastReadInside "x-probe" tag (tokensOf ps) →
            ClosesAtOnce (Text.trim source.toList) ∨
            (leftOpen (tokensOf ps)).count tag + feignedOpenings tag ps ≤
              hiddenOpenings tag source.toList ps)) := by
  obtain ⟨ps, hps, rfl⟩ := parse_eq_ok_iff.1 hnodes
  refine ⟨?_, ps, hps, ?_⟩
  · rw [Syntax.roleBlock_eq_opening_iff, and_iff_right]
    exact Syntax.endTagName?_of_startTagName?_trim hstart
  · rw [lastStandsInside_treeOfTokens_iff, unclosedTag?_iff_balance hstart hvoid hraw hps]
    by_cases hinside : LastReadInside "x-probe" tag (tokensOf ps)
    · simp [hinside]
    · simp [hinside, or_iff_not_imp_left]

end Agreement

/-- A block that opens an element twice and closes it once, with an end tag in a comment and a start
tag in a value. -/
theorem unclosedTag?_nestedBlock :
    startTagName? (Text.trim "<div><!-- </div> --><div title='<div>'></div>\n".toList) =
        some "div" ∧
      "div" ∉ voidTags ∧ "div" ∉ rawTextTags ∧
      unclosedTag? "<div><!-- </div> --><div title='<div>'></div>\n".toList = some "div" ∧
      ∃ nodes, parse ("<div><!-- </div> --><div title='<div>'></div>\n" ++
          "<x-probe></x-probe>") = .ok nodes ∧
        LastStandsInside "x-probe" "div" nodes := by
  have hstart : startTagName? (Text.trim
      "<div><!-- </div> --><div title='<div>'></div>\n".toList) = some "div" := by decide
  have hcount : unclosedTag? "<div><!-- </div> --><div title='<div>'></div>\n".toList =
      some "div" := by decide
  have hread : (pieces ("<div><!-- </div> --><div title='<div>'></div>\n" ++
      "<x-probe></x-probe>").toList).map (fun ps ↦ (tokensOf ps, hiddenOpenings "div"
        "<div><!-- </div> --><div title='<div>'></div>\n".toList ps, feignedOpenings "div" ps)) =
      .ok ([.startTag "div" [] false, .hidden, .startTag "div" [("title", "<div>")] false,
        .endTag "div", .text ['\n']] ++
          .startTag "x-probe" [] false :: [.endTag "x-probe"], 1, 1) := by
    with_unfolding_all rfl
  obtain ⟨ps, hps, hmeasures⟩ := map_eq_ok_iff.1 hread
  obtain ⟨htokens, hmeasures⟩ := Prod.mk.inj hmeasures
  obtain ⟨hhidden, hfeigned⟩ := Prod.mk.inj hmeasures
  have hnodes := parse_eq_ok_iff.2 ⟨ps, hps, rfl⟩
  obtain ⟨-, qs, hqs, hagree⟩ :=
    unclosedTag?_iff_inside_iff hstart (by decide) (by decide) hnodes
  obtain rfl : ps = qs := Except.ok.inj (hps.symm.trans hqs)
  have hinside : LastReadInside "x-probe" "div" (tokensOf ps) :=
    ⟨_, _, _, _, htokens, by decide, by decide⟩
  refine ⟨hstart, by decide, by decide, hcount, _, hnodes, (hagree.2 ⟨fun _ ↦ ⟨by decide, ?_⟩,
    fun hnot ↦ absurd hinside hnot⟩).1 hcount⟩
  rw [hhidden, hfeigned, htokens]
  decide

/-- **An end tag in a comment is counted.** Reading the block leaves its element open, and counting
takes it for closed. -/
theorem unclosedTag?_ne_commentedEnd :
    startTagName? (Text.trim "<div class=\"a\"><!-- </div> -->\n".toList) = some "div" ∧
      "div" ∉ voidTags ∧ "div" ∉ rawTextTags ∧
      unclosedTag? "<div class=\"a\"><!-- </div> -->\n".toList = none ∧
      ∃ nodes, parse ("<div class=\"a\"><!-- </div> -->\n" ++ "<x-probe></x-probe>") = .ok nodes ∧
        LastStandsInside "x-probe" "div" nodes := by
  have hparse : parse ("<div class=\"a\"><!-- </div> -->\n" ++ "<x-probe></x-probe>") =
      .ok [.element "div" [("class", "a")] [.text "\n", .element "x-probe" [] []]] := by
    with_unfolding_all rfl
  exact ⟨by decide, by decide, by decide, by decide, _, hparse, ["div"], rfl, by decide⟩

end SafeMarkdown.Html
