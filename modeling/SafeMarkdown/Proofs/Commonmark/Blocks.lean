import SafeMarkdown.Commonmark.Block.OfLines

/-!
# The blocks that reading gives

Every rule for headings gives a level from one to six, and containers pass on what they contain, so
every heading at any depth has such a level (`regular_readText`).

There is one lemma for each rule of reading. A rule either gives no reading at all or a reading with
regular blocks (`RegularReading`), and a rule for a container takes the reader for its content as a
parameter, of which regularity is assumed (`Reader.Regular`). The rules are tried one after another,
so a block is read by the first that gives a reading (`regular_readBlock`), and a text is read by
repeating that. The induction that closes the circle between containers and their content is on the
depth that is left.
-/

namespace SafeMarkdown.Commonmark

mutual

/-- The headings at and below the block have a level from one to six. -/
def Block.Regular : Block → Prop
  | .heading level _ => 1 ≤ level ∧ level ≤ 6
  | .quote blocks => RegularBlocks blocks
  | .list _ _ items => RegularItems items
  | .paragraph _ | .fence _ _ | .code _ | .thematicBreak | .html _ => True

/-- The blocks of the list are regular. -/
def RegularBlocks : List Block → Prop
  | [] => True
  | b :: bs => b.Regular ∧ RegularBlocks bs

/-- The items of the list hold regular blocks. -/
def RegularItems : List (List Block) → Prop
  | [] => True
  | bs :: items => RegularBlocks bs ∧ RegularItems items

end

/-- Two lists of regular blocks make one. -/
theorem RegularBlocks.append {as bs : List Block} (ha : RegularBlocks as) (hb : RegularBlocks bs) :
    RegularBlocks (as ++ bs) := by
  induction as with
  | nil => exact hb
  | cons a as ih => exact ⟨ha.1, ih ha.2⟩

/-- A regular block is a regular list. -/
theorem regularBlocks_singleton {b : Block} (h : b.Regular) : RegularBlocks [b] :=
  ⟨h, trivial⟩

/-! ### Levels -/

/-- The marks of a heading are from one to six. -/
theorem level_of_headingMark? {s rest : List Char} {level : Nat}
    (h : headingMark? s = some (level, rest)) : 1 ≤ level ∧ level ≤ 6 := by
  unfold headingMark? at h
  simp only at h
  split at h
  · rename_i hlevel
    cases h
    simp only [Bool.and_eq_true, decide_eq_true_eq] at hlevel
    exact hlevel.1
  · cases h

/-- An underline stands for one of the first two levels. -/
theorem level_of_underlineLevel? {s : List Char} {level : Nat}
    (h : underlineLevel? s = some level) : 1 ≤ level ∧ level ≤ 6 := by
  unfold underlineLevel? at h
  split at h
  · cases h
  · split at h
    · split at h
      · cases h
        decide
      · split at h
        · cases h
          decide
        · cases h
    · cases h

/-- So does the underline that ends a heading of several lines. -/
theorem level_of_underlined? {m : Margin} {lines : List Line} {n level : Nat}
    (h : underlined? m lines = some (n, level)) : 1 ≤ level ∧ level ≤ 6 := by
  induction lines generalizing n with
  | nil => cases h
  | cons l ls ih =>
    -- the heading goes on, and the underline is that of the lines after the first
    have hfurther {f : Nat × Nat → Nat × Nat} (h : (underlined? m ls).map f = some (n, level))
        (hf : ∀ p, (f p).2 = p.2) : 1 ≤ level ∧ level ≤ 6 := by
      obtain ⟨p, hrest, hp⟩ := Option.map_eq_some_iff.1 h
      obtain rfl : p.2 = level := by rw [← hf, hp]
      exact ih hrest
    unfold underlined? at h
    simp only at h
    split at h
    · cases h
    · split at h
      · exact hfurther h fun _ ↦ rfl
      · split at h
        · rename_i level' hlevel
          cases h
          split at hlevel
          · exact level_of_underlineLevel? hlevel
          · cases hlevel
        · split at h
          · exact hfurther h fun _ ↦ rfl
          · cases h

/-! ### Rules -/

/-- The blocks of a reading are regular, if there is one. -/
def RegularReading (r? : Option Reading) : Prop :=
  ∀ r, r? = some r → RegularBlocks r.blocks

/-- The reader of a container gives regular blocks. -/
def Reader.Regular (inner : Reader) : Prop :=
  ∀ m lines, RegularBlocks (inner m lines).blocks

variable {m : Margin} {lines : List Line}

/-- An indented code block is no heading. -/
theorem regular_readCode? : RegularReading (readCode? m lines) := by
  intro r h
  unfold readCode? at h
  split at h
  · cases h
  · split at h
    · cases h
      exact regularBlocks_singleton trivial
    · cases h

/-- A fenced code block is no heading. -/
theorem regular_readFence? : RegularReading (readFence? m lines) := by
  intro r h
  unfold readFence? at h
  split at h
  · cases h
  · obtain ⟨mark, -, h⟩ := Option.bind_eq_some_iff.1 h
    cases h
    exact regularBlocks_singleton trivial

/-- A thematic break is no heading. -/
theorem regular_readBreak? : RegularReading (readBreak? m lines) := by
  intro r h
  unfold readBreak? at h
  split at h
  · cases h
  · split at h
    · cases h
      exact regularBlocks_singleton trivial
    · cases h

/-- A definition gives no block. -/
theorem regular_readDefinition? : RegularReading (readDefinition? m lines) := by
  intro r h
  unfold readDefinition? at h
  split at h
  · cases h
  · split at h
    · cases h
    · obtain ⟨d, -, h⟩ := Option.bind_eq_some_iff.1 h
      cases h
      trivial

/-- An HTML block is no heading. -/
theorem regular_readHtml? : RegularReading (readHtml? m lines) := by
  intro r h
  unfold readHtml? at h
  split at h
  · cases h
  · obtain ⟨form, -, h⟩ := Option.bind_eq_some_iff.1 h
    cases h
    exact regularBlocks_singleton trivial

/-- A heading with marks has the level that they stand for. -/
theorem regular_readHeading? : RegularReading (readHeading? m lines) := by
  intro r h
  unfold readHeading? at h
  split at h
  · cases h
  · obtain ⟨⟨level, rest⟩, hmark, h⟩ := Option.bind_eq_some_iff.1 h
    cases h
    unfold Margin.heading? at hmark
    split at hmark
    · cases hmark
    · exact regularBlocks_singleton (level_of_headingMark? hmark)

/-- An underlined heading has the level of its underline. -/
theorem regular_readUnderlined? : RegularReading (readUnderlined? m lines) := by
  intro r h
  unfold readUnderlined? at h
  split at h
  · cases h
  · split at h
    · cases h
    · obtain ⟨⟨n, level⟩, hline, h⟩ := Option.bind_eq_some_iff.1 h
      cases h
      exact regularBlocks_singleton (level_of_underlined? hline)

/-- A paragraph is no heading. -/
theorem regular_readParagraph : RegularBlocks (readParagraph m lines).blocks := by
  unfold readParagraph
  split
  · trivial
  · exact regularBlocks_singleton trivial

/-- A quotation has the blocks that the reader gives for its content. -/
theorem regular_readQuote? {inner : Reader} (hinner : inner.Regular) :
    RegularReading (readQuote? inner m lines) := by
  intro r h
  unfold readQuote? at h
  split at h
  · cases h
  · obtain ⟨q, -, h⟩ := Option.bind_eq_some_iff.1 h
    cases h
    exact regularBlocks_singleton (hinner _ _)

/-- So has an item of a list. -/
theorem regular_readItem {inner : Reader} (hinner : inner.Regular) (width : Nat) :
    RegularBlocks (readItem inner m width lines).blocks := by
  unfold readItem
  split
  · trivial
  · simp only
    split
    · trivial
    · exact hinner _ _

/-- And so have all items of a list, as long as another one follows. -/
theorem regular_readItems {inner : Reader} (hinner : inner.Regular) (fuel : Nat)
    (marker : ListMarker) (blankEnd : Bool) (lines : List Line) :
    RegularItems (readItems inner m fuel marker blankEnd lines).items := by
  induction fuel generalizing marker blankEnd lines with
  | zero => trivial
  | succ fuel ih =>
    unfold readItems
    refine ⟨regular_readItem hinner _, ?_⟩
    split
    · exact ih _ _ _
    · trivial

/-- A list has the blocks of its items. -/
theorem regular_readList? {inner : Reader} (hinner : inner.Regular) :
    RegularReading (readList? inner m lines) := by
  intro r h
  unfold readList? at h
  split at h
  · cases h
  · obtain ⟨marker, -, h⟩ := Option.bind_eq_some_iff.1 h
    cases h
    exact regularBlocks_singleton (regular_readItems hinner _ _ _ _)

/-! ### All blocks -/

/-- Of two rules that are regular, the first that applies is. -/
theorem RegularReading.orElse {r? s? : Option Reading} (hr : RegularReading r?)
    (hs : RegularReading s?) : RegularReading (r? <|> s?) := by
  intro r h
  cases r? with
  | none => exact hs r h
  | some r' => exact hr r h

/-- What is read when a rule may not apply is regular, if what is read instead is. -/
theorem RegularReading.getD {r? : Option Reading} {d : Reading} (hr : RegularReading r?)
    (hd : RegularBlocks d.blocks) : RegularBlocks (r?.getD d).blocks := by
  cases r? with
  | none => exact hd
  | some r => exact hr r rfl

variable {inQuote inItem : Reader}

/-- A block is read by the first rule that applies, or as a paragraph. -/
theorem regular_readBlock (hquote : inQuote.Regular) (hitem : inItem.Regular) (m : Margin)
    (lines : List Line) : RegularBlocks (readBlock inQuote inItem m lines).blocks := by
  refine RegularReading.getD ?_ regular_readParagraph
  exact regular_readCode?.orElse <| regular_readFence?.orElse <|
    (regular_readQuote? hquote).orElse <| regular_readBreak?.orElse <|
    (regular_readList? hitem).orElse <| regular_readDefinition?.orElse <|
    regular_readHtml?.orElse <| regular_readHeading?.orElse regular_readUnderlined?

/-- Reading goes on block by block, over the blank lines in between. -/
theorem regular_readBlocks (hquote : inQuote.Regular) (hitem : inItem.Regular) (m : Margin)
    (fuel : Nat) (blank tight : Bool) (lines : List Line) :
    RegularBlocks (readBlocks inQuote inItem m fuel blank tight lines).blocks := by
  induction fuel generalizing blank tight lines with
  | zero => trivial
  | succ fuel ih =>
    unfold readBlocks
    simp only
    split
    · trivial
    · split
      · trivial
      · exact (regular_readBlock hquote hitem m _).append (ih _ _ _)

/-- The reader for what lies too deep gives no blocks. -/
theorem regular_skipBlocks : Reader.Regular skipBlocks := by
  intro m lines
  unfold skipBlocks
  simp only
  split
  · trivial
  · trivial

/-- A reader gives regular blocks, however many levels it may open. -/
theorem regular_reader : ∀ room : Nat, (reader room).Regular
  | 0 => regular_skipBlocks
  | 1 => fun m lines ↦ regular_readBlocks regular_skipBlocks regular_skipBlocks m _ _ _ lines
  | room + 2 => fun m lines ↦
    regular_readBlocks (regular_reader (room + 1)) (regular_reader room) m _ _ _ lines

/-- **The headings of a text have a level from one to six**, at every depth. -/
theorem regular_readText (s : List Char) : RegularBlocks (readText s).1 :=
  regular_reader levelLimit _ _

end SafeMarkdown.Commonmark
