import Mathlib.Data.List.Basic
import SafeMarkdown.Proofs.Markup.Preorder
import SafeMarkdown.Proofs.Markup.Tags
import SafeMarkdown.Text.Case

/-!
# End tags inside written content

Inside `script` and `style` a reader heeds nothing but the beginning of the end tag of the very
element, in any case. `HoldsEndTag` says that a text has such a beginning somewhere.

The content of an element is written in pieces, and the question is which of them can hold the end
tag. `holdsEndTag_content_iff` gives the answer for markup whose names hold no slash: it is held
by a run of texts that are written as they are, or by the end tag of an element inside whose own
name begins with the same letters, and by nothing else. Start tags, attribute values and escaped
text never hold it, and no two neighbouring pieces make one together.

The argument is about the two characters that an end tag begins with. An escaped text has no left
bracket, a start tag has one but no slash behind it, and so the end tag must begin where a piece
begins that is an end tag itself or a text written as it is. That two pieces do not make one
together is the case that takes care: a text could end in a left bracket, but what is written next
begins with a bracket of its own, or is text and belongs to the same run.
-/

namespace SafeMarkdown.Markup

variable {t : String} {a b s : List Char}

/-- An end tag of `t`, in any case, begins at the head of the text. -/
def BeginsEndTag (t : String) : List Char → Prop
  | '<' :: '/' :: r => t.toList <+: Text.asciiLower r
  | _ => False

/-- An end tag of `t`, in any case, begins somewhere in the text. -/
def HoldsEndTag (t : String) : List Char → Prop
  | [] => False
  | c :: r => BeginsEndTag t (c :: r) ∨ HoldsEndTag t r

/-- The name holds no angle bracket. -/
structure Bracketless (t : String) : Prop where
  lt_not_mem : '<' ∉ t.toList
  gt_not_mem : '>' ∉ t.toList

/-- The names of raw text elements hold no bracket. -/
theorem bracketless_of_mem_rawTextTags (h : t ∈ rawTextTags) : Bracketless t := by
  have hlt : ∀ t ∈ rawTextTags, '<' ∉ t.toList := by decide
  have hgt : ∀ t ∈ rawTextTags, '>' ∉ t.toList := by decide
  exact ⟨hlt t h, hgt t h⟩

/-! ### Pieces of text -/

/-- An end tag begins with a bracket, a slash and the name in any case. -/
theorem beginsEndTag_iff :
    BeginsEndTag t s ↔ ∃ r, s = '<' :: '/' :: r ∧ t.toList <+: Text.asciiLower r := by
  unfold BeginsEndTag
  split <;> simp_all

/-- An end tag in a text is there whatever comes before. -/
theorem HoldsEndTag.append_left (h : HoldsEndTag t b) : HoldsEndTag t (a ++ b) := by
  induction a with
  | nil => exact h
  | cons c a ih => exact .inr ih

/-- One at the head of a text is there whatever comes after. -/
theorem BeginsEndTag.append_right (h : BeginsEndTag t a) : BeginsEndTag t (a ++ b) := by
  obtain ⟨r, rfl, hr⟩ := beginsEndTag_iff.1 h
  refine beginsEndTag_iff.2 ⟨r ++ b, rfl, ?_⟩
  rw [Text.asciiLower, List.map_append]
  exact hr.trans (List.prefix_append _ _)

/-- So is one anywhere in it. -/
theorem HoldsEndTag.append_right (h : HoldsEndTag t a) : HoldsEndTag t (a ++ b) := by
  induction a with
  | nil => exact h.elim
  | cons c a ih =>
    rcases h with h | h
    · exact .inl h.append_right
    · exact .inr (ih h)

/-- A text holds an end tag where the mark and the name follow one another somewhere in it. -/
theorem holdsEndTag_iff :
    HoldsEndTag t s ↔
      ∃ before name after, s = before ++ '<' :: '/' :: (name ++ after) ∧
        Text.asciiLower name = t.toList := by
  constructor
  · intro h
    induction s with
    | nil => exact h.elim
    | cons c s ih =>
      rcases h with h | h
      · obtain ⟨r, hs, hr⟩ := beginsEndTag_iff.1 h
        obtain ⟨name, after, rfl, hname, -⟩ :=
          List.append_eq_map_iff.1 (show _ ++ _ = r.map Char.toLower from hr.choose_spec)
        exact ⟨[], name, after, hs, hname⟩
      · obtain ⟨before, name, after, rfl, hname⟩ := ih h
        exact ⟨c :: before, name, after, rfl, hname⟩
  · rintro ⟨before, name, after, rfl, hname⟩
    refine HoldsEndTag.append_left (.inl ?_)
    refine beginsEndTag_iff.2 ⟨name ++ after, rfl, ?_⟩
    rw [← hname, Text.asciiLower, Text.asciiLower, List.map_append]
    exact List.prefix_append _ _

/-- A prefix that lacks a character of the first part ends inside that part. -/
theorem prefix_of_prefix_append {p x y : List Char} {c : Char} (h : p <+: x ++ y) (hc : c ∈ x)
    (hp : c ∉ p) : p <+: x := by
  rcases List.prefix_or_prefix_of_prefix h (List.prefix_append x y) with h | h
  · exact h
  · exact absurd (h.subset hc) hp

/-- Where the second piece begins with `<`, an end tag does not run from one piece to the next. -/
theorem holdsEndTag_append_cons (ht : Bracketless t) :
    HoldsEndTag t (a ++ '<' :: b) ↔ HoldsEndTag t a ∨ HoldsEndTag t ('<' :: b) := by
  refine ⟨fun h ↦ ?_, fun h ↦ h.elim .append_right .append_left⟩
  induction a with
  | nil => exact .inr h
  | cons c a ih =>
    rcases h with h | h
    · obtain ⟨r, hs, hr⟩ := beginsEndTag_iff.1 h
      cases a with
      | nil => simp at hs
      | cons d a =>
        -- the end tag begins in the first piece, and its name cannot run over the bracket
        obtain ⟨rfl, rfl, rfl⟩ : c = '<' ∧ d = '/' ∧ a ++ '<' :: b = r := by simpa using hs
        rw [Text.asciiLower, List.map_append, List.map_cons, List.append_cons] at hr
        have hr := prefix_of_prefix_append hr
          (List.mem_append_right _ (List.mem_singleton_self _)) ht.lt_not_mem
        rcases List.prefix_concat_iff.1 hr with hr | hr
        · exact absurd (hr ▸ List.mem_append_right _ (by decide)) ht.lt_not_mem
        · exact .inl (.inl (beginsEndTag_iff.2 ⟨a, rfl, hr⟩))
    · exact (ih h).imp_left .inr

/-- Where the first piece ends with `>`, an end tag does not run from one piece to the next. -/
theorem holdsEndTag_concat_append (ht : Bracketless t) :
    HoldsEndTag t (a ++ ['>'] ++ b) ↔ HoldsEndTag t (a ++ ['>']) ∨ HoldsEndTag t b := by
  refine ⟨fun h ↦ ?_, fun h ↦ h.elim .append_right .append_left⟩
  induction a with
  | nil =>
    rcases h with h | h
    · simp [beginsEndTag_iff] at h
    · exact .inr h
  | cons c a ih =>
    rcases h with h | h
    · obtain ⟨r, hs, hr⟩ := beginsEndTag_iff.1 h
      cases a with
      | nil => simp at hs
      | cons d a =>
        obtain ⟨rfl, rfl, rfl⟩ : c = '<' ∧ d = '/' ∧ a ++ ['>'] ++ b = r := by simpa using hs
        rw [Text.asciiLower, List.map_append] at hr
        have hr := prefix_of_prefix_append (c := '>') hr
          (List.mem_map.2 ⟨'>', by simp, by decide⟩) ht.gt_not_mem
        exact .inl (.inl (beginsEndTag_iff.2 ⟨a ++ ['>'], rfl, hr⟩))
    · exact (ih h).imp_left .inr

/-- A piece without `<` holds no end tag, and none begins in it. -/
theorem holdsEndTag_append_of_lt_not_mem (ha : '<' ∉ a) :
    HoldsEndTag t (a ++ b) ↔ HoldsEndTag t b := by
  refine ⟨fun h ↦ ?_, .append_left⟩
  induction a with
  | nil => exact h
  | cons c a ih =>
    rw [List.mem_cons, not_or] at ha
    rcases h with h | h
    · obtain ⟨r, hs, -⟩ := beginsEndTag_iff.1 h
      exact absurd (List.cons.inj hs).1.symm ha.1
    · exact ih ha.2 h

/-- A piece without `/` holds no end tag, and none begins in it where the next piece does not
begin with `/`. -/
theorem holdsEndTag_append_of_slash_not_mem {d : Char} (ha : '/' ∉ a) (hd : d ≠ '/') :
    HoldsEndTag t (a ++ d :: b) ↔ HoldsEndTag t (d :: b) := by
  refine ⟨fun h ↦ ?_, .append_left⟩
  induction a with
  | nil => exact h
  | cons c a ih =>
    rw [List.mem_cons, not_or] at ha
    rcases h with h | h
    · obtain ⟨r, hs, -⟩ := beginsEndTag_iff.1 h
      cases a with
      | nil => exact absurd (List.cons.inj (List.cons.inj hs).2).1 hd
      | cons e a => exact absurd (List.cons.inj (List.cons.inj hs).2).1.symm (by simp_all)
    · exact ih ha.2 h

/-! ### Pieces of markup -/

/-- The maximal runs of adjacent texts of a list of nodes, each as one text. The run before the
first element, after the last and between two that are adjacent may be empty. -/
def textRuns : List Markup → List (List Char)
  | [] => [[]]
  | text value :: ns => (textRuns ns).modifyHead (value.toList ++ ·)
  | element .. :: ns => [] :: textRuns ns

/-- The node itself brings the end tag of `t` about: its own name begins with `t`, or a run of
texts directly inside it is written as it is and holds the end tag. -/
def SpellsEndTag (t : String) : Markup → Prop
  | text _ => False
  | element tag _ children =>
    t.toList <+: Text.asciiLower tag.toList ∨
      (tag ∈ rawTextTags ∧ ∃ run ∈ textRuns children, HoldsEndTag t run)

/-- The names that hold no slash. -/
def slashFree : Vocabulary where
  tag t := '/' ∉ t.toList
  attr _ n := '/' ∉ n.toList

/-- Where no bracket stands, there is no end tag. -/
theorem not_holdsEndTag_of_lt_not_mem (h : '<' ∉ s) : ¬ HoldsEndTag t s := by
  have := holdsEndTag_append_of_lt_not_mem (t := t) (b := []) h
  rw [List.append_nil] at this
  exact fun hs ↦ this.1 hs

/-- A written attribute adds none, if its name has no slash. -/
theorem holdsEndTag_attrChars_append {attr : Attr} (h : '/' ∉ attr.1.toList) :
    HoldsEndTag t (attrChars attr ++ b) ↔ HoldsEndTag t b := by
  have hname : '/' ∉ ' ' :: attr.1.toList ++ ['='] := by simp [h]
  have hvalue : '<' ∉ '"' :: escape attr.2.toList ++ ['"'] := by simp [lt_not_mem_escape]
  -- the slash can stand in the value only, and the bracket in neither part
  have hsplit : attrChars attr ++ b =
      (' ' :: attr.1.toList ++ ['=']) ++ '"' :: (escape attr.2.toList ++ '"' :: b) := by
    simp [attrChars]
  have hsplit' : '"' :: (escape attr.2.toList ++ '"' :: b) =
      ('"' :: escape attr.2.toList ++ ['"']) ++ b := by simp
  rw [hsplit, holdsEndTag_append_of_slash_not_mem hname (by decide), hsplit',
    holdsEndTag_append_of_lt_not_mem hvalue]

/-- A start tag whose names hold no slash holds no end tag. -/
theorem not_holdsEndTag_startTag {tag : String} {attrs : List Attr} (ht : '/' ∉ tag.toList)
    (ha : ∀ a ∈ attrs, '/' ∉ a.1.toList) : ¬ HoldsEndTag t (startTag tag attrs) := by
  have hattrs : ¬ HoldsEndTag t (attrs.flatMap attrChars ++ ['>']) := by
    induction attrs with
    | nil => exact not_holdsEndTag_of_lt_not_mem (by decide)
    | cons a attrs ih =>
      rw [List.flatMap_cons, List.append_assoc, holdsEndTag_attrChars_append (ha a (by simp))]
      exact ih fun a hmem ↦ ha a (by simp [hmem])
  have hname : '/' ∉ '<' :: tag.toList := by simp [ht]
  rw [startTag, List.append_assoc]
  -- after the name comes a space or the closing bracket, and never a slash
  cases attrs with
  | nil => rwa [List.flatMap_nil, List.nil_append, holdsEndTag_append_of_slash_not_mem hname
      (by decide)]
  | cons a attrs =>
    rw [List.flatMap_cons, attrChars] at hattrs ⊢
    simp only [List.cons_append] at hattrs ⊢
    rwa [← List.cons_append, holdsEndTag_append_of_slash_not_mem hname (by decide)]

/-- An end tag whose name holds no slash holds that of `t` where its name begins with `t`. -/
theorem holdsEndTag_endTag {tag : String} (hb : Bracketless t) (ht : '/' ∉ tag.toList) :
    HoldsEndTag t (endTag tag) ↔ t.toList <+: Text.asciiLower tag.toList := by
  have hrest : ¬ HoldsEndTag t ('/' :: tag.toList ++ ['>']) := by
    rintro (h | h)
    · simp [beginsEndTag_iff] at h
    · rw [List.append_eq, holdsEndTag_append_of_slash_not_mem ht (by decide)] at h
      exact not_holdsEndTag_of_lt_not_mem (by decide) h
  constructor
  · rintro (h | h)
    · obtain ⟨r, hs, hr⟩ := beginsEndTag_iff.1 h
      obtain rfl : tag.toList ++ ['>'] = r := by simpa using hs
      rw [Text.asciiLower, List.map_append] at hr
      rcases List.prefix_concat_iff.1 hr with hr | hr
      · exact absurd (hr ▸ List.mem_append_right _ (by decide)) hb.gt_not_mem
      · exact hr
    · exact absurd h hrest
  · intro h
    refine .inl (beginsEndTag_iff.2 ⟨tag.toList ++ ['>'], by simp, ?_⟩)
    rw [Text.asciiLower, List.map_append]
    exact h.trans (List.prefix_append _ _)

/-! ### The content of an element -/

/-- An element is written in the same way everywhere. -/
theorem chars_element (raw : Bool) (tag : String) (attrs : List Attr) (children : List Markup) :
    chars raw (.element tag attrs children) = chars false (.element tag attrs children) := by
  simp only [chars]

/-- An element is written between angle brackets, whether it has an end tag or not. -/
theorem exists_chars_element (tag : String) (attrs : List Attr) (children : List Markup) :
    ∃ inner, chars false (.element tag attrs children) = '<' :: inner ++ ['>'] := by
  rw [chars]
  split
  · exact ⟨tag.toList ++ attrs.flatMap attrChars, by simp [startTag]⟩
  · exact ⟨tag.toList ++ attrs.flatMap attrChars ++ '>' ::
      (listChars (tag ∈ rawTextTags) children ++ '<' :: '/' :: tag.toList),
      by simp [startTag, endTag]⟩

/-- Nothing in front of the first run changes nothing. -/
theorem modifyHead_nil_append (runs : List (List Char)) : runs.modifyHead ([] ++ ·) = runs := by
  cases runs <;> rfl

/-- What is said of the end tags in the characters of a node. -/
abbrev ByNodes (t : String) (n : Markup) : Prop :=
  HoldsEndTag t (chars false n) ↔ ∃ m ∈ n.preorder, SpellsEndTag t m

/-- Where texts are escaped, only the tags of elements matter. -/
theorem holdsEndTag_listChars_false (ht : Bracketless t) {nodes : List Markup}
    (h : All (ByNodes t) nodes) :
    HoldsEndTag t (listChars false nodes) ↔ ∃ m ∈ preorders nodes, SpellsEndTag t m := by
  induction nodes with
  | nil => simp [listChars, preorders, HoldsEndTag]
  | cons n ns ih =>
    obtain ⟨hn, hns⟩ := List.forall_mem_cons.1 h
    rw [listChars, exists_mem_preorders_cons, ← show _ ↔ _ from hn, ← ih hns]
    cases n with
    | text value =>
      have hlt := lt_not_mem_escape value.toList
      simp only [chars, Bool.false_eq_true, if_false]
      rw [holdsEndTag_append_of_lt_not_mem hlt]
      simp [not_holdsEndTag_of_lt_not_mem hlt]
    | element tag attrs children =>
      obtain ⟨inner, hinner⟩ := exists_chars_element tag attrs children
      rw [hinner, holdsEndTag_concat_append ht]

/-- Directly inside an element whose text is written as it is. The induction is on the nodes; `a`
is the part of a run of texts that has been passed already. -/
theorem holdsEndTag_append_listChars_true (ht : Bracketless t) {nodes : List Markup}
    (h : All (ByNodes t) nodes) (a : List Char) :
    HoldsEndTag t (a ++ listChars true nodes) ↔
      (∃ run ∈ (textRuns nodes).modifyHead (a ++ ·), HoldsEndTag t run) ∨
        ∃ m ∈ preorders nodes, SpellsEndTag t m := by
  induction nodes generalizing a with
  | nil => simp [listChars, preorders, textRuns]
  | cons n ns ih =>
    obtain ⟨hn, hns⟩ := List.forall_mem_cons.1 h
    rw [listChars, exists_mem_preorders_cons]
    cases n with
    | text value =>
      simp only [chars, if_true, textRuns, List.modifyHead_modifyHead]
      rw [← List.append_assoc, ih hns]
      simp [preorder, SpellsEndTag, Function.comp_def]
    | element tag attrs children =>
      obtain ⟨inner, hinner⟩ := exists_chars_element tag attrs children
      have hrest := ih hns []
      rw [List.nil_append, modifyHead_nil_append] at hrest
      rw [← show _ ↔ _ from hn, textRuns, List.modifyHead_cons, chars_element, hinner,
        List.cons_append, List.cons_append, holdsEndTag_append_cons ht, ← List.cons_append,
        ← List.cons_append, holdsEndTag_concat_append ht, hrest]
      simp only [List.append_nil, List.mem_cons, exists_eq_or_imp, or_assoc, or_left_comm]

/-- Where texts are written as they are, the runs of text matter too. -/
theorem holdsEndTag_listChars_of_byNodes (ht : Bracketless t) {nodes : List Markup}
    (h : All (ByNodes t) nodes) (raw : Bool) :
    HoldsEndTag t (listChars raw nodes) ↔
      (raw = true ∧ ∃ run ∈ textRuns nodes, HoldsEndTag t run) ∨
        ∃ m ∈ preorders nodes, SpellsEndTag t m := by
  cases raw with
  | false => simp [holdsEndTag_listChars_false ht h]
  | true =>
    have := holdsEndTag_append_listChars_true ht h []
    rw [List.nil_append, modifyHead_nil_append] at this
    simpa using this

/-- A void element bears no name that begins with that of a raw text element. -/
theorem not_prefix_of_mem_voidTags {tag : String} (ht : t ∈ rawTextTags) (htag : tag ∈ voidTags) :
    ¬ t.toList <+: Text.asciiLower tag.toList := by
  have : ∀ t ∈ rawTextTags, ∀ tag ∈ voidTags, ¬ t.toList <+: Text.asciiLower tag.toList := by
    decide
  exact this t ht tag htag

mutual

/-- Names without a slash let the end tags be found node by node. -/
theorem byNodes_of_within (ht : t ∈ rawTextTags) : ∀ {n : Markup}, Within slashFree n → ByNodes t n
  | .text value, _ => by
    have hlt := lt_not_mem_escape value.toList
    simp [ByNodes, chars, preorder, SpellsEndTag, not_holdsEndTag_of_lt_not_mem hlt]
  | .element tag attrs children, h => by
    obtain ⟨htag, hattrs, hchildren⟩ := h
    have hb := bracketless_of_mem_rawTextTags ht
    have hstart : ¬ HoldsEndTag t (startTag tag attrs) := not_holdsEndTag_startTag htag hattrs
    have hcontent := holdsEndTag_listChars_of_byNodes hb (byNodes_of_allWithin ht hchildren)
      (tag ∈ rawTextTags)
    unfold ByNodes
    rw [chars, preorder]
    split
    · -- a void element without children has neither content nor an end tag
      rename_i hvoid
      obtain ⟨hvoid, rfl⟩ := hvoid
      simp [hstart, SpellsEndTag, not_prefix_of_mem_voidTags ht hvoid, preorders, textRuns,
        HoldsEndTag]
    · -- start tag, content and end tag are pieces that no end tag runs across
      have hend := holdsEndTag_endTag hb htag
      rw [endTag] at hend ⊢
      rw [List.append_assoc, startTag, holdsEndTag_concat_append hb, ← startTag,
        List.cons_append, holdsEndTag_append_cons hb, ← List.cons_append, hend, hcontent]
      simp only [hstart, false_or, decide_eq_true_eq, List.mem_cons, exists_eq_or_imp,
        SpellsEndTag, or_assoc, or_comm]

theorem byNodes_of_allWithin (ht : t ∈ rawTextTags) :
    ∀ {ns : List Markup}, AllWithin slashFree ns → All (ByNodes t) ns
  | [], _ => by simp [All]
  | _ :: _, h => List.forall_mem_cons.2
      ⟨byNodes_of_within ht h.1, byNodes_of_allWithin ht h.2⟩

end

/-- **What brings the end tag of a raw text element into its own content.** A run of texts directly
inside the element holds it, or a node further inside spells it; nothing else does. -/
theorem holdsEndTag_content_iff {nodes : List Markup} (ht : t ∈ rawTextTags)
    (h : All (Within slashFree) nodes) :
    HoldsEndTag t (listChars true nodes) ↔
      (∃ run ∈ textRuns nodes, HoldsEndTag t run) ∨ ∃ m ∈ preorders nodes, SpellsEndTag t m := by
  have := holdsEndTag_listChars_of_byNodes (bracketless_of_mem_rawTextTags ht)
    (byNodes_of_allWithin ht (allWithin_iff.2 h)) true
  simpa using this

end SafeMarkdown.Markup
