import SafeMarkdown.Markup.Html
import SafeMarkdown.Proofs.Markup.Vocabulary

/-!
# Where tags begin in written markup

A reader of HTML takes notice at a left angle bracket, so what written markup can do is settled by
the brackets in it. `Vocabulary.Tag` is the grammar of a tag that bears names of a vocabulary, given
by its characters and not through the serialiser; `Vocabulary.TagsOnly` says of a text that a tag of
the grammar begins at every left angle bracket. Markup within a vocabulary is written as such a text
(`tagsOnly_listChars`), provided that the names themselves hold no bracket and that none is the tag
of an element whose text is written as it is.
-/

namespace SafeMarkdown

/-- An attribute inside a tag, its value in written form. -/
def writtenAttr (a : String × List Char) : List Char :=
  ' ' :: a.1.toList ++ '=' :: '"' :: a.2 ++ ['"']

namespace Vocabulary

/-- The text is a start tag or an end tag that bears names of the vocabulary. The values of its
attributes hold no angle bracket and no double quote. -/
inductive Tag (v : Vocabulary) : List Char → Prop
  | startTag {t : String} {attrs : List (String × List Char)} (ht : v.tag t)
      (hname : ∀ a ∈ attrs, v.attr t a.1)
      (hvalue : ∀ a ∈ attrs, ∀ c ∈ a.2, c ≠ '<' ∧ c ≠ '>' ∧ c ≠ '"') :
      Tag v ('<' :: t.toList ++ attrs.flatMap writtenAttr ++ ['>'])
  | endTag {t : String} (ht : v.tag t) : Tag v ('<' :: '/' :: t.toList ++ ['>'])

/-- A tag of the vocabulary stands at the head of the text. -/
def BeginsTag (v : Vocabulary) (s : List Char) : Prop :=
  ∃ w, v.Tag w ∧ w <+: s

/-- A tag of the vocabulary begins at every left angle bracket of the text. -/
def TagsOnly (v : Vocabulary) (s : List Char) : Prop :=
  ∀ before after, s = before ++ '<' :: after → v.BeginsTag ('<' :: after)

/-- No name of the vocabulary holds a left angle bracket, and no tag is that of an element whose
text is written as it is. -/
structure Escapable (v : Vocabulary) : Prop where
  lt_not_mem_tag : ∀ t, v.tag t → '<' ∉ t.toList
  lt_not_mem_attr : ∀ t n, v.attr t n → '<' ∉ n.toList
  not_rawText : ∀ t, v.tag t → t ∉ Markup.rawTextTags

variable {v : Vocabulary}

/-- A tag at the head of a text is there whatever comes after. -/
theorem BeginsTag.append {a : List Char} (h : v.BeginsTag a) (b : List Char) :
    v.BeginsTag (a ++ b) := by
  obtain ⟨w, hw, hprefix⟩ := h
  exact ⟨w, hw, hprefix.trans (List.prefix_append a b)⟩

/-- Where no bracket stands, there is nothing to ask. -/
theorem tagsOnly_of_not_mem {s : List Char} (h : '<' ∉ s) : v.TagsOnly s := by
  rintro before after rfl
  simp at h

/-- Two texts in which tags only begin make one. -/
theorem TagsOnly.append {a b : List Char} (ha : v.TagsOnly a) (hb : v.TagsOnly b) :
    v.TagsOnly (a ++ b) := by
  intro before after h
  rcases List.append_eq_append_iff.1 h with ⟨m, rfl, rfl⟩ | ⟨m, rfl, hm⟩
  · exact hb m after rfl
  · -- the bracket stands in `a`, or at the very beginning of `b`
    cases m with
    | nil => exact hb [] after (by simpa using hm.symm)
    | cons c m =>
      obtain ⟨rfl, rfl⟩ := List.cons.inj hm
      exact (ha before m rfl).append b

/-- A tag has its one left angle bracket at its head. -/
theorem tagsOnly_of_tag {rest : List Char} (htag : v.Tag ('<' :: rest)) (hrest : '<' ∉ rest) :
    v.TagsOnly ('<' :: rest) := by
  intro before after h
  cases before with
  | nil =>
    rw [List.nil_append] at h
    exact ⟨'<' :: rest, htag, h ▸ List.prefix_refl _⟩
  | cons c before =>
    obtain ⟨-, rfl⟩ := List.cons.inj h
    simp at hrest

end Vocabulary

namespace Markup

variable {v : Vocabulary}

/-- Escaping leaves no bracket and no quote. -/
theorem ne_of_mem_escapeChar {c d : Char} (h : d ∈ escapeChar c) :
    d ≠ '<' ∧ d ≠ '>' ∧ d ≠ '"' := by
  unfold escapeChar at h
  split at h
  case h_6 hlt hgt hquote _ =>
    rw [List.mem_singleton] at h
    subst h
    exact ⟨hlt, hgt, hquote⟩
  all_goals
    simp only [List.mem_cons, List.not_mem_nil, or_false] at h
    rcases h with rfl | rfl | rfl | rfl | rfl <;> decide

/-- Escaping leaves no character that begins or ends a tag or a value. -/
theorem ne_of_mem_escape {s : List Char} {c : Char} (h : c ∈ escape s) :
    c ≠ '<' ∧ c ≠ '>' ∧ c ≠ '"' := by
  obtain ⟨d, -, hc⟩ := List.mem_flatMap.1 h
  exact ne_of_mem_escapeChar hc

/-- So an escaped text holds no left bracket. -/
theorem lt_not_mem_escape (s : List Char) : '<' ∉ escape s := fun h ↦
  (ne_of_mem_escape h).1 rfl

/-- The serialiser's start tag, with its attributes in written form. -/
theorem startTag_eq_written (tag : String) (attrs : List Attr) :
    startTag tag attrs =
      '<' :: tag.toList ++ (attrs.map fun a ↦ (a.1, escape a.2.toList)).flatMap writtenAttr ++
        ['>'] := by
  rw [startTag, List.flatMap_map]
  rfl

/-- A start tag that is written is a tag of the grammar. -/
theorem tag_startTag {tag : String} {attrs : List Attr} (ht : v.tag tag)
    (ha : ∀ a ∈ attrs, v.attr tag a.1) : v.Tag (startTag tag attrs) := by
  rw [startTag_eq_written]
  refine .startTag ht ?_ ?_
  · intro a hmem
    obtain ⟨b, hb, rfl⟩ := List.mem_map.1 hmem
    exact ha b hb
  · intro a hmem c hc
    obtain ⟨b, -, rfl⟩ := List.mem_map.1 hmem
    exact ne_of_mem_escape hc

/-- A written attribute holds no left bracket, if its name holds none. -/
theorem lt_not_mem_attrChars {a : Attr} (h : '<' ∉ a.1.toList) : '<' ∉ attrChars a := by
  simp [attrChars, h, lt_not_mem_escape]

/-- So a start tag begins one tag and no other. -/
theorem tagsOnly_startTag (hv : v.Escapable) {tag : String} {attrs : List Attr} (ht : v.tag tag)
    (ha : ∀ a ∈ attrs, v.attr tag a.1) : v.TagsOnly (startTag tag attrs) := by
  have htag := tag_startTag ht ha
  have hattrs : '<' ∉ attrs.flatMap attrChars := by
    intro h
    obtain ⟨a, hmem, h⟩ := List.mem_flatMap.1 h
    exact lt_not_mem_attrChars (hv.lt_not_mem_attr tag a.1 (ha a hmem)) h
  rw [startTag, List.cons_append, List.cons_append] at htag ⊢
  refine Vocabulary.tagsOnly_of_tag htag ?_
  simp [hv.lt_not_mem_tag tag ht, hattrs]

/-- So does an end tag. -/
theorem tagsOnly_endTag (hv : v.Escapable) {tag : String} (ht : v.tag tag) :
    v.TagsOnly (endTag tag) := by
  refine Vocabulary.tagsOnly_of_tag (.endTag ht) ?_
  simp [hv.lt_not_mem_tag tag ht]

mutual

/-- A node within an escapable vocabulary is written with tags of the vocabulary only. -/
theorem tagsOnly_chars (hv : v.Escapable) :
    ∀ {n : Markup}, Within v n → v.TagsOnly (chars false n)
  | .text value, _ => by
    rw [chars]
    exact Vocabulary.tagsOnly_of_not_mem (lt_not_mem_escape _)
  | .element tag attrs children, h => by
    obtain ⟨ht, ha, hc⟩ := h
    have hstart := tagsOnly_startTag hv ht ha
    have hcontent : v.TagsOnly (listChars (decide (tag ∈ rawTextTags)) children) := by
      rw [decide_eq_false (hv.not_rawText tag ht)]
      exact tagsOnly_listChars hv hc
    rw [chars]
    split
    · exact hstart
    · exact (hstart.append hcontent).append (tagsOnly_endTag hv ht)

/-- Markup within an escapable vocabulary is written with tags of the vocabulary only. -/
theorem tagsOnly_listChars (hv : v.Escapable) :
    ∀ {ns : List Markup}, AllWithin v ns → v.TagsOnly (listChars false ns)
  | [], _ => Vocabulary.tagsOnly_of_not_mem (by simp [listChars])
  | n :: ns, h => by
    obtain ⟨hn, hns⟩ := h
    rw [listChars]
    exact (tagsOnly_chars hv hn).append (tagsOnly_listChars hv hns)

end

end Markup

end SafeMarkdown
