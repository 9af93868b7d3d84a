import Mathlib.Data.List.TakeWhile
import SafeMarkdown.Proofs.Text.Case
import SafeMarkdown.Proofs.Text.Split
import SafeMarkdown.Syntax.Tag

/-!
# What the roles of raw HTML say

A role is read off the source of a node. The lemmas here go back from the role to the source: which
tag the source begins with, and that a source which is an end tag begins with no start tag.

Two kinds of nodes have roles. Raw HTML in running text opens when it is a start tag that does not
close itself, and a block opens when it leaves its first element open; both close when they are an
end tag. So what is said of a source that closes is the same for both kinds, and what is said of one
that opens is not.
-/

namespace SafeMarkdown.Syntax

/-! ### Tag names -/

/-- The characters of a text that begins with a tag name are part of the name or stand after it. -/
theorem isTagNamePart_or_mem_of_tagName? {s rest : List Char} {name : String}
    (h : tagName? s = some (name, rest)) {d : Char} (hd : d ∈ s) :
    isTagNamePart d = true ∨ d ∈ rest := by
  unfold tagName? at h
  split at h
  · cases h
  · rename_i c r
    split at h
    · rename_i hc
      cases h
      rcases List.mem_cons.1 hd with rfl | hd
      · exact .inl (by simp [isTagNamePart, Char.isAlphanum, hc])
      · exact Text.mem_takeWhile_or_mem_dropWhile hd
    · cases h

/-- A tag name holds no slash. -/
theorem slash_not_mem_of_tagName? {s rest : List Char} {name : String}
    (h : tagName? s = some (name, rest)) : '/' ∉ name.toList := by
  intro hmem
  unfold tagName? at h
  split at h
  · cases h
  · rename_i c r
    split at h
    · rename_i hc
      cases h
      rw [String.toList_ofList] at hmem
      rcases List.mem_cons.1 (Text.mem_of_mem_asciiLower (by decide) hmem) with rfl | hmem
      · exact absurd hc (by decide)
      · exact absurd (List.mem_takeWhile_imp hmem) (by decide)
    · cases h

/-- The name of a start tag holds no slash. -/
theorem slash_not_mem_of_startTagName? {s : List Char} {name : String}
    (h : startTagName? s = some name) : '/' ∉ name.toList := by
  unfold startTagName? at h
  split at h
  · obtain ⟨⟨name, rest⟩, hname, rfl⟩ := Option.map_eq_some_iff.1 h
    exact slash_not_mem_of_tagName? hname
  · cases h

/-! ### End tags -/

/-- A source that is an end tag begins, once the blanks are gone, with a slash after the bracket. -/
theorem exists_trim_of_endTagName? {s : List Char} {name : String} (h : endTagName? s = some name) :
    ∃ r, Text.trim s = '<' :: '/' :: r := by
  unfold endTagName? at h
  split at h
  · rename_i r heq
    exact ⟨r, heq⟩
  · cases h

/-- An end tag begins with no start tag. -/
theorem startTagName?_of_endTagName? {s : List Char} {name : String}
    (h : endTagName? s = some name) : startTagName? s = none := by
  obtain ⟨r, hr⟩ := exists_trim_of_endTagName? h
  unfold startTagName?
  split
  · rename_i r'
    -- the text begins with the bracket, so nothing was trimmed before it
    obtain ⟨t, ht⟩ := Text.exists_trim_append (c := '<') (s := r') (by decide)
    rw [hr, List.cons_append, List.cons_append] at ht
    obtain rfl := (List.cons.inj ht).2
    rfl
  · rfl

/-- What begins with a start tag, once the blanks are gone, is no end tag. -/
theorem endTagName?_of_startTagName?_trim {s : List Char} {name : String}
    (h : startTagName? (Text.trim s) = some name) : endTagName? s = none := by
  refine Option.eq_none_iff_forall_ne_some.2 fun other hother ↦ ?_
  obtain ⟨r, hr⟩ := exists_trim_of_endTagName? hother
  rw [hr] at h
  cases h

/-- An end tag holds nothing but its brackets, its slash, its name and blanks. -/
theorem not_mem_of_endTagName? {s : List Char} {name : String} (h : endTagName? s = some name)
    {d : Char} (hblank : Text.isBlank d = false) (hname : isTagNamePart d = false)
    (hmark : d ∉ ['<', '/', '>']) : d ∉ s := by
  intro hmem
  replace hmem := (Text.isBlank_or_mem_trim hmem).resolve_left (Bool.eq_false_iff.1 hblank)
  rw [List.mem_cons, List.mem_cons, List.mem_singleton, not_or, not_or] at hmark
  obtain ⟨hopen, hslash, hclose⟩ := hmark
  unfold endTagName? at h
  split at h
  · rename_i r heq
    rw [heq, List.mem_cons, List.mem_cons] at hmem
    replace hmem := (hmem.resolve_left hopen).resolve_left hslash
    split at h
    · rename_i name' rest htag
      split at h
      · rename_i hrest
        have hmem := (isTagNamePart_or_mem_of_tagName? htag hmem).resolve_left
          (Bool.eq_false_iff.1 hname)
        have hmem := (Text.mem_takeWhile_or_mem_dropWhile (p := Text.isBlank) hmem).resolve_left
          (Bool.eq_false_iff.1 hblank)
        rw [hrest] at hmem
        exact hclose (List.mem_singleton.1 hmem)
      · cases h
    · cases h
  · cases h

/-! ### Roles -/

/-- A name that is found opens. -/
theorem TagRole.ofOpening?_eq_opening {found : Option String} {name : String} :
    ofOpening? found = .opening name ↔ found = some name := by
  cases found <;> simp [ofOpening?]

/-- And never closes. -/
theorem TagRole.ofOpening?_ne_closing {found : Option String} {name : String} :
    ofOpening? found ≠ .closing name := by
  cases found <;> simp [ofOpening?]

/-- **A piece in running text opens** when it begins with a start tag, is no end tag and does not
close itself. -/
theorem roleInline_eq_opening_iff {source name : String} :
    roleInline source = .opening name ↔
      endTagName? source.toList = none ∧ startTagName? source.toList = some name ∧
        isSelfClosing source.toList name = false := by
  unfold roleInline
  simp only
  split
  · rename_i other hend
    simp [hend]
  · rename_i hend
    simp [hend, TagRole.ofOpening?_eq_opening, Option.filter_eq_some_iff]

/-- **A block opens** when it leaves an element open and is no end tag. -/
theorem roleBlock_eq_opening_iff {source name : String} :
    roleBlock source = .opening name ↔
      endTagName? source.toList = none ∧ unclosedTag? source.toList = some name := by
  unfold roleBlock
  simp only
  split
  · rename_i other hend
    simp [hend]
  · rename_i hend
    simp [hend, TagRole.ofOpening?_eq_opening]

/-- An end tag in running text closes. -/
theorem roleInline_of_endTagName? {source name : String}
    (h : endTagName? source.toList = some name) : roleInline source = .closing name := by
  simp only [roleInline, h]

/-- So does an end tag that is a block. -/
theorem roleBlock_of_endTagName? {source name : String}
    (h : endTagName? source.toList = some name) : roleBlock source = .closing name := by
  simp only [roleBlock, h]

/-- Only an end tag closes in running text. -/
theorem endTagName?_of_roleInline {source name : String} (h : roleInline source = .closing name) :
    endTagName? source.toList = some name := by
  unfold roleInline at h
  simp only at h
  split at h
  · rename_i heq
    cases h
    exact heq
  · exact absurd h TagRole.ofOpening?_ne_closing

/-- Only an end tag closes among blocks. -/
theorem endTagName?_of_roleBlock {source name : String} (h : roleBlock source = .closing name) :
    endTagName? source.toList = some name := by
  unfold roleBlock at h
  simp only at h
  split at h
  · rename_i heq
    cases h
    exact heq
  · exact absurd h TagRole.ofOpening?_ne_closing

/-- An end tag is not empty. -/
theorem ne_empty_of_endTagName? {source name : String} (h : endTagName? source.toList = some name) :
    source ≠ "" := by
  rintro rfl
  cases h

/-- A tag that opens an element in running text begins with its start tag. -/
theorem startTagName?_of_roleInline {source name : String}
    (h : roleInline source = .opening name) : startTagName? source.toList = some name :=
  (roleInline_eq_opening_iff.1 h).2.1

/-- A tag that opens an element in running text is not void. -/
theorem not_mem_voidTags_of_roleInline {source name : String}
    (h : roleInline source = .opening name) : name ∉ Markup.voidTags := by
  have hopen := (roleInline_eq_opening_iff.1 h).2.2
  rw [isSelfClosing, Bool.or_eq_false_iff] at hopen
  exact of_decide_eq_false hopen.2

/-- What a block begins with that opens an element: its start tag, which does not close it. -/
theorem startTag_of_unclosedTag? {s : List Char} {name : String} (h : unclosedTag? s = some name) :
    startTagName? (Text.trim s) = some name ∧ name ∉ Markup.voidTags := by
  unfold unclosedTag? at h
  simp only at h
  split at h
  · cases h
  · rename_i found heq
    split at h
    · cases h
    · rename_i hclosed
      split at h
      · cases h
        rw [Bool.or_eq_true, not_or] at hclosed
        exact ⟨heq, fun hvoid ↦ hclosed.1 (decide_eq_true hvoid)⟩
      · cases h

/-- A block that opens an element begins with its start tag, once the blanks are gone. -/
theorem startTagName?_of_roleBlock {source name : String} (h : roleBlock source = .opening name) :
    startTagName? (Text.trim source.toList) = some name :=
  (startTag_of_unclosedTag? (roleBlock_eq_opening_iff.1 h).2).1

/-- A block that opens an element does not open a void one. -/
theorem not_mem_voidTags_of_roleBlock {source name : String}
    (h : roleBlock source = .opening name) : name ∉ Markup.voidTags :=
  (startTag_of_unclosedTag? (roleBlock_eq_opening_iff.1 h).2).2

/-! ### Nodes -/

/-- Only a node of the kind has a role that counts. -/
theorem kind_eq_of_role {kind : Kind} {n : Node} (h : n.role kind ≠ .neither) : n.kind = kind := by
  refine Decidable.byContradiction fun hkind ↦ h ?_
  rw [Node.role, if_neg hkind]

/-- The role of a node in running text is that of its source. -/
theorem roleInline_of_role {n : Node} {role : TagRole} (h : n.role .htmlInline = role)
    (hrole : role ≠ .neither) : roleInline n.content = role := by
  have hkind := kind_eq_of_role (h ▸ hrole)
  simpa [Node.role, hkind] using h

/-- So is the role of a block. -/
theorem roleBlock_of_role {n : Node} {role : TagRole} (h : n.role .htmlBlock = role)
    (hrole : role ≠ .neither) : roleBlock n.content = role := by
  have hkind := kind_eq_of_role (h ▸ hrole)
  simpa [Node.role, hkind] using h

end SafeMarkdown.Syntax
