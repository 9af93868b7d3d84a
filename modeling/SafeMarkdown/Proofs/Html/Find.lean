import SafeMarkdown.Html.Tree
import SafeMarkdown.Proofs.Markup.Preorder

/-!
# Finding an element

`find` gives the first element of a name in document order. What it gives is an element of the tree
(`mem_preorders_of_find`), and the text of the tree is that of the element with the text outside it
around (`exists_innerTexts_of_find`).

The text outside the element is `outerText`. It is defined by the same search, so that in a list
whose first element of the name is deep inside a node, the rest of that node counts as outside too.
-/

namespace SafeMarkdown.Html

open Markup (preorders innerText innerTexts)

mutual

/-- What is found in a node is the node or below it. -/
theorem mem_preorder_of_findIn {tag : String} {attrs : List Attr} {content : List Markup} :
    ∀ {m : Markup}, findIn tag m = some (attrs, content) → .element tag attrs content ∈ m.preorder
  | .text _, h => by cases h
  | .element name attrs' children, h => by
    rw [findIn] at h
    rw [Markup.preorder]
    split at h
    · rename_i hname
      cases h
      rw [hname]
      exact List.mem_cons_self
    · exact List.mem_cons_of_mem _ (mem_preorders_of_find h)

/-- An element that is found is an element of the tree. -/
theorem mem_preorders_of_find {tag : String} {attrs : List Attr} {content : List Markup} :
    ∀ {ms : List Markup}, find tag ms = some (attrs, content) →
      .element tag attrs content ∈ preorders ms
  | [], h => by cases h
  | _ :: _, h => by
    rw [find, Option.or_eq_some_iff] at h
    rcases h with h | ⟨-, h⟩
    · exact List.mem_append_left _ (mem_preorder_of_findIn h)
    · exact List.mem_append_right _ (mem_preorders_of_find h)

end

/-! ### The text outside -/

mutual

/-- The text of a node outside the first element of that name in it; all of it where there is
none. -/
def outerTextIn (tag : String) : Markup → String
  | .text value => value
  | .element name _ children => if name = tag then "" else outerText tag children

/-- The text of a list of nodes outside the first element of that name; all of it where there is
none. -/
def outerText (tag : String) : List Markup → String
  | [] => ""
  | n :: ns =>
    outerTextIn tag n ++ if (findIn tag n).isSome then innerTexts ns else outerText tag ns

end

mutual

/-- Where nothing is found, all text is outside. -/
theorem outerTextIn_of_findIn_eq_none {tag : String} :
    ∀ {n : Markup}, findIn tag n = none → outerTextIn tag n = n.innerText
  | .text _, _ => rfl
  | .element name attrs children, h => by
    rw [findIn] at h
    split at h
    · cases h
    · rename_i hname
      rw [outerTextIn, if_neg hname, innerText, outerText_of_find_eq_none h]

theorem outerText_of_find_eq_none {tag : String} :
    ∀ {ns : List Markup}, find tag ns = none → outerText tag ns = innerTexts ns
  | [], _ => rfl
  | _ :: _, h => by
    rw [find, Option.or_eq_none_iff] at h
    rw [outerText, innerTexts, outerTextIn_of_findIn_eq_none h.1, outerText_of_find_eq_none h.2,
      h.1]
    rfl

end

mutual

/-- The text of a node is that of the element found, with the text outside it around. -/
theorem exists_innerText_of_findIn {tag : String} {attrs : List Attr} {content : List Markup} :
    ∀ {n : Markup}, findIn tag n = some (attrs, content) →
      ∃ before after, n.innerText = before ++ innerTexts content ++ after ∧
        outerTextIn tag n = before ++ after
  | .text _, h => by cases h
  | .element name attrs' children, h => by
    rw [findIn] at h
    rw [outerTextIn, innerText]
    split at h
    · rename_i hname
      cases h
      exact ⟨"", "", by simp, by simp [hname]⟩
    · rename_i hname
      rw [if_neg hname]
      exact exists_innerTexts_of_find h

/-- The text of a tree is that of the element found with the text outside around it. -/
theorem exists_innerTexts_of_find {tag : String} {attrs : List Attr} {content : List Markup} :
    ∀ {ns : List Markup}, find tag ns = some (attrs, content) →
      ∃ before after, innerTexts ns = before ++ innerTexts content ++ after ∧
        outerText tag ns = before ++ after
  | [], h => by cases h
  | n :: ns, h => by
    rw [find, Option.or_eq_some_iff] at h
    rw [innerTexts, outerText]
    rcases h with h | ⟨hnone, h⟩
    · obtain ⟨before, after, hinner, houter⟩ := exists_innerText_of_findIn h
      refine ⟨before, after ++ innerTexts ns, ?_, ?_⟩
      · rw [hinner, String.append_assoc]
      · rw [houter, h, Option.isSome_some, if_pos rfl, String.append_assoc]
    · obtain ⟨before, after, hinner, houter⟩ := exists_innerTexts_of_find h
      refine ⟨n.innerText ++ before, after, ?_, ?_⟩
      · rw [hinner, String.append_assoc, String.append_assoc, String.append_assoc]
      · rw [outerTextIn_of_findIn_eq_none hnone, hnone, houter, String.append_assoc]
        rfl

end

end SafeMarkdown.Html
