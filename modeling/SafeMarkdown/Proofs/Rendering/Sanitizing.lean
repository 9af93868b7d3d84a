import SafeMarkdown.Proofs.Markup.Tags
import SafeMarkdown.Proofs.Rendering.Closure
import SafeMarkdown.Syntax.Tag

/-!
# What a reader finds in sanitised output

A mode that does not trust raw HTML has a policy in force: its own under `sanitize`, and the empty
one where raw HTML is shown as text. `Vocabulary.ofPolicy` joins the names of a policy with those of
the standard renderers. Whatever the strings in a document are, the HTML of its rendering has a tag
of that vocabulary at every left angle bracket (`tagsOnly_toHtml_of_policy?`).

The argument has two halves that do not know each other. Rendering keeps within the vocabulary
(`Closed.within`), because raw elements pass only as the policy leaves them; and markup within the
vocabulary is written with its tags only, because all else is escaped. The second half needs what
`Policy.Plain` says: an allowed name with a bracket in it would be written as it is, and so would
the text of a `script` that is allowed.
-/

namespace SafeMarkdown

open Document (Node rawElementsOf)
open Markup (All Within)

/-- The text is a tag name: a letter, and then letters, digits and hyphens. -/
def Syntax.IsTagName (s : String) : Prop :=
  ∃ c r, s.toList = c :: r ∧ c.isAlpha = true ∧ ∀ d ∈ r, Syntax.isTagNamePart d = true

/-- A name of an element holds no bracket. -/
theorem Syntax.IsTagName.lt_not_mem {s : String} (h : Syntax.IsTagName s) : '<' ∉ s.toList := by
  obtain ⟨c, r, hs, hc, hr⟩ := h
  rw [hs, List.mem_cons, not_or]
  constructor
  · rintro rfl
    exact absurd hc (by decide)
  · intro hmem
    exact absurd (hr '<' hmem) (by decide)

/-- The policy in force, where raw HTML is not trusted. -/
def HtmlMode.policy? : HtmlMode → Option Policy
  | .parseUnsafe => none
  | .sanitize policy => some policy
  | .dontParse => some ⟨.empty, .empty⟩

/-- All names of the policy are tag names, and it allows no element whose text is written
unescaped. -/
structure Policy.Plain (p : Policy) : Prop where
  elementName : ∀ t ∈ p.elements, Syntax.IsTagName t
  attributeName : ∀ n ∈ p.attributes, Syntax.IsTagName n
  not_rawText : ∀ t ∈ Markup.rawTextTags, t ∉ p.elements

namespace Vocabulary

/-- The names that a policy allows, and those of the standard renderers. -/
def ofPolicy (p : Policy) : Vocabulary where
  tag t := t ∈ p.elements ∨ t ∈ Renderers.standardTags
  attr t n := n ∈ p.attributes ∨ (t, n) ∈ Renderers.standardAttrs

/-- The names that the standard renderers use are always allowed. -/
theorem holdsStandard_ofPolicy (p : Policy) : (ofPolicy p).HoldsStandard where
  tag _ ht := .inr ht
  attr _ ha := .inr ha

/-- The names of a policy can be written as they are. -/
theorem escapable_ofPolicy {p : Policy} (hp : p.Plain) : (ofPolicy p).Escapable where
  lt_not_mem_tag t ht := by
    rcases ht with ht | ht
    · exact (hp.elementName t ht).lt_not_mem
    · revert t
      decide
  lt_not_mem_attr t n hn := by
    rcases hn with hn | hn
    · exact (hp.attributeName n hn).lt_not_mem
    · have : ∀ a ∈ Renderers.standardAttrs, '<' ∉ a.2.toList := by decide
      exact this (t, n) hn
  not_rawText t ht := by
    rcases ht with ht | ht
    · exact fun hraw ↦ hp.not_rawText t hraw ht
    · revert t
      decide

end Vocabulary

/-! ### Rendering keeps within a vocabulary -/

/-- An attribute that may be missing has a name that is allowed. -/
theorem attr_of_optionalAttr {v : Vocabulary} {t name : String} (h : v.attr t name)
    (value : Option String) : ∀ a ∈ optionalAttr name value, v.attr t a.1 := by
  intro a ha
  cases value with
  | none => simp [optionalAttr] at ha
  | some s =>
    simp only [optionalAttr, Option.map_some, Option.toList_some, List.mem_singleton] at ha
    rw [ha]
    exact h

/-- So has the language of a code block. -/
theorem attr_of_languageAttr {v : Vocabulary} {t : String} (h : v.attr t "class")
    (language : Option String) : ∀ a ∈ Renderers.languageAttr language, v.attr t a.1 := by
  intro a ha
  unfold Renderers.languageAttr at ha
  split at ha
  · simp at ha
  · split at ha
    · simp at ha
    · rw [List.mem_singleton] at ha
      rw [ha]
      exact h

/-- So has the start of a list. -/
theorem attr_of_startAttr {v : Vocabulary} {t : String} (h : v.attr t "start") (start : Int) :
    ∀ a ∈ Renderers.startAttr start, v.attr t a.1 := by
  intro a ha
  unfold Renderers.startAttr at ha
  split at ha
  · simp at ha
  · rw [List.mem_singleton] at ha
    rw [ha]
    exact h

/-- The standard renderers keep within a vocabulary that has their names. -/
theorem Renderers.standard_respect {v : Vocabulary} (hv : v.HoldsStandard) :
    Renderers.standard.Respect (Within v) where
  heading level _ hc :=
    Markup.within_element.2 ⟨hv.tag _ (headingTag_mem level), by simp, hc⟩
  paragraph wrap _ hc := by
    cases wrap with
    | false => exact hc
    | true =>
      simp only [standard, if_true, All, List.mem_singleton, forall_eq]
      exact Markup.within_element.2 ⟨hv.tag "p" (by decide), by simp, hc⟩
  blockQuote hc := Markup.within_element.2 ⟨hv.tag "blockquote" (by decide), by simp, hc⟩
  code block := by
    refine Markup.within_element.2 ⟨hv.tag "pre" (by decide), by simp, ?_⟩
    simp only [All, List.mem_singleton, forall_eq]
    refine Markup.within_element.2 ⟨hv.tag "code" (by decide), ?_, by simp [All]⟩
    exact attr_of_languageAttr (hv.attr ("code", "class") (by decide)) block.language
  list kind _ hc := by
    cases kind with
    | unordered => exact Markup.within_element.2 ⟨hv.tag "ul" (by decide), by simp, hc⟩
    | ordered start =>
      refine Markup.within_element.2 ⟨hv.tag "ol" (by decide), ?_, hc⟩
      exact attr_of_startAttr (hv.attr ("ol", "start") (by decide)) start
  emphasis hc := Markup.within_element.2 ⟨hv.tag "em" (by decide), by simp, hc⟩
  strongEmphasis hc := Markup.within_element.2 ⟨hv.tag "strong" (by decide), by simp, hc⟩
  codeSpan text := Markup.within_element.2 ⟨hv.tag "code" (by decide), by simp, by simp [All]⟩
  link target _ hc := by
    refine Markup.within_element.2 ⟨hv.tag "a" (by decide), ?_, hc⟩
    refine List.forall_mem_cons.2 ⟨hv.attr ("a", "href") (by decide), ?_⟩
    exact attr_of_optionalAttr (hv.attr ("a", "title") (by decide)) target.title
  image target := by
    refine Markup.within_element.2 ⟨hv.tag "img" (by decide), ?_, by simp [All]⟩
    refine List.forall_mem_cons.2 ⟨hv.attr ("img", "alt") (by decide), ?_⟩
    refine List.forall_mem_cons.2 ⟨hv.attr ("img", "src") (by decide), ?_⟩
    exact attr_of_optionalAttr (hv.attr ("img", "title") (by decide)) target.title
  thematicBreak := Markup.within_element.2 ⟨hv.tag "hr" (by decide), by simp, by simp [All]⟩
  hardLineBreak := Markup.within_element.2 ⟨hv.tag "br" (by decide), by simp, by simp [All]⟩

/-- Rendering keeps within a vocabulary that has the standard names and those that the mode leaves
of the raw elements. -/
theorem Closed.within {o : Options} {v : Vocabulary} {Q : String × List Attr → Prop}
    (hv : v.HoldsStandard)
    (hraw : ∀ {tag attrs kept}, Q (tag, attrs) → o.html.keptAttrs? tag attrs = some kept →
      v.tag tag ∧ ∀ a ∈ kept, v.attr tag a.1) :
    Closed o .standard Q (Within v) where
  text _ := Markup.within_text
  renderers := Renderers.standard_respect hv
  item hc := Markup.within_element.2 ⟨hv.tag "li" (by decide), by simp, hc⟩
  raw hQ hkept hc :=
    Markup.within_element.2 ⟨(hraw hQ hkept).1, (hraw hQ hkept).2, hc⟩

/-- A policy leaves only names that it allows. -/
theorem allowed_of_keptAttrs? {mode : HtmlMode} {policy : Policy} {tag : String}
    {attrs kept : List Attr} (hmode : mode.policy? = some policy)
    (h : mode.keptAttrs? tag attrs = some kept) :
    tag ∈ policy.elements ∧ ∀ a ∈ kept, a.1 ∈ policy.attributes := by
  cases mode with
  | parseUnsafe => simp [HtmlMode.policy?] at hmode
  | dontParse => simp [HtmlMode.keptAttrs?] at h
  | sanitize p =>
    obtain rfl : p = policy := by simpa [HtmlMode.policy?] using hmode
    unfold HtmlMode.keptAttrs? at h
    simp only [Policy.allowsElement, decide_eq_true_eq] at h
    split at h
    · rename_i ht
      refine ⟨ht, fun a ha ↦ ?_⟩
      rw [← Option.some.inj h] at ha
      simpa using (List.mem_filter.1 ha).2
    · simp at h

/-- **Sanitised output has only expected tags.** Under any mode that does not trust raw HTML,
whatever document is rendered, each left angle bracket of the HTML begins a tag of the policy's
vocabulary. -/
theorem tagsOnly_toHtml_of_policy? {o : Options} {policy : Policy} {blocks : List Node}
    {nodes : List Markup} (hmode : o.html.policy? = some policy) (hplain : policy.Plain)
    (h : renderDocument o .standard blocks = .ok nodes) :
    (Vocabulary.ofPolicy policy).TagsOnly (Markup.toHtml nodes).toList := by
  have hclosed : Closed o .standard (fun _ ↦ True) (Within (.ofPolicy policy)) :=
    Closed.within (Vocabulary.holdsStandard_ofPolicy policy) fun _ hkept ↦
      ⟨.inl (allowed_of_keptAttrs? hmode hkept).1,
        fun a ha ↦ .inl ((allowed_of_keptAttrs? hmode hkept).2 a ha)⟩
  have hwithin := hclosed.forall_of_renderDocument (fun _ _ ↦ trivial) h
  have htags := Markup.tagsOnly_listChars (Vocabulary.escapable_ofPolicy hplain)
    (Markup.allWithin_iff.2 hwithin)
  simpa [Markup.toHtml] using htags

/-- A disallowed script gives way to its text, and an attribute that would end its own value stays
inside it. -/
theorem tagsOnly_toHtml_bold :
    ∃ nodes, renderDocument ⟨false, .sanitize ⟨.ofList ["b"], .ofList ["class"]⟩⟩ .standard
        [.paragraph
          [.htmlElement "script" [] [.text "</p><b>"] "<script>" "</script>" false,
            .htmlElement "b" [("class", "\"><i>"), ("onclick", "x")] [] "" "" false]] = .ok nodes ∧
      (Vocabulary.ofPolicy ⟨.ofList ["b"], .ofList ["class"]⟩).TagsOnly
        (Markup.toHtml nodes).toList := by
  have hrender : renderDocument ⟨false, .sanitize ⟨.ofList ["b"], .ofList ["class"]⟩⟩ .standard
      [.paragraph
        [.htmlElement "script" [] [.text "</p><b>"] "<script>" "</script>" false,
          .htmlElement "b" [("class", "\"><i>"), ("onclick", "x")] [] "" "" false]] =
      .ok [.element "p" [] [.text "</p><b>", .element "b" [("class", "\"><i>")] []]] := rfl
  have hplain : Policy.Plain ⟨.ofList ["b"], .ofList ["class"]⟩ := by
    refine ⟨?_, ?_, by decide⟩
    · intro t ht
      obtain rfl : t = "b" := by simpa using ht
      exact ⟨'b', [], by decide, by decide, by simp⟩
    · intro n hn
      obtain rfl : n = "class" := by simpa using hn
      refine ⟨'c', ['l', 'a', 's', 's'], by decide, by decide, ?_⟩
      simp only [List.forall_mem_cons]
      exact ⟨by decide, by decide, by decide, by decide, List.forall_mem_nil _⟩
  exact ⟨_, hrender, tagsOnly_toHtml_of_policy? rfl hplain hrender⟩

end SafeMarkdown
