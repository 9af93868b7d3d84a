import SafeMarkdown.Proofs.Document.Nodes
import SafeMarkdown.Proofs.Rendering.Closure
import SafeMarkdown.Proofs.Rendering.Outcome

/-!
# What rendering does with a raw element

An element of raw HTML can end in three ways. Shown as text, its tags stand around its content;
parsed, it is dropped without a look at its children, or it leaves its content, with the element
around it if the mode keeps it. A section has the first and the last of these.
`cases_of_htmlElement` and `cases_of_htmlSection` read that off a rendering that succeeded, so that
an argument about raw HTML has these cases and no others. In the other direction, what an element
that is parsed is rendered to follows from what the mode keeps of it and what its children are
rendered to.
-/

namespace SafeMarkdown

open Document (Node eq_nil_of_dropped)

/-- What is left of an element: the element with the attributes that were kept, or its content if
the element was not kept. -/
def Markup.remnant (tag : String) (kept? : Option (List Attr)) (content : List Markup) :
    List Markup :=
  match kept? with
  | some kept => [.element tag kept content]
  | none => content

open Markup (remnant)

variable {o : Options} {r : Renderers} {depth : Nat} {tag startSource endSource : String}
  {attrs : List Attr} {children : List Node} {out : List Markup}

/-- A policy keeps nothing of an element that it does not allow. -/
theorem keptAttrs?_of_not_allowsElement {policy : Policy} (h : o.html = .sanitize policy)
    (hallowed : ¬ policy.allowsElement tag = true) : o.html.keptAttrs? tag attrs = none := by
  rw [h, HtmlMode.keptAttrs?, if_neg hallowed]

/-- **The ways in which an element ends**: shown as text, dropped, or parsed with what is kept of
it. -/
theorem cases_of_htmlElement {void : Bool}
    (h : renderInline o r depth (.htmlElement tag attrs children startSource endSource void) =
      .ok out) :
    (o.html = .dontParse ∧ ∃ content, renderInlines o r (depth + 1) children = .ok content ∧
      out = .text startSource :: content ++ textUnlessEmpty endSource) ∨
    (o.html.keptAttrs? tag attrs = none ∧ (void || children.isEmpty) = true ∧ out = []) ∨
    ∃ content, renderInlines o r (depth + 1) children = .ok content ∧
      out = remnant tag (o.html.keptAttrs? tag attrs) content := by
  rw [renderInline] at h
  split at h
  · rename_i hmode
    obtain ⟨content, hcontent, h⟩ := bind_eq_ok_iff.1 h
    rw [keptAttrs?_of_parseUnsafe hmode]
    exact .inr (.inr ⟨content, hcontent, (Except.ok.inj h).symm⟩)
  · rename_i policy hmode
    split at h
    · rename_i hallowed
      obtain ⟨content, hcontent, h⟩ := bind_eq_ok_iff.1 h
      rw [keptAttrs?_of_allowsElement hmode hallowed]
      exact .inr (.inr ⟨content, hcontent, (Except.ok.inj h).symm⟩)
    · rename_i hallowed
      rw [keptAttrs?_of_not_allowsElement hmode hallowed]
      split at h
      · rename_i hdropped
        exact .inr (.inl ⟨rfl, hdropped, (Except.ok.inj h).symm⟩)
      · exact .inr (.inr ⟨out, h, rfl⟩)
  · rename_i hmode
    obtain ⟨content, hcontent, h⟩ := bind_eq_ok_iff.1 h
    exact .inl ⟨hmode, content, hcontent, (Except.ok.inj h).symm⟩

/-- **The ways in which a section ends**: shown as text, or parsed with what is kept of it. -/
theorem cases_of_htmlSection {leading : List Node} {tight : Bool}
    (h : renderBlock o r depth tight
      (.htmlSection tag attrs leading children startSource endSource) = .ok out) :
    (o.html = .dontParse ∧
      ∃ content, renderBlocks o r (depth + 1) false children = .ok content ∧
        out = .text startSource :: content ++ textUnlessEmpty endSource) ∨
    ∃ first rest, renderInlines o r (depth + 1) leading = .ok first ∧
      renderBlocks o r (depth + 1) false children = .ok rest ∧
        out = remnant tag (o.html.keptAttrs? tag attrs) (first ++ rest) := by
  rw [renderBlock] at h
  split at h
  · rename_i hmode
    obtain ⟨content, hcontent, h⟩ := bind_eq_ok_iff.1 h
    exact .inl ⟨hmode, content, hcontent, (Except.ok.inj h).symm⟩
  · rename_i hmode
    obtain ⟨first, hfirst, h⟩ := bind_eq_ok_iff.1 h
    obtain ⟨rest, hrest, h⟩ := bind_eq_ok_iff.1 h
    rw [keptAttrs?_of_parseUnsafe hmode]
    exact .inr ⟨first, rest, hfirst, hrest, (Except.ok.inj h).symm⟩
  · rename_i policy hmode
    obtain ⟨first, hfirst, h⟩ := bind_eq_ok_iff.1 h
    obtain ⟨rest, hrest, h⟩ := bind_eq_ok_iff.1 h
    refine .inr ⟨first, rest, hfirst, hrest, ?_⟩
    split at h
    · rename_i hallowed
      rw [keptAttrs?_of_allowsElement hmode hallowed]
      exact (Except.ok.inj h).symm
    · rename_i hallowed
      rw [keptAttrs?_of_not_allowsElement hmode hallowed]
      exact (Except.ok.inj h).symm

/-! ### Elements that are parsed -/

/-- An element that the mode does not keep is dropped if it is void or childless. -/
theorem renderInline_htmlElement_dropped {void : Bool} (hmode : o.html ≠ .dontParse)
    (hkept : o.html.keptAttrs? tag attrs = none) (hdropped : (void || children.isEmpty) = true) :
    renderInline o r depth (.htmlElement tag attrs children startSource endSource void) =
      .ok [] := by
  rw [renderInline]
  split
  · rename_i hparse
    rw [keptAttrs?_of_parseUnsafe hparse] at hkept
    cases hkept
  · rename_i policy hpolicy
    have hallowed : ¬ policy.allowsElement tag = true := by
      intro hallowed
      rw [keptAttrs?_of_allowsElement hpolicy hallowed] at hkept
      cases hkept
    rw [if_neg hallowed, if_pos hdropped]
  · rename_i hshown
    exact absurd hshown hmode

/-- Of a raw element that is not void, or childless, what is left is around its content. -/
theorem renderInline_htmlElement {void : Bool} {content : List Markup}
    (hmode : o.html ≠ .dontParse) (hvoid : void = true → children = [])
    (hcontent : renderInlines o r (depth + 1) children = .ok content) :
    renderInline o r depth (.htmlElement tag attrs children startSource endSource void) =
      .ok (remnant tag (o.html.keptAttrs? tag attrs) content) := by
  rw [renderInline]
  split
  · rename_i hparse
    rw [hcontent, keptAttrs?_of_parseUnsafe hparse]
    rfl
  · rename_i policy hpolicy
    split
    · rename_i hallowed
      rw [hcontent, keptAttrs?_of_allowsElement hpolicy hallowed]
      rfl
    · rename_i hallowed
      rw [keptAttrs?_of_not_allowsElement hpolicy hallowed]
      split
      · rename_i hdropped
        -- there are no children, so there is no content either
        rw [eq_nil_of_dropped hvoid hdropped,
          renderInlines_nil (le_depthLimit_of_renderInlines hcontent)] at hcontent
        exact hcontent
      · exact hcontent
  · rename_i hshown
    exact absurd hshown hmode

end SafeMarkdown
