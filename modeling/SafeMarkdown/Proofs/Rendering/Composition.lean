import SafeMarkdown.Proofs.Options.Intersection
import SafeMarkdown.Proofs.Rendering.RawElements

/-!
# Sanitising what was sanitised

A policy acts on markup as it acts on raw HTML: it takes the attributes that are not allowed from
the elements that are, and puts the children of the other elements in their place
(`Policy.clean`). On HTML, cleaning what a mode gives is what the mode does that is restricted by
the policy (`renderInlines_restrict`). Markup can also be written back as inlines, each element as a
raw one, and where raw HTML is kept these are rendered to the markup that they came from
(`renderInlines_toInlines`).

Together: to sanitise what was sanitised is to sanitise once, by the intersection of the policies
(`renderDocument_sanitize_toInlines`).

A policy drops a void element with its children, and the elements of markup are not void. The
results ask for void elements to be childless, for then it is the same whether an element is dropped
or gives way to its children.
-/

namespace SafeMarkdown

open Document (Node depthLimit nodesOf forall_mem_nodesOf)

namespace Markup

mutual

/-- A node of markup as an inline: an element becomes a raw one that was not read from a source. -/
def toInline : Markup → Node
  | text value => .text value
  | element tag attrs children => .htmlElement tag attrs (toInlines children) "" "" false

/-- A list of markup as inlines. -/
def toInlines : List Markup → List Node
  | [] => []
  | n :: ns => n.toInline :: toInlines ns

end

/-- Markup of two lists is taken for nodes list by list. -/
theorem toInlines_append (ns ms : List Markup) :
    toInlines (ns ++ ms) = toInlines ns ++ toInlines ms := by
  induction ns with
  | nil => rfl
  | cons n ns ih => rw [List.cons_append, toInlines, ih, toInlines, List.cons_append]

mutual

/-- A node of markup, taken for a node of a document, is tidy. -/
theorem toInline_isTidyHtml : ∀ n : Markup, n.toInline.Throughout Node.IsTidyHtml
  | text _ => ⟨⟨trivial, trivial⟩, nofun⟩
  | element _ _ children =>
    ⟨⟨trivial, nofun⟩, forall_mem_nodesOf.2 (toInlines_isTidyHtml children)⟩

/-- So is every node of a list. -/
theorem toInlines_isTidyHtml :
    ∀ ns : List Markup, ∀ n ∈ toInlines ns, n.Throughout Node.IsTidyHtml
  | [] => nofun
  | n :: ns => List.forall_mem_cons.2 ⟨toInline_isTidyHtml n, toInlines_isTidyHtml ns⟩

end

end Markup

open Markup (remnant toInlines toInlines_append toInlines_isTidyHtml)

/-! ### The action of a policy -/

namespace Policy

mutual

/-- What the policy leaves of a node of markup. -/
def cleanNode (p : Policy) : Markup → List Markup
  | .text value => [.text value]
  | .element tag attrs children =>
    remnant tag ((HtmlMode.sanitize p).keptAttrs? tag attrs) (p.clean children)

/-- What the policy leaves of a list of markup. -/
def clean (p : Policy) : List Markup → List Markup
  | [] => []
  | n :: ns => p.cleanNode n ++ p.clean ns

end

/-- Two lists are cleaned list by list. -/
theorem clean_append (p : Policy) (ns ms : List Markup) :
    p.clean (ns ++ ms) = p.clean ns ++ p.clean ms := by
  induction ns with
  | nil => rfl
  | cons n ns ih => rw [List.cons_append, clean, ih, clean, List.append_assoc]

end Policy

/-- The mode that keeps, of the raw HTML that a mode keeps, what a policy allows. -/
def HtmlMode.restrict (p : Policy) : HtmlMode → HtmlMode
  | .parseUnsafe => .sanitize p
  | .sanitize q => .sanitize (p.inter q)
  | .dontParse => .dontParse

/-- Restricting a mode that parses gives one that parses. -/
theorem HtmlMode.restrict_ne_dontParse {mode : HtmlMode} (h : mode ≠ .dontParse) (p : Policy) :
    mode.restrict p ≠ .dontParse := by
  cases mode with
  | dontParse => exact absurd rfl h
  | parseUnsafe => exact HtmlMode.noConfusion
  | sanitize q => exact HtmlMode.noConfusion

/-- Restricting a mode is keeping what first the mode and then the policy keeps. -/
theorem keptAttrs?_restrict (p : Policy) (mode : HtmlMode) (tag : String) (attrs : List Attr) :
    (mode.restrict p).keptAttrs? tag attrs =
      (mode.keptAttrs? tag attrs).bind ((HtmlMode.sanitize p).keptAttrs? tag) := by
  cases mode with
  | parseUnsafe => rfl
  | dontParse => rfl
  | sanitize q =>
    rw [HtmlMode.restrict, HtmlMode.keptAttrs?, Policy.allowsElement_inter,
      ← Policy.filterAttrs_filterAttrs]
    cases hallowed : q.allowsElement tag with
    | false => simp [HtmlMode.keptAttrs?, hallowed]
    | true => simp [HtmlMode.keptAttrs?, hallowed]

/-- **Cleaning what a mode leaves of an element** gives what the restricted mode leaves of it. -/
theorem clean_remnant (p : Policy) (mode : HtmlMode) (tag : String) (attrs : List Attr)
    (content : List Markup) :
    p.clean (remnant tag (mode.keptAttrs? tag attrs) content) =
      remnant tag ((mode.restrict p).keptAttrs? tag attrs) (p.clean content) := by
  rw [keptAttrs?_restrict]
  cases mode.keptAttrs? tag attrs with
  | none => rfl
  | some kept => exact List.append_nil _

/-! ### Lists of HTML -/

variable {soft : Bool} {r : Renderers} {mode : HtmlMode} {p q : Policy}

mutual

/-- A tidy inline is rendered under the restricted mode to what cleaning leaves. -/
theorem renderInline_restrict (hmode : mode ≠ .dontParse) {depth : Nat} :
    ∀ {n : Node} {out : List Markup}, n.Throughout Node.IsTidyHtml →
      renderInline ⟨soft, mode⟩ r depth n = .ok out →
        renderInline ⟨soft, mode.restrict p⟩ r depth n = .ok (p.clean out)
  | .text _, _, _, h => by
    cases h
    rfl
  | .htmlElement tag attrs children _ _ void, _, hhtml, h => by
    have hrestrict := HtmlMode.restrict_ne_dontParse hmode p
    have hvoid : void = true → children = [] := hhtml.1.2
    rcases cases_of_htmlElement h with
      ⟨hshown, -⟩ | ⟨hkept, hdropped, rfl⟩ | ⟨content, hcontent, rfl⟩
    · exact absurd hshown hmode
    · -- what the mode drops is dropped under the policy, the children unseen in both
      have hkept : (mode.restrict p).keptAttrs? tag attrs = none := by
        rw [keptAttrs?_restrict, hkept, Option.bind_none]
      exact renderInline_htmlElement_dropped hrestrict hkept hdropped
    · have hbelow := forall_mem_nodesOf.1 hhtml.2
      rw [clean_remnant]
      exact renderInline_htmlElement hrestrict hvoid (renderInlines_restrict hmode hbelow hcontent)
  | .rawHtml _, _, _, h => by
    cases mode with
    | dontParse => exact absurd rfl hmode
    | parseUnsafe => cases h; rfl
    | sanitize policy => cases h; rfl
  | .heading _ _, _, hhtml, _ | .paragraph _, _, hhtml, _ | .blockQuote _, _, hhtml, _
  | .codeBlock _, _, hhtml, _ | .list _ _ _, _, hhtml, _ | .thematicBreak, _, hhtml, _
  | .htmlBlock _ _, _, hhtml, _ | .htmlSection _ _ _ _ _ _, _, hhtml, _ | .softBreak, _, hhtml, _
  | .hardBreak, _, hhtml, _ | .codeSpan _, _, hhtml, _ | .emphasis _, _, hhtml, _
  | .strong _, _, hhtml, _ | .link _ _, _, hhtml, _ | .image _, _, hhtml, _ => hhtml.1.1.elim

/-- On HTML, a mode that is restricted by a policy gives what the mode gives, cleaned. -/
theorem renderInlines_restrict (hmode : mode ≠ .dontParse) {depth : Nat} :
    ∀ {ns : List Node} {out : List Markup}, (∀ n ∈ ns, n.Throughout Node.IsTidyHtml) →
      renderInlines ⟨soft, mode⟩ r depth ns = .ok out →
        renderInlines ⟨soft, mode.restrict p⟩ r depth ns = .ok (p.clean out)
  | [], _, _, h => by
    have hdepth := le_depthLimit_of_renderInlines h
    rw [renderInlines_nil hdepth] at h
    cases h
    exact renderInlines_nil hdepth
  | n :: ns, _, hhtml, h => by
    obtain ⟨first, rest, hn, hns, rfl⟩ := exists_of_checked_eq_ok h
    obtain ⟨hhead, htail⟩ := List.forall_mem_cons.1 hhtml
    rw [Policy.clean_append]
    exact renderInlines_cons (renderInline_restrict hmode hhead hn)
      (renderInlines_restrict hmode htail hns)

end

mutual

/-- What an inline was rendered to is rendered again at that depth, or at any above. -/
theorem renderInlines_toInlines_of_renderInline (hmode : mode ≠ .dontParse) {depth d : Nat}
    (hd : d ≤ depth) (hdepth : depth ≤ depthLimit) :
    ∀ {n : Node} {out : List Markup}, n.Throughout Node.IsHtml →
      renderInline ⟨soft, mode⟩ r depth n = .ok out →
        renderInlines ⟨soft, .parseUnsafe⟩ r d (toInlines out) = .ok out
  | .text _, _, _, h => by
    cases h
    exact renderInlines_singleton (by omega) rfl
  | .htmlElement tag attrs children _ _ _, _, hhtml, h => by
    rcases cases_of_htmlElement h with ⟨hshown, -⟩ | ⟨-, -, rfl⟩ | ⟨content, hcontent, rfl⟩
    · exact absurd hshown hmode
    · exact renderInlines_nil (by omega)
    · have hbelow := forall_mem_nodesOf.1 hhtml.2
      cases mode.keptAttrs? tag attrs with
      | none =>
        -- the content moved up into the place of its element, and is no deeper than it was
        exact renderInlines_toInlines hmode (by omega) hbelow hcontent
      | some kept =>
        have hcontent := renderInlines_toInlines hmode (Nat.add_le_add_right hd 1) hbelow hcontent
        exact renderInlines_singleton (Nat.le_trans hd hdepth)
          (renderInline_htmlElement HtmlMode.noConfusion nofun hcontent)
  | .rawHtml _, _, _, h => by
    cases mode with
    | dontParse => exact absurd rfl hmode
    | parseUnsafe => cases h; exact renderInlines_nil (by omega)
    | sanitize policy => cases h; exact renderInlines_nil (by omega)
  | .heading _ _, _, hhtml, _ | .paragraph _, _, hhtml, _ | .blockQuote _, _, hhtml, _
  | .codeBlock _, _, hhtml, _ | .list _ _ _, _, hhtml, _ | .thematicBreak, _, hhtml, _
  | .htmlBlock _ _, _, hhtml, _ | .htmlSection _ _ _ _ _ _, _, hhtml, _ | .softBreak, _, hhtml, _
  | .hardBreak, _, hhtml, _ | .codeSpan _, _, hhtml, _ | .emphasis _, _, hhtml, _
  | .strong _, _, hhtml, _ | .link _ _, _, hhtml, _ | .image _, _, hhtml, _ => hhtml.1.elim

/-- Where raw HTML is kept, what HTML was rendered to is rendered to itself. -/
theorem renderInlines_toInlines (hmode : mode ≠ .dontParse) {depth d : Nat} (hd : d ≤ depth) :
    ∀ {ns : List Node} {out : List Markup}, (∀ n ∈ ns, n.Throughout Node.IsHtml) →
      renderInlines ⟨soft, mode⟩ r depth ns = .ok out →
        renderInlines ⟨soft, .parseUnsafe⟩ r d (toInlines out) = .ok out
  | [], _, _, h => by
    have hdepth := le_depthLimit_of_renderInlines h
    rw [renderInlines_nil hdepth] at h
    cases h
    exact renderInlines_nil (by omega)
  | n :: ns, _, hhtml, h => by
    have hdepth := le_depthLimit_of_renderInlines h
    obtain ⟨first, rest, hn, hns, rfl⟩ := exists_of_checked_eq_ok h
    obtain ⟨hhead, htail⟩ := List.forall_mem_cons.1 hhtml
    rw [toInlines_append]
    exact renderInlines_append (renderInlines_toInlines_of_renderInline hmode hd hdepth hhead hn)
      (renderInlines_toInlines hmode hd htail hns)

end

/-! ### HTML blocks -/

/-- A document of one HTML block is rendered as the nodes that were read. -/
theorem renderDocument_htmlBlock (hmode : mode ≠ .dontParse) (source : String) (ns : List Node) :
    renderDocument ⟨soft, mode⟩ r [.htmlBlock source ns] = renderInlines ⟨soft, mode⟩ r 1 ns := by
  have hblock : renderBlock ⟨soft, mode⟩ r 0 false (.htmlBlock source ns) =
      renderInlines ⟨soft, mode⟩ r 1 ns := by
    cases mode with
    | dontParse => exact absurd rfl hmode
    | parseUnsafe => rfl
    | sanitize policy => rfl
  rw [renderDocument, renderBlocks, hblock, renderBlocks_nil (by decide)]
  cases renderInlines ⟨soft, mode⟩ r 1 ns with
  | error e => rfl
  | ok out => exact congrArg Except.ok (List.append_nil out)

section Composition

variable {nodes : List Node} {once : List Markup} {source : String}

/-- What a policy gives of an HTML block, rendered again under a policy, is cleaned by it. -/
theorem renderDocument_toInlines (hhtml : ∀ n ∈ nodesOf nodes, n.IsHtml)
    (h : renderDocument ⟨soft, .sanitize q⟩ r [.htmlBlock source nodes] = .ok once)
    (p : Policy) (source' : String) :
    renderDocument ⟨soft, .sanitize p⟩ r [.htmlBlock source' (toInlines once)] =
      .ok (p.clean once) := by
  rw [renderDocument_htmlBlock HtmlMode.noConfusion] at h ⊢
  have hkept : renderInlines ⟨soft, .parseUnsafe⟩ r 1 (toInlines once) = .ok once :=
    renderInlines_toInlines HtmlMode.noConfusion (Nat.le_refl 1) (forall_mem_nodesOf.1 hhtml) h
  exact renderInlines_restrict HtmlMode.noConfusion (toInlines_isTidyHtml once) hkept

/-- What two policies together give of an HTML block is what one gives, cleaned by the other. -/
theorem renderDocument_inter (htidy : ∀ n ∈ nodesOf nodes, n.IsTidyHtml)
    (h : renderDocument ⟨soft, .sanitize q⟩ r [.htmlBlock source nodes] = .ok once)
    (p : Policy) :
    renderDocument ⟨soft, .sanitize (p.inter q)⟩ r [.htmlBlock source nodes] =
      .ok (p.clean once) := by
  rw [renderDocument_htmlBlock HtmlMode.noConfusion] at h ⊢
  exact renderInlines_restrict HtmlMode.noConfusion (forall_mem_nodesOf.1 htidy) h

/-- **Sanitising twice is sanitising once, by the intersection of the policies.** The markup that
HTML is rendered to under a policy can be rendered again under any policy, and that gives what the
HTML is rendered to under both policies together. So under its own policy the markup is rendered to
itself, and the order of two policies does not matter. -/
theorem renderDocument_sanitize_toInlines (htidy : ∀ n ∈ nodesOf nodes, n.IsTidyHtml)
    (h : renderDocument ⟨soft, .sanitize q⟩ r [.htmlBlock source nodes] = .ok once)
    (p : Policy) (source' : String) :
    (∃ twice,
      renderDocument ⟨soft, .sanitize p⟩ r [.htmlBlock source' (toInlines once)] = .ok twice ∧
        renderDocument ⟨soft, .sanitize (p.inter q)⟩ r [.htmlBlock source nodes] = .ok twice) ∧
    renderDocument ⟨soft, .sanitize q⟩ r [.htmlBlock source' (toInlines once)] = .ok once ∧
    ∀ other, renderDocument ⟨soft, .sanitize p⟩ r [.htmlBlock source nodes] = .ok other →
      renderDocument ⟨soft, .sanitize q⟩ r [.htmlBlock source' (toInlines other)] =
        renderDocument ⟨soft, .sanitize p⟩ r [.htmlBlock source' (toInlines once)] := by
  have hhtml : ∀ n ∈ nodesOf nodes, n.IsHtml := fun n hn ↦ (htidy n hn).1
  refine ⟨⟨p.clean once, ?_, ?_⟩, ?_, ?_⟩
  · exact renderDocument_toInlines hhtml h p source'
  · exact renderDocument_inter htidy h p
  · have hself := renderDocument_inter htidy h q
    rw [Policy.inter_self, h] at hself
    rw [renderDocument_toInlines hhtml h, ← hself]
  · intro other hother
    have hswapped := renderDocument_inter htidy hother q
    rw [Policy.inter_comm, renderDocument_inter htidy h] at hswapped
    rw [renderDocument_toInlines hhtml h, renderDocument_toInlines hhtml hother, hswapped]

end Composition

/-- Elements in one another, a void one and a comment among them. -/
def nestedHtml : List Node :=
  [.text "a",
    .htmlElement "div" [("id", "x"), ("class", "c")]
      [.htmlElement "span" [("class", "s")]
        [.htmlElement "b" [("id", "y"), ("class", "d")] [.text "e"] "<b id=y class=d>" "</b>" false,
          .rawHtml "<!-- f -->"] "<span class=s>" "</span>" false,
        .htmlElement "br" [] [] "<br>" "" true] "<div id=x class=c>" "</div>" false]

theorem renderDocument_sanitize_nestedHtml :
    (∀ n ∈ nodesOf nestedHtml, n.IsTidyHtml) ∧
      ∃ once,
        renderDocument ⟨false, .sanitize ⟨.ofList ["div", "b", "br"], .ofList ["class"]⟩⟩ .standard
          [.htmlBlock "" nestedHtml] = .ok once ∧
        ∃ twice,
          renderDocument ⟨false, .sanitize ⟨.ofList ["span", "b"], .ofList ["id", "class"]⟩⟩
            .standard [.htmlBlock "" (toInlines once)] = .ok twice ∧
          renderDocument
            ⟨false, .sanitize (Policy.inter ⟨.ofList ["span", "b"], .ofList ["id", "class"]⟩
              ⟨.ofList ["div", "b", "br"], .ofList ["class"]⟩)⟩
            .standard [.htmlBlock "" nestedHtml] = .ok twice ∧
          twice = [.text "a", .element "b" [("class", "d")] [.text "e"]] := by
  have htidy : ∀ n ∈ nodesOf nestedHtml, n.IsTidyHtml := by
    simp [nestedHtml, nodesOf, Node.inside, Node.IsTidyHtml, Node.IsHtml, Node.VoidChildless]
  have hrender : renderDocument
      ⟨false, .sanitize ⟨.ofList ["div", "b", "br"], .ofList ["class"]⟩⟩ .standard
      [.htmlBlock "" nestedHtml] =
      .ok [.text "a", .element "div" [("class", "c")]
        [.element "b" [("class", "d")] [.text "e"], .element "br" [] []]] := rfl
  obtain ⟨⟨twice, htwice, hboth⟩, -, -⟩ := renderDocument_sanitize_toInlines htidy hrender
    ⟨.ofList ["span", "b"], .ofList ["id", "class"]⟩ ""
  exact ⟨htidy, _, hrender, twice, htwice, hboth, (Except.ok.inj htwice).symm⟩

end SafeMarkdown
