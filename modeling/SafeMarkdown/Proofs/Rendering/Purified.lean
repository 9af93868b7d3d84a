import SafeMarkdown.Proofs.Document.Nodes
import SafeMarkdown.Proofs.Rendering.Outcome

/-!
# Sanitising as a change of the document

A policy can be applied to a document before it is rendered. `Policy.purify` drops raw HTML that
was not understood and raw elements that are not allowed, puts the children of these in their place,
and takes the attributes that are not allowed from the elements that stay. Rendering the purified
document with all raw elements in it gives what rendering under the policy gives
(`renderDocument_purify`), so a policy does nothing else.

A child that takes the place of its parent moves up in the document. It is no deeper than before,
and what was rendered within the limit of depth can be rendered there. Blocks of a section that
move into an item of a tight list would lose the wrapping of their paragraphs; the theorem asks
that no tight list has such an item.

The two renderings are not run at the same depth. A child that has moved up is rendered at a smaller
depth than it was, and so is everything below it. The induction is for all pairs of depths of which
the second is not larger; the other way round the purified document may be rendered where the
document is too deep.
-/

namespace SafeMarkdown

open Document (Node depthLimit nodesOf forall_mem_nodesOf forall_mem_nodesOfItems)

namespace Policy

mutual

/-- What a policy leaves of a node, which may be no node or several. A section that is not allowed
leaves its leading part as an HTML block. -/
def purifyNode (p : Policy) : Node → List Node
  | .heading level children => [.heading level (p.purify children)]
  | .paragraph children => [.paragraph (p.purify children)]
  | .blockQuote children => [.blockQuote (p.purify children)]
  | .codeBlock block => [.codeBlock block]
  | .list kind items tight => [.list kind (p.purifyItems items) tight]
  | .thematicBreak => [.thematicBreak]
  | .htmlBlock source nodes => [.htmlBlock source (p.purify nodes)]
  | .htmlSection tag attrs leading children startSource endSource =>
    if p.allowsElement tag then
      [.htmlSection tag (p.filterAttrs attrs) (p.purify leading) (p.purify children) startSource
        endSource]
    else .htmlBlock startSource (p.purify leading) :: p.purify children
  | .text value => [.text value]
  | .softBreak => [.softBreak]
  | .hardBreak => [.hardBreak]
  | .codeSpan text => [.codeSpan text]
  | .emphasis children => [.emphasis (p.purify children)]
  | .strong children => [.strong (p.purify children)]
  | .link link children => [.link link (p.purify children)]
  | .image image => [.image image]
  | .htmlElement tag attrs children startSource endSource void =>
    if p.allowsElement tag then
      [.htmlElement tag (p.filterAttrs attrs) (p.purify children) startSource endSource void]
    else if void || children.isEmpty then []
    else p.purify children
  | .rawHtml _ => []

/-- What a policy leaves of a list of nodes. -/
def purify (p : Policy) : List Node → List Node
  | [] => []
  | n :: ns => p.purifyNode n ++ p.purify ns

/-- What a policy leaves of the items of a list. -/
def purifyItems (p : Policy) : List (List Node) → List (List Node)
  | [] => []
  | item :: items => p.purify item :: p.purifyItems items

end

/-- The node is a section that the policy replaces by its content. -/
def DissolvesSection (p : Policy) : Node → Prop
  | .htmlSection tag .. => p.allowsElement tag = false
  | _ => False

/-- The node is no tight list with an item that holds such a section directly. -/
def KeepsTight (p : Policy) : Node → Prop
  | .list _ items true => ∀ item ∈ items, ∀ n ∈ item, ¬ p.DissolvesSection n
  | _ => True

end Policy

variable {p : Policy} {soft : Bool} {r : Renderers}

mutual

/-- What is rendered of an inline under a policy is rendered of what the policy leaves of it, at the
same depth or higher up. -/
theorem renderInlines_purifyNode {depth d : Nat} (hd : d ≤ depth) (hdepth : depth ≤ depthLimit) :
    ∀ {n : Node} {out : List Markup}, renderInline ⟨soft, .sanitize p⟩ r depth n = .ok out →
      renderInlines ⟨soft, .parseUnsafe⟩ r d (p.purifyNode n) = .ok out
  | .text _, _, h | .softBreak, _, h | .hardBreak, _, h | .codeSpan _, _, h | .image _, _, h =>
    renderInlines_singleton (by omega) h
  | .emphasis children, _, h | .strong children, _, h | .link _ children, _, h => by
    obtain ⟨content, hcontent, h⟩ := bind_eq_ok_iff.1 h
    refine renderInlines_singleton (by omega) ?_
    rw [renderInline, renderInlines_purify (by omega) hcontent]
    exact h
  | .htmlElement tag attrs children startSource endSource void, _, h => by
    rw [renderInline] at h
    rw [Policy.purifyNode]
    dsimp only at h
    split at h
    · rename_i hallowed
      obtain ⟨content, hcontent, h⟩ := bind_eq_ok_iff.1 h
      rw [if_pos hallowed]
      refine renderInlines_singleton (by omega) ?_
      rw [renderInline, renderInlines_purify (by omega) hcontent]
      exact h
    · rename_i hallowed
      rw [if_neg hallowed]
      split at h
      · rename_i hdropped
        cases h
        rw [if_pos hdropped]
        exact renderInlines_nil (by omega)
      · rename_i hdropped
        rw [if_neg hdropped]
        exact renderInlines_purify (by omega) h
  | .rawHtml _, _, h => by
    cases h
    exact renderInlines_nil (by omega)

/-- A list of inlines that a policy renders is purified to one that is rendered the same with raw
HTML kept. -/
theorem renderInlines_purify {depth d : Nat} (hd : d ≤ depth) :
    ∀ {ns : List Node} {out : List Markup},
      renderInlines ⟨soft, .sanitize p⟩ r depth ns = .ok out →
        renderInlines ⟨soft, .parseUnsafe⟩ r d (p.purify ns) = .ok out
  | [], _, h => by
    have hdepth := le_depthLimit_of_renderInlines h
    rw [renderInlines_nil hdepth] at h
    cases h
    exact renderInlines_nil (by omega)
  | n :: ns, _, h => by
    have hdepth := le_depthLimit_of_renderInlines h
    obtain ⟨first, rest, hn, hns, rfl⟩ := exists_of_checked_eq_ok h
    exact renderInlines_append (renderInlines_purifyNode hd hdepth hn)
      (renderInlines_purify hd hns)

end

mutual

/-- What is rendered of a block under a policy is rendered of what the policy leaves of it, at the
same depth or higher up, unless the block is the content of a section that comes into a tight
list. -/
theorem renderBlocks_purifyNode {depth d : Nat} (hd : d ≤ depth) (hdepth : depth ≤ depthLimit)
    {tight : Bool} :
    ∀ {n : Node} {out : List Markup}, n.Throughout p.KeepsTight →
      (tight = true → ¬ p.DissolvesSection n) →
        renderBlock ⟨soft, .sanitize p⟩ r depth tight n = .ok out →
          renderBlocks ⟨soft, .parseUnsafe⟩ r d tight (p.purifyNode n) = .ok out
  | .paragraph children, _, _, _, h | .heading _ children, _, _, _, h => by
    obtain ⟨content, hcontent, h⟩ := bind_eq_ok_iff.1 h
    refine renderBlocks_singleton (by omega) ?_
    rw [renderBlock, renderInlines_purify (by omega) hcontent]
    exact h
  | .blockQuote children, _, hkeeps, _, h => by
    obtain ⟨content, hcontent, h⟩ := bind_eq_ok_iff.1 h
    have hbelow := forall_mem_nodesOf.1 hkeeps.2
    refine renderBlocks_singleton (by omega) ?_
    rw [renderBlock, renderBlocks_purify (by omega) hbelow (by simp) hcontent]
    exact h
  | .codeBlock _, _, _, _, h | .thematicBreak, _, _, _, h => renderBlocks_singleton (by omega) h
  | .list kind items itemsTight, _, hkeeps, _, h => by
    obtain ⟨content, hcontent, h⟩ := bind_eq_ok_iff.1 h
    have hbelow := forall_mem_nodesOfItems.1 hkeeps.2
    have htight : itemsTight = true → ∀ item ∈ items, ∀ n ∈ item, ¬ p.DissolvesSection n := by
      rintro rfl
      exact hkeeps.1
    refine renderBlocks_singleton (by omega) ?_
    rw [renderBlock, renderItems_purify (by omega) hbelow htight hcontent]
    exact h
  | .htmlBlock _ nodes, _, _, _, h => by
    refine renderBlocks_singleton (by omega) ?_
    exact renderInlines_purify (by omega) h
  | .htmlSection tag attrs leading children startSource endSource, _, hkeeps, htop, h => by
    obtain ⟨first, hfirst, h⟩ := bind_eq_ok_iff.1 h
    obtain ⟨rest, hrest, h⟩ := bind_eq_ok_iff.1 h
    have hbelow := forall_mem_nodesOf.1 (List.forall_mem_append.1 hkeeps.2).2
    rw [Policy.purifyNode]
    split at h
    · rename_i hallowed
      rw [if_pos hallowed]
      refine renderBlocks_singleton (by omega) ?_
      rw [renderBlock, renderInlines_purify (by omega) hfirst,
        renderBlocks_purify (by omega) hbelow (by simp) hrest]
      exact h
    · rename_i hallowed
      cases h
      -- the content stays outside tight lists, so its paragraphs are wrapped as they were
      obtain rfl : tight = false := by
        cases tight with
        | false => rfl
        | true => exact absurd (Bool.eq_false_iff.2 hallowed) (htop rfl)
      rw [if_neg hallowed]
      exact renderBlocks_cons (renderInlines_purify (by omega) hfirst)
        (renderBlocks_purify (by omega) hbelow (by simp) hrest)

theorem renderBlocks_purify {depth d : Nat} (hd : d ≤ depth) {tight : Bool} :
    ∀ {ns : List Node} {out : List Markup}, (∀ n ∈ ns, n.Throughout p.KeepsTight) →
      (tight = true → ∀ n ∈ ns, ¬ p.DissolvesSection n) →
        renderBlocks ⟨soft, .sanitize p⟩ r depth tight ns = .ok out →
          renderBlocks ⟨soft, .parseUnsafe⟩ r d tight (p.purify ns) = .ok out
  | [], _, _, _, h => by
    have hdepth := le_depthLimit_of_renderBlocks h
    rw [renderBlocks_nil hdepth] at h
    cases h
    exact renderBlocks_nil (by omega)
  | n :: ns, _, hkeeps, htop, h => by
    have hdepth := le_depthLimit_of_renderBlocks h
    obtain ⟨first, rest, hn, hns, rfl⟩ := exists_of_checked_eq_ok h
    obtain ⟨hhead, htail⟩ := List.forall_mem_cons.1 hkeeps
    exact renderBlocks_append
      (renderBlocks_purifyNode hd hdepth hhead (fun ht ↦ (List.forall_mem_cons.1 (htop ht)).1) hn)
      (renderBlocks_purify hd htail (fun ht ↦ (List.forall_mem_cons.1 (htop ht)).2) hns)

theorem renderItems_purify {depth d : Nat} (hd : d ≤ depth) {tight : Bool} :
    ∀ {items : List (List Node)} {out : List Markup},
      (∀ item ∈ items, ∀ n ∈ item, n.Throughout p.KeepsTight) →
        (tight = true → ∀ item ∈ items, ∀ n ∈ item, ¬ p.DissolvesSection n) →
          renderItems ⟨soft, .sanitize p⟩ r depth tight items = .ok out →
            renderItems ⟨soft, .parseUnsafe⟩ r d tight (p.purifyItems items) = .ok out
  | [], _, _, _, h => h
  | item :: items, _, hkeeps, htop, h => by
    obtain ⟨content, hcontent, h⟩ := bind_eq_ok_iff.1 h
    obtain ⟨rest, hrest, h⟩ := bind_eq_ok_iff.1 h
    obtain ⟨hhead, htail⟩ := List.forall_mem_cons.1 hkeeps
    rw [Policy.purifyItems, renderItems,
      renderBlocks_purify hd hhead (fun ht ↦ (List.forall_mem_cons.1 (htop ht)).1) hcontent,
      renderItems_purify hd htail (fun ht ↦ (List.forall_mem_cons.1 (htop ht)).2) hrest]
    exact h

end

/-- **Sanitising is purifying**: what a document is rendered to under a policy, the purified
document is rendered to with its raw HTML kept. -/
theorem renderDocument_purify {blocks : List Node} {nodes : List Markup}
    (hkeeps : ∀ n ∈ nodesOf blocks, p.KeepsTight n)
    (h : renderDocument ⟨soft, .sanitize p⟩ r blocks = .ok nodes) :
    renderDocument ⟨soft, .parseUnsafe⟩ r (p.purify blocks) = .ok nodes :=
  renderBlocks_purify (Nat.le_refl 0) (forall_mem_nodesOf.1 hkeeps) (by simp) h

/-- A section around a tight list, with allowed, dropped and replaced elements in the list. -/
def openSection : List Node :=
  [.htmlSection "section" [("id", "s")] [.text "a"]
    [.list .unordered
      [[.paragraph
        [.htmlElement "b" [("onclick", "f()"), ("class", "c")]
          [.htmlElement "i" [] [.text "d", .rawHtml "<!-- e -->"] "<i>" "</i>" false] "<b>" "</b>"
          false,
          .htmlElement "img" [("src", "x")] [] "<img src=x>" "" true]]] true]
    "<section id=s>a" "</section>"]

/-- The policy that keeps bold text and classes. -/
def boldOnly : Policy := ⟨.ofList ["b"], .ofList ["class"]⟩

theorem renderDocument_purify_openSection :
    (∀ n ∈ nodesOf openSection, boldOnly.KeepsTight n) ∧
      ∃ nodes, nodes = [.text "a", .element "ul" []
          [.element "li" [] [.element "b" [("class", "c")] [.text "d"]]]] ∧
        renderDocument ⟨false, .sanitize boldOnly⟩ .standard openSection = .ok nodes ∧
          renderDocument ⟨false, .parseUnsafe⟩ .standard (boldOnly.purify openSection) =
            .ok nodes := by
  have hkeeps : ∀ n ∈ nodesOf openSection, boldOnly.KeepsTight n := by
    simp [openSection, nodesOf, Document.nodesOfItems, Node.inside, Policy.KeepsTight,
      Policy.DissolvesSection]
  have hrender : renderDocument ⟨false, .sanitize boldOnly⟩ .standard openSection =
      .ok [.text "a", .element "ul" []
        [.element "li" [] [.element "b" [("class", "c")] [.text "d"]]]] := rfl
  exact ⟨hkeeps, _, rfl, hrender, renderDocument_purify hkeeps hrender⟩

end SafeMarkdown
