import SafeMarkdown.Document.OfSyntax
import SafeMarkdown.Proofs.Html.Builder
import SafeMarkdown.Proofs.Html.Written

/-!
# Reading back what was written

A list of markup nodes in normal form is written as HTML text from which the same nodes are read.
Normal form asks for what writing loses: plain names, attributes without repetition, no raw text
elements, nothing inside void elements, no texts side by side and none that is mere space.

Reading goes through tokens. `Spells` tells which token lists stand for which nodes: a text may be
in pieces, and a void element may have an end tag or none, because the serialiser knows fewer void
elements than the reader does. Writing gives text that is read to such tokens
(`exists_spells_readsTo`), and from such tokens the builder of trees makes the nodes
(`flush_foldl_of_spells`). The inlines that conversion makes of the nodes are these nodes again, as
raw elements and texts (`ofMarkups_readHtml_toHtml`).

## What is not asked

Beyond that, nothing is asked of the characters in texts and values: whatever they hold is escaped
and read back, line ends and quotes and ampersands included. Nothing is asked of the order or number
of attributes but that no name comes twice. The height of the nodes is bounded by the limit of
depth, because conversion refuses what is deeper; reading itself would go on.
-/

namespace SafeMarkdown

open Html (IsPlainName Token Builder ReadsTo EndsText rawTextTags)

namespace Markup

/-- The node is a text. -/
def isText : Markup → Bool
  | text _ => true
  | element .. => false

/-- What normal form asks of an element apart from its children. -/
structure NormalTag (tag : String) (attrs : List Attr) (children : List Markup) : Prop where
  name : IsPlainName tag
  notRaw : tag ∉ rawTextTags
  empty_of_void : tag ∈ Html.voidTags → children = []
  attrNames : ∀ a ∈ attrs, IsPlainName a.1
  attrsDistinct : (attrs.map Prod.fst).Nodup

instance (tag : String) (attrs : List Attr) (children : List Markup) :
    Decidable (NormalTag tag attrs children) :=
  decidable_of_iff (IsPlainName tag ∧ tag ∉ rawTextTags ∧
      (tag ∈ Html.voidTags → children.isEmpty = true) ∧ (∀ a ∈ attrs, IsPlainName a.1) ∧
      (attrs.map Prod.fst).Nodup)
    ⟨fun ⟨h₁, h₂, h₃, h₄, h₅⟩ ↦ ⟨h₁, h₂, fun h ↦ List.isEmpty_iff.1 (h₃ h), h₄, h₅⟩,
      fun ⟨h₁, h₂, h₃, h₄, h₅⟩ ↦ ⟨h₁, h₂, fun h ↦ List.isEmpty_iff.2 (h₃ h), h₄, h₅⟩⟩

mutual

/-- The node is in normal form. -/
def Normal : Markup → Prop
  | text value => ∃ c ∈ value.toList, Text.isHtmlSpace c = false
  | element tag attrs children => NormalTag tag attrs children ∧ NormalList children

/-- The nodes are in normal form, and no two texts stand side by side. -/
def NormalList : List Markup → Prop
  | [] => True
  | n :: ns => n.Normal ∧ NormalList ns ∧ (n.isText = true → ∀ m ∈ ns.head?, m.isText = false)

end

mutual

/-- Normal form can be checked. -/
def decideNormal : (n : Markup) → Decidable n.Normal
  | text value =>
    decidable_of_iff (value.toList.any (fun c ↦ !Text.isHtmlSpace c) = true)
      (by simp only [List.any_eq_true, Bool.not_eq_true', Normal])
  | element tag attrs children =>
    @instDecidableAnd (NormalTag tag attrs children) (NormalList children) _
      (decideNormalList children)

/-- Normal form can be checked node by node. -/
def decideNormalList : (ns : List Markup) → Decidable (NormalList ns)
  | [] => inferInstanceAs (Decidable True)
  | n :: ns =>
    @instDecidableAnd n.Normal _ (decideNormal n)
      (@instDecidableAnd (NormalList ns) _ (decideNormalList ns) inferInstance)

end

instance (ns : List Markup) : Decidable (NormalList ns) :=
  decideNormalList ns

mutual

/-- The number of elements inside one another, the node included. -/
def height : Markup → Nat
  | text _ => 0
  | element _ _ children => heights children + 1

/-- The greatest height among the nodes. -/
def heights : List Markup → Nat
  | [] => 0
  | n :: ns => max n.height (heights ns)

end

end Markup

open Markup (Normal NormalList NormalTag heights listChars toHtml)

/-- The tokens stand for the nodes. -/
inductive Spells : List Markup → List Token → Prop
  | nil : Spells [] []
  | text {value : String} {pieces : List (List Char)} {ns : List Markup} {ts : List Token}
      (whole : pieces.flatten = value.toList) (rest : Spells ns ts) :
      Spells (.text value :: ns) (pieces.map .text ++ ts)
  | lone {tag : String} {attrs : List Attr} {ns : List Markup} {ts : List Token}
      (void : tag ∈ Html.voidTags) (rest : Spells ns ts) :
      Spells (.element tag attrs [] :: ns) (.startTag tag attrs false :: ts)
  | element {tag : String} {attrs : List Attr} {children ns : List Markup}
      {inner ts : List Token} (inside : Spells children inner) (rest : Spells ns ts) :
      Spells (.element tag attrs children :: ns)
        (.startTag tag attrs false :: (inner ++ .endTag tag :: ts))

/-! ### From nodes to tokens -/

/-- A start tag ends a text. -/
theorem endsText_startTag (tag : String) (attrs : List Attr) (s : List Char) :
    EndsText (Markup.startTag tag attrs ++ s) := by
  rintro c hc
  exact (Option.some.inj hc).symm

/-- So does an end tag. -/
theorem endsText_endTag (tag : String) (s : List Char) : EndsText (Markup.endTag tag ++ s) := by
  rintro c hc
  exact (Option.some.inj hc).symm

/-- After a text comes an element or the end. -/
theorem endsText_listChars {ns : List Markup} (h : ∀ m ∈ ns.head?, m.isText = false)
    {s : List Char} (hs : EndsText s) : EndsText (listChars false ns ++ s) := by
  match ns with
  | [] => exact hs
  | .text value :: ns => exact absurd (h _ rfl) (by simp [Markup.isText])
  | .element tag attrs children :: ns =>
    rw [listChars, Markup.chars]
    split
    · rw [List.append_assoc]
      exact endsText_startTag tag attrs _
    · simp only [List.append_assoc]
      exact endsText_startTag tag attrs _

/-- What is written of nodes in normal form is read to tokens that stand for the nodes. -/
theorem exists_spells_readsTo :
    ∀ {ns : List Markup}, NormalList ns → ∀ {s : List Char}, EndsText s →
      ∃ ts, Spells ns ts ∧ ReadsTo (listChars false ns ++ s) ts s
  | [], _, s, _ => ⟨[], .nil, Html.readsTo_refl s⟩
  | .text value :: ns, ⟨_, hns, hapart⟩, s, hs => by
    obtain ⟨ts, hspells, hreads⟩ := exists_spells_readsTo hns hs
    obtain ⟨pieces, hwhole, hpieces⟩ :=
      Html.exists_readsTo_text (endsText_listChars (hapart rfl) hs) value.toList
    refine ⟨pieces.map .text ++ ts, .text hwhole hspells, ?_⟩
    rw [listChars, Markup.chars, if_neg Bool.false_ne_true, List.append_assoc]
    exact hpieces.trans hreads
  | .element tag attrs children :: ns, ⟨⟨htag, hchildren⟩, hns, _⟩, s, hs => by
    obtain ⟨ts, hspells, hreads⟩ := exists_spells_readsTo hns hs
    have hstart := Html.readsTo_startTag htag.name htag.notRaw htag.attrNames htag.attrsDistinct
    rw [listChars, Markup.chars]
    split
    · rename_i hvoid
      obtain ⟨hvoid, rfl⟩ := hvoid
      refine ⟨_, .lone (Html.voidTags_subset hvoid) hspells, ?_⟩
      rw [List.append_assoc]
      exact (hstart _).trans hreads
    · obtain ⟨inner, hinside, hinner⟩ := exists_spells_readsTo hchildren
        (endsText_endTag tag (listChars false ns ++ s))
      have hraw : decide (tag ∈ Markup.rawTextTags) = false := decide_eq_false htag.notRaw
      refine ⟨_, .element hinside hspells, ?_⟩
      rw [hraw]
      simp only [List.append_assoc]
      exact (hstart _).trans (hinner.trans ((Html.readsTo_endTag htag.name _).trans hreads))

/-! ### From tokens to nodes -/

section Builder

open Html.Builder (flush_of_pending_eq_nil stack_flush pending_flush spent_flush)

variable {b : Builder}

theorem flush_mk (stack : List Html.OpenElement) (nodes : List Markup) (spent : List String) :
    (⟨stack, nodes, [], spent⟩ : Builder).flush = ⟨stack, nodes, [], spent⟩ := rfl

/-- A text that is more than space is kept as it is. -/
theorem flush_text {value : String} (h : (Markup.text value).Normal) (b : Builder) :
    ({ b with pending := value.toList } : Builder).flush =
      { b with nodes := .text value :: b.nodes, pending := [] } := by
  obtain ⟨c, hc, hspace⟩ := h
  have hne : value.toList.isEmpty = false := by
    cases hv : value.toList with
    | nil => simp [hv] at hc
    | cons => rfl
  have hall : value.toList.all Text.isHtmlSpace = false :=
    List.all_eq_false.2 ⟨c, hc, Bool.eq_false_iff.1 hspace⟩
  have hkept (keep : Bool) : Builder.normalSpace keep value.toList = value.toList := by
    rw [Builder.normalSpace, hall, Bool.and_false, if_neg Bool.false_ne_true]
  unfold Builder.flush
  rw [hne, if_neg Bool.false_ne_true]
  simp only [hkept, String.ofList_toList]

/-- The pieces of a text are put together. -/
theorem foldl_add_pieces (pieces : List (List Char)) (b : Builder) :
    (pieces.map Token.text).foldl Builder.add b =
      { b with pending := b.pending ++ pieces.flatten } := by
  induction pieces generalizing b with
  | nil =>
    rw [List.flatten_nil, List.append_nil]
    rfl
  | cons piece pieces ih =>
    rw [List.map_cons, List.foldl_cons, ih, List.flatten_cons, ← List.append_assoc]
    rfl

/-- A void element is complete with its start tag, and an end tag for it is waited for. -/
theorem startTag_of_void {tag : String} (h : tag ∈ Html.voidTags) (b : Builder)
    (attrs : List Attr) :
    b.startTag tag attrs false =
      ⟨b.stack, .element tag attrs [] :: b.flush.nodes, [], tag :: b.spent⟩ := by
  have hpop : (b.flush.push tag attrs).pop tag =
      { b.flush with nodes := .element tag attrs [] :: b.flush.nodes } :=
    Builder.pop_push b.flush tag attrs []
  unfold Builder.startTag
  simp only [Bool.false_eq_true, if_false, if_pos h, hpop, stack_flush, pending_flush, spent_flush]

/-- A start tag that is not void opens an element. -/
theorem startTag_of_not_void {tag : String} (h : tag ∉ Html.voidTags) (b : Builder)
    (attrs : List Attr) :
    b.startTag tag attrs false = ⟨⟨tag, attrs, b.flush.nodes⟩ :: b.stack, [], [], b.spent⟩ := by
  unfold Builder.startTag
  simp only [Bool.false_eq_true, if_false, if_neg h, Builder.push, stack_flush, pending_flush,
    spent_flush]

/-- The end tag of an element that is not void and stands innermost closes it. -/
theorem endTag_of_not_mem_spent {tag : String} (h : tag ∉ b.spent) {attrs : List Attr}
    {before children : List Markup} {stack : List Html.OpenElement}
    (hflush : b.flush = ⟨⟨tag, attrs, before⟩ :: stack, children.reverse, [], b.spent⟩) :
    b.endTag tag = ⟨stack, .element tag attrs children :: before, [], b.spent⟩ := by
  rw [Builder.endTag, if_neg h, hflush]
  exact Builder.pop_push ⟨stack, before, [], b.spent⟩ tag attrs children

/-- **What tokens build.** The nodes that the tokens stand for come after those that are there, and
no element is left open. Only void elements are waited for, before and after. -/
theorem flush_foldl_of_spells {ns : List Markup} {ts : List Token} (hspells : Spells ns ts)
    (hns : NormalList ns) (hspent : ∀ t ∈ b.spent, t ∈ Html.voidTags)
    (hpending : b.pending ≠ [] → ∀ m ∈ ns.head?, m.isText = false) :
    ∃ spent, (∀ t ∈ spent, t ∈ Html.voidTags) ∧
      (ts.foldl Builder.add b).flush = ⟨b.stack, ns.reverse ++ b.flush.nodes, [], spent⟩ := by
  -- a text is pending only where an element or the end comes next, so no two texts run together
  induction hspells generalizing b with
  | nil =>
    refine ⟨b.spent, hspent, ?_⟩
    rw [List.foldl_nil, List.reverse_nil, List.nil_append, ← stack_flush, ← pending_flush b,
      ← spent_flush]
  | @text value pieces ns ts hwhole hspells ih =>
    obtain ⟨hvalue, hns, hapart⟩ := hns
    have hempty : b.pending = [] := by
      by_contra hne
      exact absurd (hpending hne _ rfl) (by simp [Markup.isText])
    have hflush := flush_text hvalue b
    obtain ⟨spent, hvoid, hrest⟩ := ih (b := { b with pending := value.toList }) hns hspent
      fun _ ↦ hapart rfl
    refine ⟨spent, hvoid, ?_⟩
    rw [List.foldl_append, foldl_add_pieces, hwhole, hempty, List.nil_append, hrest, hflush,
      List.reverse_cons, List.append_assoc, flush_of_pending_eq_nil hempty]
    rfl
  | @lone tag attrs ns ts hvoid hspells ih =>
    obtain ⟨spent, hspent', hrest⟩ := ih
      (b := ⟨b.stack, .element tag attrs [] :: b.flush.nodes, [], tag :: b.spent⟩) hns.2.1
      (List.forall_mem_cons.2 ⟨hvoid, hspent⟩) (absurd rfl)
    refine ⟨spent, hspent', ?_⟩
    rw [List.foldl_cons, Builder.add, startTag_of_void hvoid, hrest, flush_mk,
      List.reverse_cons, List.append_assoc]
    rfl
  | @element tag attrs children ns inner ts hinside hspells ihInside ih =>
    obtain ⟨⟨htag, hchildren⟩, hns, -⟩ := hns
    obtain ⟨spent, hspent', hclosed⟩ : ∃ spent, (∀ t ∈ spent, t ∈ Html.voidTags) ∧
        (inner.foldl Builder.add (b.startTag tag attrs false)).endTag tag =
          ⟨b.stack, .element tag attrs children :: b.flush.nodes, [], spent⟩ := by
      by_cases hvoid : tag ∈ Html.voidTags
      · -- the element is complete already, and the end tag is spent on it
        obtain rfl := htag.empty_of_void hvoid
        cases hinside
        refine ⟨b.spent, hspent, ?_⟩
        rw [List.foldl_nil, startTag_of_void hvoid, Builder.endTag,
          if_pos List.mem_cons_self, List.erase_cons_head]
      · obtain ⟨spent, hspent', hinner⟩ := ihInside
          (b := ⟨⟨tag, attrs, b.flush.nodes⟩ :: b.stack, [], [], b.spent⟩) hchildren hspent
          (absurd rfl)
        rw [flush_mk, List.append_nil] at hinner
        rw [startTag_of_not_void hvoid]
        generalize inner.foldl Builder.add _ = built at hinner
        obtain rfl : built.spent = spent := by rw [← spent_flush, hinner]
        have hwaits : tag ∉ built.spent := fun h ↦ hvoid (hspent' tag h)
        exact ⟨built.spent, hspent', endTag_of_not_mem_spent hwaits hinner⟩
    obtain ⟨spent'', hspent'', hrest⟩ := ih
      (b := ⟨b.stack, .element tag attrs children :: b.flush.nodes, [], spent⟩) hns hspent'
      (absurd rfl)
    refine ⟨spent'', hspent'', ?_⟩
    rw [List.foldl_cons, List.foldl_append, List.foldl_cons, Builder.add, Builder.add, hclosed,
      hrest, flush_mk, List.reverse_cons, List.append_assoc]
    rfl

end Builder

/-- Reading what was written of nodes in normal form gives the nodes. -/
theorem parse_toHtml {nodes : List Markup} (h : NormalList nodes) :
    Html.parse (toHtml nodes) = .ok nodes := by
  have hend : EndsText [] := fun _ hc ↦ by cases hc
  obtain ⟨ts, hspells, hreads⟩ := exists_spells_readsTo h hend
  rw [List.append_nil] at hreads
  obtain ⟨spent, -, hbuilt⟩ := flush_foldl_of_spells (b := .empty) hspells h
    (List.forall_mem_nil _) (absurd rfl)
  have htree : Html.treeOfTokens ts = nodes := by
    rw [Html.treeOfTokens, Builder.finish, hbuilt]
    show (nodes.reverse ++ []).reverse = nodes
    rw [List.append_nil, List.reverse_reverse]
  rw [Html.parse, toHtml, String.toList_ofList, hreads.tokens_eq]
  exact congrArg Except.ok htree

/-! ### From nodes to inlines -/

namespace Document

mutual

/-- The node as an inline of a document: a text, or a raw element whose source is not known. -/
def rawInline : Markup → Node
  | .text value => .text value
  | .element tag attrs children =>
    .htmlElement tag attrs (rawInlines children) "" "" (tag ∈ Html.voidTags)

/-- The nodes as inlines of a document. -/
def rawInlines : List Markup → List Node
  | [] => []
  | n :: ns => rawInline n :: rawInlines ns

end

mutual

/-- Markup within the limit is converted to its raw node. -/
theorem ofMarkup_eq {depth : Nat} :
    ∀ {n : Markup}, depth + n.height ≤ depthLimit → ofMarkup depth n = .ok (rawInline n)
  | .text _, _ => rfl
  | .element tag attrs children, h => by
    rw [Markup.height] at h
    rw [ofMarkup, ofMarkups_eq (by omega)]
    rfl

/-- Nodes are taken as they are where their elements stay within the limit of depth. -/
theorem ofMarkups_eq {depth : Nat} :
    ∀ {ns : List Markup}, depth + heights ns ≤ depthLimit →
      ofMarkups depth ns = .ok (rawInlines ns)
  | [], h => by
    have hcheck : checkDepth depth = .ok () := if_neg (by omega)
    rw [ofMarkups, hcheck]
    rfl
  | n :: ns, h => by
    rw [heights] at h
    have hcheck : checkDepth depth = .ok () := if_neg (by omega)
    rw [ofMarkups, hcheck, ofMarkup_eq (by omega), ofMarkups_eq (by omega)]
    rfl

end

/-- **Reading back what was written.** Of the HTML text of nodes in normal form, within the limit of
depth, conversion makes the same nodes: the same texts, and elements with the same tag, attributes
and children. -/
theorem ofMarkups_readHtml_toHtml {nodes : List Markup} (h : NormalList nodes)
    (hdepth : heights nodes ≤ depthLimit) :
    (readHtml (toHtml nodes) >>= ofMarkups 0) = .ok (rawInlines nodes) := by
  rw [readHtml, parse_toHtml h, mapError_ok, ok_bind]
  exact ofMarkups_eq (by omega)

/-- Texts and values with every character that is escaped, elements of both kinds of void, and texts
between elements. -/
def writtenNodes : List Markup :=
  [.text " 1 < 2 & \"3\" > '4' ",
    .element "p" [("class", "a \"&lt;\" b"), ("data-x", "")]
      [.element "param" [("name", "n")] [], .text "&amp;", .element "br" [] [], .element "b" [] []]]

theorem ofMarkups_readHtml_writtenNodes :
    NormalList writtenNodes ∧ heights writtenNodes ≤ depthLimit ∧
      (readHtml (toHtml writtenNodes) >>= ofMarkups 0) = .ok (rawInlines writtenNodes) := by
  have hnormal : NormalList writtenNodes := by decide
  have hdepth : heights writtenNodes ≤ depthLimit := by decide
  exact ⟨hnormal, hdepth, ofMarkups_readHtml_toHtml hnormal hdepth⟩

end Document

end SafeMarkdown
