import SafeMarkdown.Proofs.Conversion.Outcome

/-!
# The text that stands for an image

The text of an image is read off the syntax tree below it, node after node. The conversion of the
same nodes goes by their tags: it turns a pair of tags into an element and moves what stands between
them into it. Neither changes the order of the texts, so the text of an image is that of its
children as they are converted, where the tags themselves have none (`alt_eq_inlineTexts_iff`).

There is one thing that the two treat differently. A tag in running text is a leaf for the
conversion, which looks at its source and at nothing below it, while the text of an image takes in
all that it finds. `TagsEmpty` says that below the tags there is no text, as in the trees that
reading Markdown gives. Where there is some, the text of the image is longer.
-/

namespace SafeMarkdown

namespace Syntax

open Document (plainText plainTexts)

mutual

/-- The text of a node with nothing of what stands below a tag. -/
def Node.untaggedText : Node → String
  | ⟨kind, content, _, _, _, _, children⟩ =>
    match kind with
    | .text | .textSpecial | .codeInline => content
    | .softBreak | .hardBreak => "\n"
    | .image => plainTexts children
    | .htmlInline => ""
    | _ => untaggedTexts children

/-- The texts of a list of nodes, one after the other. -/
def untaggedTexts : List Node → String
  | [] => ""
  | n :: ns => n.untaggedText ++ untaggedTexts ns

end

mutual

/-- There is no text below a tag, at the node or below it. What shows its own text is not looked
into, and neither is an image. -/
def Node.TagEmpty : Node → Prop
  | ⟨kind, _, _, _, _, _, children⟩ =>
    match kind with
    | .text | .textSpecial | .codeInline | .softBreak | .hardBreak | .image => True
    | .htmlInline => plainTexts children = ""
    | _ => TagsEmpty children

/-- There is no text below the tags of a list of nodes. -/
def TagsEmpty : List Node → Prop
  | [] => True
  | n :: ns => n.TagEmpty ∧ TagsEmpty ns

end

/-- The untagged text of a node depends on its kind only. -/
theorem untaggedText_eq (n : Node) :
    n.untaggedText =
      match n.kind with
      | .text | .textSpecial | .codeInline => n.content
      | .softBreak | .hardBreak => "\n"
      | .image => plainTexts n.children
      | .htmlInline => ""
      | _ => untaggedTexts n.children := by
  obtain ⟨kind, _, _, _, _, _, _⟩ := n
  cases kind <;> rfl

@[simp] theorem untaggedTexts_singleton (n : Node) : untaggedTexts [n] = n.untaggedText := by
  rw [untaggedTexts, untaggedTexts, String.append_empty]

/-- Untagged texts of two lists follow one another. -/
theorem untaggedTexts_append (ns ms : List Node) :
    untaggedTexts (ns ++ ms) = untaggedTexts ns ++ untaggedTexts ms := by
  induction ns with
  | nil => exact String.empty_append.symm
  | cons n ns ih => rw [List.cons_append, untaggedTexts, untaggedTexts, ih, String.append_assoc]

/-- The tags of a pair add nothing to what stands between them. -/
theorem untaggedTexts_pair {opening closing : Node} {inner : List Node}
    (hopening : opening.kind = .htmlInline) (hclosing : closing.kind = .htmlInline) :
    untaggedTexts (opening :: (inner ++ [closing])) = untaggedTexts inner := by
  have hopening : opening.untaggedText = "" := by rw [untaggedText_eq, hopening]
  have hclosing : closing.untaggedText = "" := by rw [untaggedText_eq, hclosing]
  rw [untaggedTexts, untaggedTexts_append, untaggedTexts_singleton, hopening, hclosing,
    String.empty_append, String.append_empty]

/-! ### What stands below tags -/

/-- Texts that are joined from parts, none of them shorter than its counterpart, are equal part by
part. -/
theorem append_eq_append_iff_of_length_le {a a' b b' : String} (ha : a'.length ≤ a.length)
    (hb : b'.length ≤ b.length) : a ++ b = a' ++ b' ↔ a = a' ∧ b = b' := by
  constructor
  · intro h
    have hlength := congrArg String.length h
    rw [String.length_append, String.length_append] at hlength
    have hlists : a.toList ++ b.toList = a'.toList ++ b'.toList := by
      rw [← String.toList_append, h, String.toList_append]
    have hfirst : a.toList.length = a'.toList.length := by
      rw [String.length_toList, String.length_toList]
      omega
    obtain ⟨hab, hab'⟩ := List.append_inj hlists hfirst
    exact ⟨String.toList_inj.1 hab, String.toList_inj.1 hab'⟩
  · rintro ⟨rfl, rfl⟩
    rfl

mutual

/-- The untagged text is never longer than the plain text. -/
theorem length_untaggedText_le : ∀ n : Node, n.untaggedText.length ≤ (plainText n).length
  | ⟨kind, _, _, _, _, _, children⟩ => by
    have hchildren := length_untaggedTexts_le children
    cases kind
    case text | textSpecial | codeInline | softBreak | hardBreak | image => exact Nat.le_refl _
    case htmlInline => exact Nat.zero_le _
    all_goals exact hchildren

theorem length_untaggedTexts_le : ∀ ns : List Node,
    (untaggedTexts ns).length ≤ (plainTexts ns).length
  | [] => Nat.le_refl _
  | n :: ns => by
    rw [untaggedTexts, plainTexts, String.length_append, String.length_append]
    exact Nat.add_le_add (length_untaggedText_le n) (length_untaggedTexts_le ns)

end

mutual

/-- **The two texts agree** exactly where no tag holds text of its own. -/
theorem plainText_eq_untaggedText_iff : ∀ n : Node,
    plainText n = n.untaggedText ↔ n.TagEmpty
  | ⟨kind, _, _, _, _, _, children⟩ => by
    have hchildren := plainTexts_eq_untaggedTexts_iff children
    cases kind
    case text | textSpecial | codeInline | softBreak | hardBreak | image =>
      exact iff_of_true rfl trivial
    case htmlInline => exact Iff.rfl
    all_goals exact hchildren

/-- **The text of nodes is that of the nodes without what stands below their tags, when nothing
does.** -/
theorem plainTexts_eq_untaggedTexts_iff : ∀ ns : List Node,
    plainTexts ns = untaggedTexts ns ↔ TagsEmpty ns
  | [] => iff_of_true rfl trivial
  | n :: ns => by
    rw [plainTexts, untaggedTexts, append_eq_append_iff_of_length_le (length_untaggedText_le n)
      (length_untaggedTexts_le ns), plainText_eq_untaggedText_iff n,
      plainTexts_eq_untaggedTexts_iff ns, TagsEmpty]

end

end Syntax

namespace Document

open Syntax (untaggedTexts untaggedTexts_singleton untaggedTexts_append untaggedTexts_pair
  untaggedText_eq TagsEmpty)

mutual

/-- The text of an inline: a line break is a line feed, an image has the text that stands for it,
and a tag has none. -/
def Node.inlineText : Node → String
  | .text value => value
  | .codeSpan text => text
  | .softBreak | .hardBreak => "\n"
  | .image image => image.alt
  | .emphasis children | .strong children | .link _ children => inlineTexts children
  | .htmlElement _ _ children _ _ _ => inlineTexts children
  | _ => ""

/-- The texts of a list of inlines, one after the other. -/
def inlineTexts : List Node → String
  | [] => ""
  | n :: ns => n.inlineText ++ inlineTexts ns

end

/-- The inline has the text of the siblings that it was made from. -/
def KeepsText (_ : Nat) (stretch : List Syntax.Node) (n : Node) : Prop :=
  n.inlineText = untaggedTexts stretch

variable {depth : Nat} {m : Syntax.Node} {n : Node}

/-- A node with the untagged text of one sibling keeps the text. -/
theorem keepsText_of_untaggedText (h : n.inlineText = m.untaggedText) : KeepsText depth [m] n := by
  rw [KeepsText, untaggedTexts_singleton, h]

/-- Converted siblings have the texts of the siblings, in their order. -/
theorem inlineTexts_eq_untaggedTexts {siblings : List Syntax.Node} {ns : List Node}
    (h : MadeAt KeepsText depth siblings ns) : inlineTexts ns = untaggedTexts siblings := by
  obtain ⟨-, hmade⟩ := h
  induction hmade with
  | nil => rfl
  | cons head _ ih => rw [inlineTexts, untaggedTexts_append, head, ih]

/-- An inline around its children has their text. -/
theorem keepsText_children {children : List Node}
    (hnode : n.inlineText = inlineTexts children)
    (hsibling : m.untaggedText = untaggedTexts m.children)
    (hmade : MadeAt KeepsText (depth + 1) m.children children) : KeepsText depth [m] n :=
  keepsText_of_untaggedText (by rw [hnode, hsibling, inlineTexts_eq_untaggedTexts hmade])

/-- An image has the plain text of its children. -/
theorem plainText_of_kind_eq_image (h : m.kind = .image) : plainText m = plainTexts m.children := by
  obtain ⟨kind, _, _, _, _, _, _⟩ := m
  obtain rfl : kind = .image := h
  rfl

/-- **Every rule of conversion keeps the untagged text.** -/
theorem conversionRules_keepsText : ConversionRules KeepsText fun _ _ _ ↦ True where
  text hkind := keepsText_of_untaggedText (by
    rw [untaggedText_eq]
    rcases hkind with hkind | hkind <;> rw [hkind] <;> rfl)
  softBreak hkind := keepsText_of_untaggedText (by
    rw [untaggedText_eq, hkind]
    rfl)
  hardBreak hkind := keepsText_of_untaggedText (by
    rw [untaggedText_eq, hkind]
    rfl)
  codeSpan hkind := keepsText_of_untaggedText (by
    rw [untaggedText_eq, hkind]
    rfl)
  image hkind := keepsText_of_untaggedText (by
    rw [untaggedText_eq, hkind]
    exact plainText_of_kind_eq_image hkind)
  emphasis hkind h := keepsText_children rfl (by rw [untaggedText_eq, hkind]) h
  strong hkind h := keepsText_children rfl (by rw [untaggedText_eq, hkind]) h
  link hkind h := keepsText_children rfl (by rw [untaggedText_eq, hkind]) h
  rawHtml hkind := keepsText_of_untaggedText (by
    rw [untaggedText_eq, hkind]
    rfl)
  lone hkind _ _ := keepsText_of_untaggedText (by
    rw [untaggedText_eq, hkind]
    rfl)
  paired hopening hclosing _ _ _ h := by
    rw [KeepsText, untaggedTexts_pair hopening hclosing, ← inlineTexts_eq_untaggedTexts h]
    rfl
  paragraph _ _ := trivial
  heading _ _ _ := trivial
  blockQuote _ _ := trivial
  fence _ := trivial
  codeBlock _ := trivial
  bulletList _ _ := trivial
  orderedList _ _ _ := trivial
  thematicBreak _ := trivial
  htmlBlock _ _ _ := trivial
  htmlSection _ _ _ _ _ _ := trivial

/-- An image is converted by itself, at every depth. -/
theorem ofInline_of_kind_eq_image (h : m.kind = .image) (depth : Nat) :
    ofInline m depth = .ok (.image ⟨plainText m, addressAttr "src" m, titleAttr m⟩) := by
  obtain ⟨kind, _, _, _, _, _, _⟩ := m
  obtain rfl : kind = .image := h
  rw [ofInline]

/-- **The text of an image is the text of its converted children**, however their tags pair up,
exactly when there is no text below the tags. -/
theorem alt_eq_inlineTexts_iff {image : Syntax.Node} {depth : Nat} {ns : List Node}
    (hkind : image.kind = .image)
    (h : ofInlines (inlineSiblings image.children) depth = .ok ns) :
    ∃ i : Image, (∀ d, ofInline image d = .ok (.image i)) ∧
      (i.alt = inlineTexts ns ↔ TagsEmpty image.children) := by
  refine ⟨_, ofInline_of_kind_eq_image hkind, ?_⟩
  have hmade := conversionRules_keepsText.madeAt_of_ofInlines
    (conversionRules_keepsText.gives_inlineSiblings image.children) h
  rw [inlineTexts_eq_untaggedTexts hmade, plainText_of_kind_eq_image hkind]
  exact Syntax.plainTexts_eq_untaggedTexts_iff image.children

/-- An image of code and of another image, with tags that cross. -/
def crossedImage : Syntax.Node :=
  { kind := .image, attrs := [("src", .text "x.png")], children :=
    [{ kind := .htmlInline, content := "<b>" }, { kind := .codeInline, content := "x" },
      { kind := .htmlInline, content := "<i>" }, { kind := .softBreak },
      { kind := .htmlInline, content := "</b>" },
      { kind := .image, children := [{ kind := .text, content := "y" }] },
      { kind := .htmlInline, content := "</i>" }] }

theorem alt_crossedImage :
    ∃ ns, ofInlines (inlineSiblings crossedImage.children) 1 = .ok ns ∧
      inlineTexts ns = "x\ny" ∧
        ofInline crossedImage 0 = .ok (.image ⟨inlineTexts ns, "x.png", none⟩) := by
  have hconv : ofInlines (inlineSiblings crossedImage.children) 1 =
      .ok [.htmlElement "b" [] [.codeSpan "x", .htmlElement "i" [] [] "<i>" "" false, .softBreak]
          "<b>" "</b>" false, .image ⟨"y", "", none⟩, .rawHtml "</i>"] := by
    with_unfolding_all rfl
  have hempty : TagsEmpty crossedImage.children :=
    ⟨rfl, trivial, rfl, trivial, rfl, trivial, rfl, trivial⟩
  obtain ⟨i, hi, halt⟩ := alt_eq_inlineTexts_iff rfl hconv
  have himage : i = ⟨"x\ny", "x.png", none⟩ := by
    have hread := (hi 0).symm.trans (ofInline_of_kind_eq_image rfl 0)
    cases hread
    rfl
  refine ⟨_, hconv, rfl, ?_⟩
  rw [hi, ← halt.2 hempty, himage]

/-- An image of a tag that has a text below it. -/
def overfullImage : Syntax.Node :=
  { kind := .image, children :=
    [{ kind := .htmlInline, content := "<b>", children := [{ kind := .text, content := "x" }] }] }

/-- **A text below a tag stands for the image, and is not converted**, although all kinds are
known. -/
theorem alt_ne_overfullImage :
    (∀ tag ∈ overfullImage.children,
      Syntax.SupportedInline tag ∧ Syntax.SupportedInlines tag.children) ∧
    ofInline overfullImage 2 = .ok (.image ⟨"x", "", none⟩) ∧
    ∃ ns, ofInlines (inlineSiblings overfullImage.children) 3 = .ok ns ∧ "x" ≠ inlineTexts ns := by
  have hconv : ofInlines (inlineSiblings overfullImage.children) 3 =
      .ok [.htmlElement "b" [] [] "<b>" "" false] := by
    with_unfolding_all rfl
  refine ⟨?_, rfl, _, hconv, by decide⟩
  intro tag htag
  obtain rfl := List.mem_singleton.1 htag
  exact ⟨trivial, trivial, trivial⟩

end Document

end SafeMarkdown
