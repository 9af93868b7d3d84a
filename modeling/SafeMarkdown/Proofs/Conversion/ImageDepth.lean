import SafeMarkdown.Proofs.Conversion.ImageText

/-!
# How deep the text of an image goes

Conversion counts the depth at which it works and stops at a limit. The text that stands for an
image is taken by a recursion of its own, which counts nothing: the text of a node is that of its
children, however deep they nest. On a machine the recursion runs on a stack, and a stack ends.

`plainText?` is the same recursion with a stack that has room for so many nested calls. It gives the
text of a node exactly when the nodes nest no deeper than that (`plainText?_eq_some_iff`). So under
the assumption `ShallowImages`, that no image of a tree nests deeper than the limit of depth, the
limit holds of the whole conversion, as it should. Nothing in the conversion sees to the assumption:
for every room there is an image that is converted at every depth and whose text takes more
(`plainText?_deepImage`).

## Choice of what is counted

The depth counted is that of the calls on nodes. A call on a node makes one call for each of its
children, one after the other, so width does not count, and a leaf takes one call.
-/

namespace SafeMarkdown

namespace Syntax

mutual

/-- How many calls nest when the text of the node is taken. What shows its own text, or stands for
a line break, makes no further call. -/
def Node.textDepth : Node → Nat
  | ⟨kind, _, _, _, _, _, children⟩ =>
    match kind with
    | .text | .textSpecial | .codeInline | .softBreak | .hardBreak => 1
    | _ => textDepthOf children + 1

/-- How many calls nest when the texts of the nodes are taken. -/
def textDepthOf : List Node → Nat
  | [] => 0
  | n :: ns => max n.textDepth (textDepthOf ns)

end

mutual

/-- The images at and below a node, without those inside an image. -/
def Node.images : Node → List Node
  | ⟨kind, content, tag, info, hidden, attrs, children⟩ =>
    if kind = .image then [⟨kind, content, tag, info, hidden, attrs, children⟩]
    else imagesOf children

/-- The images in a list of nodes and below. -/
def imagesOf : List Node → List Node
  | [] => []
  | n :: ns => n.images ++ imagesOf ns

end

/-- No image of the tree nests deeper than the limit of depth. -/
def ShallowImages (nodes : List Node) : Prop :=
  ∀ image ∈ imagesOf nodes, image.textDepth ≤ Document.depthLimit

instance : DecidablePred ShallowImages := fun nodes ↦
  inferInstanceAs (Decidable (∀ image ∈ imagesOf nodes, image.textDepth ≤ Document.depthLimit))

end Syntax

namespace Document

mutual

/-- The text of a node, on a stack with room for so many nested calls. -/
def plainText? : (room : Nat) → Syntax.Node → Option String
  | 0, _ => none
  | room + 1, ⟨kind, content, _, _, _, _, children⟩ =>
    match kind with
    | .text | .textSpecial | .codeInline => some content
    | .softBreak | .hardBreak => some "\n"
    | _ => plainTexts? room children

/-- The texts of a list of nodes, one after the other, on a stack with room for so many nested
calls. -/
def plainTexts? : (room : Nat) → List Syntax.Node → Option String
  | _, [] => some ""
  | room, n :: ns => do return (← plainText? room n) ++ (← plainTexts? room ns)

end

mutual

/-- **The text of a node is found on a stack with enough room, and on no other.** -/
theorem plainText?_eq_some_iff {text : String} : ∀ (room : Nat) (n : Syntax.Node),
    plainText? room n = some text ↔ n.textDepth ≤ room ∧ plainText n = text
  | 0, ⟨kind, _, _, _, _, _, _⟩ => by
    refine iff_of_false (by simp [plainText?]) ?_
    rintro ⟨h, -⟩
    cases kind <;> exact absurd h (by simp [Syntax.Node.textDepth])
  | room + 1, ⟨kind, _, _, _, _, _, children⟩ => by
    have hchildren : plainTexts? room children = some text ↔
        Syntax.textDepthOf children ≤ room ∧ plainTexts children = text :=
      plainTexts?_eq_some_iff room children
    cases kind
    case text | textSpecial | codeInline | softBreak | hardBreak =>
      simp [plainText?, plainText, Syntax.Node.textDepth]
    all_goals
      simp only [plainText?, plainText, Syntax.Node.textDepth, Nat.add_le_add_iff_right]
      exact hchildren

theorem plainTexts?_eq_some_iff {text : String} : ∀ (room : Nat) (ns : List Syntax.Node),
    plainTexts? room ns = some text ↔ Syntax.textDepthOf ns ≤ room ∧ plainTexts ns = text
  | _, [] => by simp [plainTexts?, plainTexts, Syntax.textDepthOf]
  | room, n :: ns => by
    simp only [plainTexts?, plainTexts, Syntax.textDepthOf, Nat.max_le, Option.bind_eq_bind,
      Option.bind_eq_some_iff, Option.pure_def, Option.some.injEq, plainText?_eq_some_iff room n,
      plainTexts?_eq_some_iff room ns]
    constructor
    · rintro ⟨_, ⟨hn, rfl⟩, _, ⟨hns, rfl⟩, rfl⟩
      exact ⟨⟨hn, hns⟩, rfl⟩
    · rintro ⟨⟨hn, hns⟩, rfl⟩
      exact ⟨_, ⟨hn, rfl⟩, _, ⟨hns, rfl⟩, rfl⟩

end

/-- In a tree with shallow images, the text of every image is found within the limit of depth. -/
theorem plainText?_of_shallowImages {nodes : List Syntax.Node} (h : Syntax.ShallowImages nodes) :
    ∀ image ∈ Syntax.imagesOf nodes, plainText? depthLimit image = some (plainText image) :=
  fun image himage ↦ (plainText?_eq_some_iff depthLimit image).2 ⟨h image himage, rfl⟩

/-! ### No limit of its own -/

/-- Emphasis inside emphasis, so many times. -/
def nestedEmphasis : Nat → Syntax.Node
  | 0 => { kind := .em }
  | n + 1 => { kind := .em, children := [nestedEmphasis n] }

theorem lt_textDepth_nestedEmphasis (n : Nat) : n < (nestedEmphasis n).textDepth := by
  induction n with
  | zero => decide
  | succ n ih =>
    rw [nestedEmphasis, Syntax.Node.textDepth, Syntax.textDepthOf, Syntax.textDepthOf]
    · omega
    all_goals simp

/-- **The recursion is not limited.** Whatever room a stack has, there is an image that is converted
at every depth and whose text takes more. -/
theorem plainText?_deepImage (room : Nat) :
    ∃ image : Syntax.Node, plainText? room image = none ∧
      ∀ depth, ∃ i, ofInline image depth = .ok (.image i) := by
  refine ⟨{ kind := .image, children := [nestedEmphasis room] }, ?_, fun depth ↦
    ⟨_, ofInline_of_kind_eq_image rfl depth⟩⟩
  rw [Option.eq_none_iff_forall_ne_some]
  rintro text htext
  obtain ⟨hdepth, -⟩ := (plainText?_eq_some_iff room _).1 htext
  rw [Syntax.Node.textDepth, Syntax.textDepthOf, Syntax.textDepthOf] at hdepth
  · have hdeep := lt_textDepth_nestedEmphasis room
    omega
  all_goals simp

end Document

end SafeMarkdown
