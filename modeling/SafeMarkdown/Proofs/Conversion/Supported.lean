import SafeMarkdown.Document.OfSyntax

/-!
# Syntax trees that a reader of Markdown gives

`SupportedBlock` and `SupportedInline` say that a node has a kind with a place in documents, and so
have the nodes below it, that a heading has one of six levels, and that a list begins with a number.
The children of an image are not looked at, because only their text is taken.

`blockSources` lists the texts below a node that are read as HTML: the sources of HTML blocks, and
the tags in running text that begin an element. Other raw HTML in running text is kept as it is.
-/

namespace SafeMarkdown.Syntax

/-- The tags of headings. -/
def headingTags : List String :=
  ["h1", "h2", "h3", "h4", "h5", "h6"]

mutual

/-- The node is an inline of a known kind, and so are the inlines below it. -/
def SupportedInline : Node → Prop
  | ⟨kind, _, _, _, _, _, children⟩ =>
    match kind with
    | .text | .textSpecial | .softBreak | .hardBreak | .codeInline | .image | .htmlInline => True
    | .em | .strong | .link => SupportedInlines children
    | _ => False

/-- The nodes of the list are inlines of known kinds. -/
def SupportedInlines : List Node → Prop
  | [] => True
  | n :: ns => SupportedInline n ∧ SupportedInlines ns

end

/-- The parts of kind `inline` of a paragraph or a heading hold inlines of known kinds. -/
def SupportedParts (parts : List Node) : Prop :=
  SupportedInlines ((parts.filter fun p ↦ p.kind = .inline).flatMap Node.children)

mutual

/-- The node is a block of a known kind, and so are the blocks below it. -/
def SupportedBlock : Node → Prop
  | ⟨kind, _, tag, _, _, attrs, children⟩ =>
    match kind with
    | .paragraph => SupportedParts children
    | .heading => tag ∈ headingTags ∧ SupportedParts children
    | .blockquote => SupportedBlocks children
    | .bulletList => SupportedItems children
    | .orderedList =>
      (∀ value ∈ attrs.reverse.lookup "start", ∃ n, value = .integer n) ∧ SupportedItems children
    | .fence | .codeBlock | .hr | .htmlBlock => True
    | _ => False

/-- The nodes of the list are blocks of known kinds. -/
def SupportedBlocks : List Node → Prop
  | [] => True
  | n :: ns => SupportedBlock n ∧ SupportedBlocks ns

/-- The items of the list hold blocks of known kinds. -/
def SupportedItems : List Node → Prop
  | [] => True
  | ⟨_, _, _, _, _, _, children⟩ :: ns => SupportedBlocks children ∧ SupportedItems ns

end

/-- What is read as HTML of a piece of raw HTML in running text. -/
def tagSources (source : String) : List String :=
  if (startTagName? source.toList).isSome then [source] else []

mutual

/-- The texts at and below an inline that are read as HTML. -/
def inlineSources : Node → List String
  | ⟨kind, content, _, _, _, _, children⟩ =>
    match kind with
    | .htmlInline => tagSources content
    | .em | .strong | .link => inlineSourcesOf children
    | _ => []

/-- The texts of a list of inlines that are read as HTML. -/
def inlineSourcesOf : List Node → List String
  | [] => []
  | n :: ns => inlineSources n ++ inlineSourcesOf ns

end

/-- The texts in a paragraph or a heading that are read as HTML. -/
def partSources (parts : List Node) : List String :=
  inlineSourcesOf ((parts.filter fun p ↦ p.kind = .inline).flatMap Node.children)

mutual

/-- The texts at and below a block that are read as HTML. -/
def blockSources : Node → List String
  | ⟨kind, content, _, _, _, _, children⟩ =>
    match kind with
    | .paragraph | .heading => partSources children
    | .blockquote => blockSourcesOf children
    | .bulletList | .orderedList => itemSourcesOf children
    | .htmlBlock => [content]
    | _ => []

/-- The texts of a list of blocks that are read as HTML. -/
def blockSourcesOf : List Node → List String
  | [] => []
  | n :: ns => blockSources n ++ blockSourcesOf ns

/-- The texts in the items of a list that are read as HTML. -/
def itemSourcesOf : List Node → List String
  | [] => []
  | ⟨_, _, _, _, _, _, children⟩ :: ns => blockSourcesOf children ++ itemSourcesOf ns

end

theorem supportedInlines_iff {ns : List Node} :
    SupportedInlines ns ↔ ∀ n ∈ ns, SupportedInline n := by
  induction ns with
  | nil => simp [SupportedInlines]
  | cons n ns ih => simp [SupportedInlines, ih]

end SafeMarkdown.Syntax
