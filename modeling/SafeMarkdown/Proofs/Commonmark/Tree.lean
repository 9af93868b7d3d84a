import SafeMarkdown.Commonmark.Tree
import SafeMarkdown.Proofs.Commonmark.Blocks
import SafeMarkdown.Proofs.Commonmark.Inlines

/-!
# Syntax trees of texts are supported

Each block stands for a node of a supported kind, and what reading gives is regular, so the syntax
tree of a text has supported nodes only (`supported_syntaxTree`).

The two things that could go wrong are the level of a heading, which becomes the name of an element,
and the start of a list, which is written as a number and read back. That the level is one of six is
what `Block.Regular` says; that the start is a number holds for every number that is written.

Nothing is assumed of the texts of inlines but that the nodes for them are supported: the lemmas on
`toSyntax` take the function that makes these nodes as a parameter.
-/

namespace SafeMarkdown.Commonmark

open Syntax (SupportedInlines SupportedParts SupportedBlock SupportedBlocks SupportedItems)

/-- A level from one to six names a heading element. -/
theorem headingTag_mem {level : Nat} (h : 1 ≤ level ∧ level ≤ 6) :
    "h" ++ toString level ∈ Syntax.headingTags := by
  have htags : ∀ level ≤ 6, 1 ≤ level → "h" ++ toString level ∈ Syntax.headingTags := by decide
  exact htags level h.2 h.1

namespace Block

variable {inlines : List Char → List Syntax.Node}

/-- The part of a paragraph or heading that holds its inlines is supported. -/
theorem supportedParts_inlineNode (hi : ∀ t, SupportedInlines (inlines t)) (text : List Char) :
    SupportedParts [inlineNode inlines text] := by
  have hparts : ([inlineNode inlines text].filter fun p ↦ p.kind = .inline).flatMap
      Syntax.Node.children = inlines text := by simp [inlineNode]
  rw [SupportedParts, hparts]
  exact hi text

/-- A list node is supported if its items are, whatever number it starts at: the number is written
in digits, and reading the digits gives it back. -/
theorem supported_listNode {items : List Syntax.Node} (h : SupportedItems items)
    (start : Option Nat) : SupportedBlock (listNode start items) := by
  cases start with
  | none => exact h
  | some n =>
    refine ⟨fun value hvalue ↦ ?_, h⟩
    by_cases hn : n = 1
    · simp [hn] at hvalue
    · exact ⟨n, by simpa [hn, eq_comm] using hvalue⟩

mutual

/-- A regular block stands for a supported node. The recursion follows the blocks. -/
theorem supported_toSyntax (hi : ∀ t, SupportedInlines (inlines t)) (hidden : Bool) :
    ∀ {b : Block}, b.Regular → SupportedBlock (toSyntax inlines hidden b)
  | .paragraph text, _ => supportedParts_inlineNode hi text
  | .heading _ text, h => ⟨headingTag_mem h, supportedParts_inlineNode hi text⟩
  | .quote _, h => supported_toSyntaxList hi false h
  | .list start tight _, h => supported_listNode (supported_toSyntaxItems hi tight h) start
  | .fence _ _, _ | .code _, _ | .thematicBreak, _ | .html _, _ => trivial

theorem supported_toSyntaxList (hi : ∀ t, SupportedInlines (inlines t)) (hidden : Bool) :
    ∀ {bs : List Block}, RegularBlocks bs → SupportedBlocks (toSyntaxList inlines hidden bs)
  | [], _ => trivial
  | _ :: _, h => ⟨supported_toSyntax hi hidden h.1, supported_toSyntaxList hi hidden h.2⟩

theorem supported_toSyntaxItems (hi : ∀ t, SupportedInlines (inlines t)) (hidden : Bool) :
    ∀ {items : List (List Block)}, RegularItems items →
      SupportedItems (toSyntaxItems inlines hidden items)
  | [], _ => trivial
  | _ :: _, h => ⟨supported_toSyntaxList hi hidden h.1, supported_toSyntaxItems hi hidden h.2⟩

end

end Block

/-- **The syntax tree of a text is supported**: its nodes are of kinds with a place in documents,
its headings have one of six tags, and its lists begin with numbers. -/
theorem supported_syntaxTree (source : String) : SupportedBlocks (syntaxTree source) :=
  Block.supported_toSyntaxList (Inline.supported_ofText _) false (regular_readText _)

end SafeMarkdown.Commonmark
