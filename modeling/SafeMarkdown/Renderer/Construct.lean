/-!
# Markdown constructs

The constructs whose markup can be chosen, one renderer each.
-/

namespace SafeMarkdown

/-- A construct with a renderer of its own. -/
inductive Construct where
  | heading
  | paragraph
  | blockQuote
  | code
  | list
  | emphasis
  | strongEmphasis
  | codeSpan
  | link
  | image
  | thematicBreak
  | hardLineBreak
deriving DecidableEq, Repr, Inhabited

namespace Construct

/-- All constructs, in the order in which they are listed everywhere. -/
def all : List Construct :=
  [heading, paragraph, blockQuote, code, list, emphasis, strongEmphasis, codeSpan, link, image,
    thematicBreak, hardLineBreak]

/-- Every construct is listed. -/
theorem mem_all (c : Construct) : c ∈ all := by
  cases c <;> decide

/-- None is listed twice. -/
theorem nodup_all : all.Nodup := by
  decide

/-- The name by which a construct is looked up. -/
def name : Construct → String
  | heading => "heading"
  | paragraph => "paragraph"
  | blockQuote => "block_quote"
  | code => "code"
  | list => "list"
  | emphasis => "emphasis"
  | strongEmphasis => "strong_emphasis"
  | codeSpan => "code_span"
  | link => "link"
  | image => "image"
  | thematicBreak => "thematic_break"
  | hardLineBreak => "hard_line_break"

/-- The construct of that name. -/
def ofName? (s : String) : Option Construct :=
  all.find? fun c ↦ c.name == s

/-- A construct is found by its name. -/
theorem ofName?_name (c : Construct) : ofName? c.name = some c := by
  cases c <;> decide

end Construct

end SafeMarkdown
