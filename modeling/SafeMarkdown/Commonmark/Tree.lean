import SafeMarkdown.Commonmark.Block.OfLines
import SafeMarkdown.Commonmark.Inline.OfText

/-!
# Markdown to syntax trees

The blocks of a text are read first. Inline content is read when all link reference definitions
are known, as a link may refer to a definition that follows it.
-/

namespace SafeMarkdown.Commonmark

/-- The syntax tree of a text, as the list of its outermost nodes. -/
def syntaxTree (source : String) : List Syntax.Node :=
  let (blocks, definitions) := readText source.toList
  Block.toSyntaxList (Inline.ofText definitions) false blocks

end SafeMarkdown.Commonmark
