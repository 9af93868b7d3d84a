import SafeMarkdown.Commonmark.Tree
import SafeMarkdown.Document.OfSyntax
import SafeMarkdown.Render

/-!
# From Markdown to HTML

The whole way: a text is read into a syntax tree, the tree becomes a document, the document is
rendered into markup, and the markup is written as HTML. Reading never fails; the other steps may.
-/

namespace SafeMarkdown

/-- Why a text could not be rendered. -/
inductive MarkdownError where
  | conversion (e : Document.ConversionError)
  | rendering (e : RenderError)
deriving DecidableEq, Repr

/-- The text of the error. -/
def MarkdownError.message : MarkdownError → String
  | conversion e => e.message
  | rendering e => e.message

/-- The document that a text describes. -/
def parseMarkdown (text : String) : Document.Converted (List Document.Node) :=
  Document.ofSyntax (Commonmark.syntaxTree text)

/-- The HTML of a text that is not empty; none for an empty one. -/
def renderMarkdown (o : Options) (r : Renderers) (text : String) :
    Except MarkdownError (Option String) :=
  if text = "" then .ok none
  else do
    let blocks ← (parseMarkdown text).mapError .conversion
    let nodes ← (renderDocument o r blocks).mapError .rendering
    return some (Markup.toHtml nodes)

end SafeMarkdown
