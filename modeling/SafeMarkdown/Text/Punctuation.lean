import SafeMarkdown.Text.PunctuationTable
import SafeMarkdown.Text.Span

/-!
# Punctuation

ASCII punctuation can be escaped by a backslash in Markdown; punctuation at large also decides
whether a run of asterisks or underscores opens or closes emphasis.
-/

namespace SafeMarkdown.Text

/-- The punctuation characters of ASCII. -/
def isAsciiPunctuation (c : Char) : Bool :=
  ('!' ≤ c && c ≤ '/') || (':' ≤ c && c ≤ '@') || ('[' ≤ c && c ≤ '\x60') ||
    ('\x7b' ≤ c && c ≤ '~')

/-- Punctuation and symbols of Unicode, those of ASCII among them. -/
def isPunctuation (c : Char) : Bool :=
  isAsciiPunctuation c || inSpans punctuationSpans c

end SafeMarkdown.Text
