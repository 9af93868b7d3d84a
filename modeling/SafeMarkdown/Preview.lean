import SafeMarkdown.Json.Reader
import SafeMarkdown.Markdown
import SafeMarkdown.Options.Validation
import SafeMarkdown.Renderer.Table

/-!
# Previews

A preview is asked for by a JSON object with a text and options, both of which may be missing. The
answer is the HTML of the text under the standard renderers. A request that is malformed is
answered with its issues, and a text that nests too deep or holds a node without a place in
documents with a message; any other fault is answered by its bare occurrence.
-/

namespace SafeMarkdown

open Json (Value)

/-- A request for a preview. -/
structure PreviewRequest where
  content : String
  options : Options

/-- The options in a request, where null stands for the standard options. -/
def validateRequestOptions : Value → Validated Options
  | .null => .ok .standard
  | v => Options.validate .modelAttributesType v

/-- A value as a request. -/
def PreviewRequest.ofJson : Value → Validated PreviewRequest
  | .null => .fail .missing
  | .object fields =>
    .both PreviewRequest.mk
      (validateField "content" "" validateString fields)
      (validateField "options" .standard validateRequestOptions fields)
  | _ => .fail .modelAttributesType

/-- The text of a request as a request. A mark of the byte order at its beginning is no part of
it. -/
def PreviewRequest.ofText (text : String) : Validated PreviewRequest :=
  Validated.within (.field "body") <|
    if text.isEmpty then .fail .missing
    else
      let s := text.toList
      match Json.read (.ofList (if s.head? = some '\uFEFF' then s.drop 1 else s)) with
      | .error n => .error [⟨.jsonInvalid, [.index n]⟩]
      | .ok v => PreviewRequest.ofJson v

/-- The answer to a request. -/
inductive PreviewResponse where
  | html (text : String)
  | refused (detail : String)
  | invalid (issues : List Issue)
  | failed
deriving DecidableEq, Repr

namespace PreviewResponse

/-- The status code of a response. -/
def status : PreviewResponse → Nat
  | html _ => 200
  | refused _ => 400
  | invalid _ => 422
  | failed => 500

/-- The response to a text that could not be rendered. -/
def ofError (e : MarkdownError) : PreviewResponse :=
  match e with
  | .conversion (.refusedHtml _) | .conversion (.badInteger _) => failed
  | .rendering (.blockExpected _) | .rendering (.inlineExpected _) => failed
  | _ => refused e.message

end PreviewResponse

/-- The answer to a request that is well-formed. -/
def PreviewRequest.answer (q : PreviewRequest) : PreviewResponse :=
  match renderMarkdown q.options .standard q.content with
  | .ok html => .html (html.getD "")
  | .error e => .ofError e

/-- The answer to the text of a request. -/
def preview (text : String) : PreviewResponse :=
  match PreviewRequest.ofText text with
  | .ok q => q.answer
  | .error issues => .invalid issues

/-- The answer to a request whose text holds this value. -/
def previewJson (v : Value) : PreviewResponse :=
  match Validated.within (.field "body") (PreviewRequest.ofJson v) with
  | .ok q => q.answer
  | .error issues => .invalid issues

end SafeMarkdown
