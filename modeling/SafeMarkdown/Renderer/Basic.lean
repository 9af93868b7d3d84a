import SafeMarkdown.Document.Node
import SafeMarkdown.Renderer.Construct

/-!
# Renderers

A renderer turns one construct, its children already rendered, into markup. `Renderers` holds one
for each construct, and any functions of these types may stand in it. `Renderers.standard` is the
usual HTML. A `Wrapper` is a simple way to replace a renderer: it puts the construct into an
element of a given tag and writes the construct's data into attributes.
-/

namespace SafeMarkdown

open Document (CodeBlock ListKind Link Image)

/-- One renderer for each construct. -/
structure Renderers where
  heading : Int → List Markup → Markup
  paragraph : Bool → List Markup → List Markup
  blockQuote : List Markup → Markup
  code : CodeBlock → Markup
  list : ListKind → List Markup → Markup
  emphasis : List Markup → Markup
  strongEmphasis : List Markup → Markup
  codeSpan : String → Markup
  link : Link → List Markup → Markup
  image : Image → Markup
  thematicBreak : Markup
  hardLineBreak : Markup

/-- An attribute that is left out where its value is missing. -/
def optionalAttr (name : String) (value : Option String) : List Attr :=
  (value.map fun v ↦ (name, v)).toList

namespace Renderers

/-- The tag of a heading: levels below 1 count as 1, and those above 5 share the last tag. -/
def headingTag (level : Int) : String :=
  if level ≤ 1 then "h1"
  else if level = 2 then "h2"
  else if level = 3 then "h3"
  else if level = 4 then "h4"
  else if level = 5 then "h5"
  else "h6"

/-- The class of a block of code in a language; a block without one has no class. -/
def languageAttr : Option String → List Attr
  | none => []
  | some language => if language = "" then [] else [("class", "language-" ++ language)]

/-- The number at which a numbered list starts, unless it is 1. -/
def startAttr (start : Int) : List Attr :=
  if start = 1 then [] else [("start", toString start)]

/-- The renderers in force unless others are given. -/
def standard : Renderers where
  heading level children := .element (headingTag level) [] children
  paragraph wrap children := if wrap then [.element "p" [] children] else children
  blockQuote children := .element "blockquote" [] children
  code block :=
    .element "pre" [] [.element "code" (languageAttr block.language) [.text block.code]]
  list kind items :=
    match kind with
    | .ordered start => .element "ol" (startAttr start) items
    | .unordered => .element "ul" [] items
  emphasis children := .element "em" [] children
  strongEmphasis children := .element "strong" [] children
  codeSpan text := .element "code" [] [.text text]
  link link children :=
    .element "a" (("href", link.url) :: optionalAttr "title" link.title) children
  image image :=
    .element "img" (("alt", image.alt) :: ("src", image.src) :: optionalAttr "title" image.title) []
  thematicBreak := .element "hr" [] []
  hardLineBreak := .element "br" [] []

end Renderers

/-- A tag and attributes to put around a construct. -/
structure Wrapper where
  tag : String
  attrs : List Attr
deriving DecidableEq, Repr, Inhabited

namespace Wrapper

/-- The element of a wrapper, with the construct's own attributes after those of the wrapper. -/
def element (w : Wrapper) (extra : List Attr) (children : List Markup) : Markup :=
  .element w.tag (w.attrs ++ extra) children

/-- The number at which a list starts, for numbered lists. -/
def startAttr : ListKind → List Attr
  | .ordered start => [("data-start", toString start)]
  | .unordered => []

end Wrapper

/-- The renderers with that of one construct replaced by a wrapper. -/
def Renderers.override (r : Renderers) (c : Construct) (w : Wrapper) : Renderers :=
  match c with
  | .heading => { r with heading := fun level ↦ w.element [("data-level", toString level)] }
  | .paragraph =>
    { r with paragraph := fun wrap children ↦
        [w.element [("data-wrap", if wrap then "true" else "false")] children] }
  | .blockQuote => { r with blockQuote := w.element [] }
  | .code =>
    { r with code := fun block ↦
        w.element (optionalAttr "data-language" block.language) [.text block.code] }
  | .list => { r with list := fun kind ↦ w.element (Wrapper.startAttr kind) }
  | .emphasis => { r with emphasis := w.element [] }
  | .strongEmphasis => { r with strongEmphasis := w.element [] }
  | .codeSpan => { r with codeSpan := fun text ↦ w.element [] [.text text] }
  | .link =>
    { r with link := fun link ↦
        w.element (("data-url", link.url) :: optionalAttr "data-title" link.title) }
  | .image =>
    { r with image := fun image ↦
        w.element (("data-alt", image.alt) :: ("data-src", image.src) ::
          optionalAttr "data-title" image.title) [] }
  | .thematicBreak => { r with thematicBreak := w.element [] [] }
  | .hardLineBreak => { r with hardLineBreak := w.element [] [] }

end SafeMarkdown
