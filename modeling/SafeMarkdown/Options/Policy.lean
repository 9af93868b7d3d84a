import SafeMarkdown.Markup.Node
import SafeMarkdown.Options.NameSet

/-!
# Policies for raw HTML

A policy is a pair of allow-lists. Both are matched exactly, capital letters included, and an
attribute that is allowed is allowed on every element.
-/

namespace SafeMarkdown

/-- The elements and the attributes that sanitising keeps. -/
structure Policy where
  elements : NameSet
  attributes : NameSet
deriving DecidableEq, Repr, Inhabited

namespace Policy

/-- The elements kept unless a policy says otherwise. -/
def defaultElements : NameSet :=
  .ofList ["address", "article", "aside", "b", "blockquote", "br", "caption", "cite", "code",
    "col", "colgroup", "dd", "details", "div", "dl", "dt", "figcaption", "figure", "footer", "h1",
    "h2", "h3", "h4", "h5", "h6", "hr", "i", "legend", "li", "nav", "ol", "p", "pre", "section",
    "small", "strike", "summary", "table", "tbody", "td", "tfoot", "th", "thead", "tr", "ul"]

/-- The attributes kept unless a policy says otherwise. -/
def defaultAttributes : NameSet :=
  .ofList ["name", "class"]

/-- The policy in force when none is given. -/
def standard : Policy :=
  ⟨defaultElements, defaultAttributes⟩

/-- The policy keeps elements of that tag. -/
def allowsElement (p : Policy) (tag : String) : Bool :=
  tag ∈ p.elements

/-- The attributes that the policy keeps, in order. -/
def filterAttrs (p : Policy) (attrs : List Attr) : List Attr :=
  attrs.filter fun a ↦ a.1 ∈ p.attributes

end Policy

end SafeMarkdown
