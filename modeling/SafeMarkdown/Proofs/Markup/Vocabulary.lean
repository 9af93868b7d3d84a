import SafeMarkdown.Renderer.Basic

/-!
# The names that markup bears

A vocabulary says which tags markup may bear, and which attributes on each. `Markup.Within` says
that a node keeps to a vocabulary, its descendants included. Two vocabularies matter later: the
names that a policy allows together with those of the standard renderers, and the names that a
reader cannot mistake for the beginning of an end tag.
-/

namespace SafeMarkdown

/-- Tags, and attributes by the tag that bears them. -/
structure Vocabulary where
  tag : String → Prop
  attr : String → String → Prop

namespace Markup

/-- All nodes of a list of markup satisfy `P`. -/
abbrev All (P : Markup → Prop) (nodes : List Markup) : Prop :=
  ∀ m ∈ nodes, P m

mutual

/-- Every element at and below the node bears names of the vocabulary. -/
def Within (v : Vocabulary) : Markup → Prop
  | text _ => True
  | element tag attrs children =>
    v.tag tag ∧ (∀ a ∈ attrs, v.attr tag a.1) ∧ AllWithin v children

/-- Every element of the list and below it bears names of the vocabulary. -/
def AllWithin (v : Vocabulary) : List Markup → Prop
  | [] => True
  | n :: ns => Within v n ∧ AllWithin v ns

end

/-- Nodes are within a vocabulary when each is. -/
theorem allWithin_iff {v : Vocabulary} {nodes : List Markup} :
    AllWithin v nodes ↔ All (Within v) nodes := by
  induction nodes with
  | nil => simp [AllWithin, All]
  | cons n ns ih => simp [AllWithin, All, ih]

@[simp] theorem within_text {v : Vocabulary} {value : String} : Within v (.text value) := by
  simp [Within]

/-- The condition on an element is one on its names and one on its children. -/
theorem within_element {v : Vocabulary} {tag : String} {attrs : List Attr}
    {children : List Markup} :
    Within v (.element tag attrs children) ↔
      v.tag tag ∧ (∀ a ∈ attrs, v.attr tag a.1) ∧ All (Within v) children := by
  rw [Within, allWithin_iff]

end Markup

namespace Renderers

/-- The tags of the standard renderers, and that of a list item. -/
def standardTags : List String :=
  ["h1", "h2", "h3", "h4", "h5", "h6", "p", "blockquote", "pre", "code", "ul", "ol", "li", "em",
    "strong", "a", "img", "hr", "br"]

/-- The attributes of the standard renderers, each with the tag that bears it. -/
def standardAttrs : List (String × String) :=
  [("a", "href"), ("a", "title"), ("img", "alt"), ("img", "src"), ("img", "title"),
    ("code", "class"), ("ol", "start")]

/-- The tags of headings are standard. -/
theorem headingTag_mem (level : Int) : headingTag level ∈ standardTags := by
  unfold headingTag
  repeat' split
  all_goals decide

end Renderers

/-- The vocabulary holds the names of the standard renderers. -/
structure Vocabulary.HoldsStandard (v : Vocabulary) : Prop where
  tag : ∀ t ∈ Renderers.standardTags, v.tag t
  attr : ∀ a ∈ Renderers.standardAttrs, v.attr a.1 a.2

end SafeMarkdown
