import SafeMarkdown.Syntax.Node

/-!
# Blocks of Markdown

The blocks of a text before its inline content is read, and the syntax trees that they stand for
once a reader of inline content is given. In a tight list the paragraphs that stand directly in an
item are not wrapped.
-/

namespace SafeMarkdown.Commonmark

/-- A block. -/
inductive Block where
  | paragraph (text : List Char)
  | heading (level : Nat) (text : List Char)
  | quote (blocks : List Block)
  /-- A list; `start` is the number of the first item, where the items are numbered. -/
  | list (start : Option Nat) (tight : Bool) (items : List (List Block))
  | fence (info content : List Char)
  | code (content : List Char)
  | thematicBreak
  | html (source : List Char)
deriving Repr, Inhabited

namespace Block

/-- The node that holds inline content. -/
def inlineNode (inlines : List Char → List Syntax.Node) (text : List Char) : Syntax.Node :=
  { kind := .inline, content := .ofList text, children := inlines text }

/-- The node of a list around the nodes of its items. -/
def listNode (start : Option Nat) (items : List Syntax.Node) : Syntax.Node :=
  match start with
  | none => { kind := .bulletList, children := items }
  | some n =>
    { kind := .orderedList
      attrs := if n = 1 then [] else [("start", .integer n)]
      children := items }

mutual

/-- The syntax tree of a block; `hidden` tells that a paragraph is not to be wrapped. -/
def toSyntax (inlines : List Char → List Syntax.Node) (hidden : Bool) : Block → Syntax.Node
  | paragraph text =>
    { kind := .paragraph, hidden := hidden, children := [inlineNode inlines text] }
  | heading level text =>
    { kind := .heading, tag := "h" ++ toString level, children := [inlineNode inlines text] }
  | quote blocks => { kind := .blockquote, children := toSyntaxList inlines false blocks }
  | list start tight items => listNode start (toSyntaxItems inlines tight items)
  | fence info content =>
    { kind := .fence, info := .ofList info, content := .ofList content }
  | code content => { kind := .codeBlock, content := .ofList content }
  | thematicBreak => { kind := .hr }
  | html source => { kind := .htmlBlock, content := .ofList source }

/-- The syntax trees of blocks that stand side by side. -/
def toSyntaxList (inlines : List Char → List Syntax.Node) (hidden : Bool) :
    List Block → List Syntax.Node
  | [] => []
  | b :: bs => toSyntax inlines hidden b :: toSyntaxList inlines hidden bs

/-- The syntax trees of the items of a list. -/
def toSyntaxItems (inlines : List Char → List Syntax.Node) (hidden : Bool) :
    List (List Block) → List Syntax.Node
  | [] => []
  | item :: items =>
    { kind := .listItem, children := toSyntaxList inlines hidden item } ::
      toSyntaxItems inlines hidden items

end

end Block

end SafeMarkdown.Commonmark
