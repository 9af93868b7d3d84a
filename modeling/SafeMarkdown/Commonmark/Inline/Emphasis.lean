import SafeMarkdown.Syntax.Node
import SafeMarkdown.Text.Punctuation

/-!
# Emphasis

Each star and each underscore is a mark of its own. What stands next to the run of marks tells
whether they may open or close emphasis. Every mark that may close is paired with the nearest mark
of its kind before it that may open and fits; two pairs directly around each other are strong
emphasis. The marks that stay unpaired are text.

The search for the opening mark passes over what an earlier pair encloses, and does not go below
the point at which an earlier search for the like failed.
-/

namespace SafeMarkdown.Commonmark.Inline

open Syntax (Node)

/-- A mark of emphasis. -/
structure Mark where
  char : Char
  /-- The length of the run that the mark is part of. -/
  run : Nat
  opens : Bool
  closes : Bool
deriving DecidableEq, Repr, Inhabited

/-- An item of inline content: a node, or a mark. -/
inductive Item where
  | node (n : Node)
  | mark (m : Mark)

/-! ### Runs of marks -/

/-- A separator next to a mark. -/
def isSeparator (c : Char) : Bool :=
  let n := c.toNat
  (9 ≤ n && n ≤ 13) || n == 0x20 || n == 0xA0 || n == 0x1680 || (0x2000 ≤ n && n ≤ 0x200A) ||
    n == 0x202F || n == 0x205F || n == 0x3000

/-- The marks of a run with the characters before and after it. An underscore inside a word neither
opens nor closes. -/
def Mark.ofRun (char before after : Char) (run : Nat) : Mark :=
  let spaceBefore := isSeparator before
  let spaceAfter := isSeparator after
  let pointBefore := Text.isPunctuation before
  let pointAfter := Text.isPunctuation after
  let left := !(spaceAfter || (pointAfter && !(spaceBefore || pointBefore)))
  let right := !(spaceBefore || (pointBefore && !(spaceAfter || pointAfter)))
  { char := char
    run := run
    opens := left && (char == '*' || !right || pointBefore)
    closes := right && (char == '*' || !left || pointAfter) }

/-! ### Pairing -/

/-- A mark while marks are paired. -/
structure Delimiter where
  mark : Mark
  /-- The position of the mark among the items. -/
  place : Nat
  /-- The index of the mark that closes what this one opens. -/
  partner : Option Nat := none
  /-- How many marks before this one cannot be what a search looks for. -/
  passed : Nat := 0
deriving Inhabited

/-- The marks of a list of items. -/
def delimitersFrom (place : Nat) : List Item → List Delimiter
  | [] => []
  | .node _ :: items => delimitersFrom (place + 1) items
  | .mark m :: items => { mark := m, place := place } :: delimitersFrom (place + 1) items

/-- `opener` may open what `closer` closes. If one of the marks may do both, the lengths of their
runs must not add up to a multiple of three, unless both are one. -/
def fits (opener closer : Mark) : Bool :=
  opener.char == closer.char && opener.opens &&
    !((opener.closes || closer.opens) && (opener.run + closer.run) % 3 == 0 &&
      (opener.run % 3 != 0 || closer.run % 3 != 0))

/-- The index of the mark that `closer` is paired with, among those below index `n` and not below
`floor`. -/
def opener? (ds : Array Delimiter) (closer : Mark) (floor : Nat) :
    (fuel n : Nat) → Option Nat
  | 0, _ => none
  | fuel + 1, n =>
    if n ≤ floor then none
    else
      let d := ds.getD (n - 1) default
      if d.partner.isNone && fits d.mark closer then some (n - 1)
      else opener? ds closer floor fuel (n - 1 - d.passed)

/-- The marks for which searches fail alike. -/
abbrev MarkClass := Char × Bool × Nat

/-- The class of a closing mark. -/
def Mark.class (m : Mark) : MarkClass :=
  (m.char, m.opens, m.run % 3)

/-- What pairing has come to. -/
structure Pairing where
  delimiters : Array Delimiter
  /-- The index of the first mark of the run. -/
  header : Nat := 0
  /-- The place of the mark before, unless a pair was just made. -/
  last : Option Nat := none
  /-- Below which index no partner can be found. -/
  floors : List (MarkClass × Nat) := []

/-- Pairs the mark at index `i` with the one at index `o` before it. -/
def Pairing.join (p : Pairing) (o i : Nat) : Pairing :=
  let passed := match o with
    | 0 => 0
    | b + 1 =>
      let d := p.delimiters.getD b default
      if d.mark.opens then 0 else d.passed + 1
  let close (d : Delimiter) :=
    { d with passed := i - o + passed, mark := { d.mark with opens := false } }
  let open' (d : Delimiter) :=
    { d with partner := some i, passed := passed, mark := { d.mark with closes := false } }
  { p with delimiters := (p.delimiters.modify i close).modify o open', last := none }

/-- Considers the mark at index `i`, those before it being done with. -/
def Pairing.step (p : Pairing) (i : Nat) : Pairing :=
  let d := p.delimiters.getD i default
  let sameRun := (p.delimiters.getD p.header default).mark.char == d.mark.char &&
    p.last.map (· + 1) == some d.place
  let p := { p with header := if sameRun then p.header else i, last := some d.place }
  if !d.mark.closes then p
  else
    let n := p.header - (p.delimiters.getD p.header default).passed
    let floor := (p.floors.lookup d.mark.class).getD 0
    match opener? p.delimiters d.mark floor n n with
    | some o => p.join o i
    | none => if n = 0 then p else { p with floors := (d.mark.class, n) :: p.floors }

/-- Pairs the marks. -/
def pairMarks (ds : Array Delimiter) : Array Delimiter :=
  ((List.range ds.size).foldl Pairing.step { delimiters := ds }).delimiters

/-! ### Nesting -/

/-- What becomes of a mark. -/
inductive Role where
  | opening (strong : Bool)
  | closing
  /-- The mark is part of strong emphasis whose other mark opens or closes it. -/
  | absorbed
deriving DecidableEq, Repr

/-- The marks at index `i + 1` and at index `i` open strong emphasis together. -/
def areStrong (ds : Array Delimiter) (i : Nat) : Bool :=
  let outer := ds.getD i default
  let inner := ds.getD (i + 1) default
  match inner.partner with
  | none => false
  | some e =>
    outer.partner == some (e + 1) && outer.mark.char == inner.mark.char &&
      outer.place + 1 == inner.place &&
      (ds.getD (e + 1) default).place == (ds.getD e default).place + 1

/-- The roles, by place, of the mark at index `i` and its partner in emphasis. -/
def emRoles (ds : Array Delimiter) (i : Nat) : List (Nat × Role) :=
  let d := ds.getD i default
  match d.partner with
  | none => []
  | some e => [(d.place, .opening false), ((ds.getD e default).place, .closing)]

/-- The roles, by place, of the marks at the indices `i + 1` and `i` and their partners in strong
emphasis. -/
def strongRoles (ds : Array Delimiter) (i : Nat) : List (Nat × Role) :=
  let d := ds.getD (i + 1) default
  match d.partner with
  | none => []
  | some e =>
    [(d.place, .opening true), ((ds.getD e default).place, .closing),
      ((ds.getD i default).place, .absorbed), ((ds.getD (e + 1) default).place, .absorbed)]

/-- The roles, by place, of the first `n` marks and their partners. -/
def rolesBelow (ds : Array Delimiter) : (n : Nat) → List (Nat × Role)
  | 0 => []
  | 1 => emRoles ds 0
  | i + 2 =>
    if areStrong ds i then strongRoles ds i ++ rolesBelow ds i
    else emRoles ds (i + 1) ++ rolesBelow ds (i + 1)

/-- A text node. -/
def textNode (s : List Char) : Node :=
  { kind := .text, content := .ofList s }

/-- Puts a node before its siblings; a text joins a text that follows it. -/
def joinText (n : Node) (siblings : List Node) : List Node :=
  match siblings with
  | next :: rest =>
    if n.kind = .text && next.kind = .text then
      { n with content := n.content ++ next.content } :: rest
    else n :: siblings
  | [] => [n]

/-- The nodes with all adjacent texts joined. -/
def joinTexts (nodes : List Node) : List Node :=
  nodes.foldr joinText []

/-- An element of emphasis that is still open. -/
structure OpenEmphasis where
  strong : Bool
  /-- The nodes before it, last first. -/
  before : List Node

/-- Nests items by the roles of their marks. `nodes` are the nodes of the innermost element that is
open, last first. -/
def nest (roles : Array (Option Role)) (stack : List OpenEmphasis) (nodes : List Node)
    (place : Nat) : List Item → List Node
  | [] => joinTexts (stack.foldl (fun nodes e ↦ nodes ++ e.before) nodes).reverse
  | .node n :: items => nest roles stack (n :: nodes) (place + 1) items
  | .mark m :: items =>
    match roles.getD place none, stack with
    | some (.opening strong), _ => nest roles (⟨strong, nodes⟩ :: stack) [] (place + 1) items
    | some .closing, e :: stack =>
      let element : Node :=
        { kind := if e.strong then .strong else .em, children := joinTexts nodes.reverse }
      nest roles stack (element :: e.before) (place + 1) items
    | some .closing, [] => nest roles [] nodes (place + 1) items
    | some .absorbed, _ => nest roles stack (textNode [] :: nodes) (place + 1) items
    | none, _ => nest roles stack (textNode [m.char] :: nodes) (place + 1) items

/-- The nodes of a list of items, in which the marks of emphasis are paired. -/
def nodesOfItems (items : List Item) : List Node :=
  let ds := pairMarks (delimitersFrom 0 items).toArray
  let roles := (rolesBelow ds ds.size).foldl
    (fun roles r ↦ roles.setIfInBounds r.1 (some r.2)) (Array.replicate items.length none)
  nest roles [] [] 0 items

end SafeMarkdown.Commonmark.Inline
