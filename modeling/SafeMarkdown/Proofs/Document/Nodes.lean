import SafeMarkdown.Document.Node

/-!
# The nodes of a document

`nodesOf` lists the nodes of a list and all nodes below them in document order, the leading part of
a section before its blocks. `placedNodes` lists the same nodes, each with what its rendering
depends on besides the node: whether it stands directly in an item of a tight list. `textOf` is the
text that the nodes hold, in the same order. `nodesAtLevel` lists the nodes that stand a given
number of lists below.
-/

namespace SafeMarkdown.Document

mutual

/-- The nodes below a node. -/
def Node.inside : Node → List Node
  | .heading _ children | .paragraph children | .blockQuote children | .htmlBlock _ children
  | .emphasis children | .strong children | .link _ children
  | .htmlElement _ _ children _ _ _ => nodesOf children
  | .list _ items _ => nodesOfItems items
  | .htmlSection _ _ leading children _ _ => nodesOf leading ++ nodesOf children
  | .codeBlock _ | .thematicBreak | .text _ | .softBreak | .hardBreak | .codeSpan _ | .image _
  | .rawHtml _ => []

/-- The nodes of a list and all nodes below them. -/
def nodesOf : List Node → List Node
  | [] => []
  | n :: ns => n :: (n.inside ++ nodesOf ns)

/-- The nodes of the items of a list. -/
def nodesOfItems : List (List Node) → List Node
  | [] => []
  | item :: items => nodesOf item ++ nodesOfItems items

end

/-- The node and all nodes below it satisfy `P`. -/
def Node.Throughout (P : Node → Prop) (n : Node) : Prop :=
  P n ∧ ∀ m ∈ n.inside, P m

/-- What holds of all nodes of a list holds throughout each member. -/
theorem forall_mem_nodesOf {P : Node → Prop} {ns : List Node} :
    (∀ m ∈ nodesOf ns, P m) ↔ ∀ n ∈ ns, n.Throughout P := by
  induction ns with
  | nil => simp [nodesOf]
  | cons n ns ih =>
    rw [nodesOf, List.forall_mem_cons, List.forall_mem_append, List.forall_mem_cons, ih,
      ← and_assoc]
    rfl

theorem forall_mem_nodesOfItems {P : Node → Prop} {items : List (List Node)} :
    (∀ m ∈ nodesOfItems items, P m) ↔ ∀ item ∈ items, ∀ n ∈ item, n.Throughout P := by
  induction items with
  | nil => simp [nodesOfItems]
  | cons item items ih =>
    rw [nodesOfItems, List.forall_mem_append, List.forall_mem_cons, ih, forall_mem_nodesOf]

/-! ### Places -/

/-- A node and whether it stands directly in an item of a tight list. -/
structure PlacedNode where
  tight : Bool
  node : Node

mutual

/-- The nodes below a node, with their places. -/
def Node.placedInside : Node → List PlacedNode
  | .heading _ children | .paragraph children | .blockQuote children | .htmlBlock _ children
  | .emphasis children | .strong children | .link _ children
  | .htmlElement _ _ children _ _ _ => placedNodes false children
  | .list _ items tight => placedItems tight items
  | .htmlSection _ _ leading children _ _ => placedNodes false leading ++ placedNodes false children
  | .codeBlock _ | .thematicBreak | .text _ | .softBreak | .hardBreak | .codeSpan _ | .image _
  | .rawHtml _ => []

/-- The nodes of a list and all nodes below them, with their places. -/
def placedNodes (tight : Bool) : List Node → List PlacedNode
  | [] => []
  | n :: ns => ⟨tight, n⟩ :: (n.placedInside ++ placedNodes tight ns)

/-- The nodes of the items of a list, with their places. -/
def placedItems (tight : Bool) : List (List Node) → List PlacedNode
  | [] => []
  | item :: items => placedNodes tight item ++ placedItems tight items

end

mutual

/-- The placed nodes below a node are the nodes below it. -/
theorem map_node_placedInside : ∀ n : Node, n.placedInside.map PlacedNode.node = n.inside
  | .heading _ children | .paragraph children | .blockQuote children | .htmlBlock _ children
  | .emphasis children | .strong children | .link _ children
  | .htmlElement _ _ children _ _ _ => map_node_placedNodes false children
  | .list _ items tight => map_node_placedItems tight items
  | .htmlSection _ _ leading children _ _ => by
    rw [Node.placedInside, List.map_append, map_node_placedNodes, map_node_placedNodes, Node.inside]
  | .codeBlock _ | .thematicBreak | .text _ | .softBreak | .hardBreak | .codeSpan _ | .image _
  | .rawHtml _ => rfl

theorem map_node_placedNodes (tight : Bool) :
    ∀ ns : List Node, (placedNodes tight ns).map PlacedNode.node = nodesOf ns
  | [] => rfl
  | n :: ns => by
    rw [placedNodes, List.map_cons, List.map_append, map_node_placedInside,
      map_node_placedNodes tight ns, nodesOf]

theorem map_node_placedItems (tight : Bool) :
    ∀ items : List (List Node), (placedItems tight items).map PlacedNode.node = nodesOfItems items
  | [] => rfl
  | item :: items => by
    rw [placedItems, List.map_append, map_node_placedNodes tight item,
      map_node_placedItems tight items, nodesOfItems]

end

/-- A placed node is a node. -/
theorem node_mem_nodesOf {tight : Bool} {ns : List Node} {m : PlacedNode}
    (h : m ∈ placedNodes tight ns) : m.node ∈ nodesOf ns := by
  rw [← map_node_placedNodes tight ns]
  exact List.mem_map_of_mem h

/-! ### Raw HTML -/

/-- The node is one of the four forms of raw HTML. -/
def Node.IsRaw : Node → Prop
  | .htmlBlock .. | .htmlSection .. | .htmlElement .. | .rawHtml _ => True
  | _ => False

/-- The node is what HTML text is read to: a text, an element, or raw HTML that was not
understood. -/
def Node.IsHtml : Node → Prop
  | .text _ | .htmlElement .. | .rawHtml _ => True
  | _ => False

/-- The node is no HTML block with Markdown in it, and no section with Markdown in its leading
part. -/
def Node.HoldsHtml : Node → Prop
  | .htmlBlock _ nodes => ∀ m ∈ nodesOf nodes, m.IsHtml
  | .htmlSection _ _ leading _ _ _ => ∀ m ∈ nodesOf leading, m.IsHtml
  | _ => True

/-- The node is no void element with children. -/
def Node.VoidChildless : Node → Prop
  | .htmlElement _ _ children _ _ void => void = true → children = []
  | _ => True

/-- An element that a policy drops with its children, when void elements have none, has none. -/
theorem eq_nil_of_dropped {children : List Node} {void : Bool}
    (hvoid : void = true → children = []) (hdropped : (void || children.isEmpty) = true) :
    children = [] := by
  rcases Bool.or_eq_true_iff.1 hdropped with hvoided | hempty
  · exact hvoid hvoided
  · exact List.isEmpty_iff.1 hempty

/-- The node is what HTML text is read to, and no void element with children. -/
def Node.IsTidyHtml (n : Node) : Prop :=
  n.IsHtml ∧ n.VoidChildless

/-- The tag of a raw element or a section. -/
def Node.rawTag? : Node → Option String
  | .htmlElement tag .. | .htmlSection tag .. => some tag
  | _ => none

/-! ### Levels -/

/-- The nodes of the lists directly below a node, one list after the other. -/
def Node.childNodes : Node → List Node
  | .heading _ children | .paragraph children | .blockQuote children | .htmlBlock _ children
  | .emphasis children | .strong children | .link _ children
  | .htmlElement _ _ children _ _ _ => children
  | .list _ items _ => items.flatten
  | .htmlSection _ _ leading children _ _ => leading ++ children
  | .codeBlock _ | .thematicBreak | .text _ | .softBreak | .hardBreak | .codeSpan _ | .image _
  | .rawHtml _ => []

/-- The nodes that stand so many levels below a list; at level 0 they are its own. -/
def nodesAtLevel : Nat → List Node → List Node
  | 0, ns => ns
  | level + 1, ns => nodesAtLevel level (ns.flatMap Node.childNodes)

@[simp] theorem nodesAtLevel_nil (level : Nat) : nodesAtLevel level [] = [] := by
  induction level with
  | zero => rfl
  | succ level ih => rw [nodesAtLevel, List.flatMap_nil, ih]

/-- Levels of two lists are taken list by list. -/
theorem nodesAtLevel_append (level : Nat) (ns ms : List Node) :
    nodesAtLevel level (ns ++ ms) = nodesAtLevel level ns ++ nodesAtLevel level ms := by
  induction level generalizing ns ms with
  | zero => rfl
  | succ level ih => rw [nodesAtLevel, List.flatMap_append, ih, nodesAtLevel, nodesAtLevel]

/-- A level down from a node is a level of its children. -/
theorem nodesAtLevel_succ_singleton (level : Nat) (n : Node) :
    nodesAtLevel (level + 1) [n] = nodesAtLevel level n.childNodes := by
  rw [nodesAtLevel, List.flatMap_singleton]

/-! ### Text -/

/-- The text of a text node. -/
def Node.ownText : Node → List Char
  | .text value => value.toList
  | _ => []

/-- The text of a list of nodes, that of the nodes below them in document order. -/
def textOf (ns : List Node) : List Char :=
  (nodesOf ns).flatMap Node.ownText

@[simp] theorem textOf_nil : textOf [] = [] := rfl

theorem textOf_text_cons (value : String) (ns : List Node) :
    textOf (.text value :: ns) = value.toList ++ textOf ns := by
  simp [textOf, nodesOf, Node.inside, Node.ownText]

theorem textOf_htmlElement_cons (tag : String) (attrs : List Attr) (children : List Node)
    (startSource endSource : String) (void : Bool) (ns : List Node) :
    textOf (.htmlElement tag attrs children startSource endSource void :: ns) =
      textOf children ++ textOf ns := by
  simp [textOf, nodesOf, Node.inside, Node.ownText]

end SafeMarkdown.Document
