import SafeMarkdown.Proofs.Markup.Vocabulary

/-!
# The nodes of a tree of markup

`preorder` lists a node and all nodes below it in document order. What is said of an element
anywhere in a tree is said of the members of that list.
-/

namespace SafeMarkdown.Markup

mutual

/-- A node and all nodes below it, in document order. -/
def preorder : Markup → List Markup
  | text value => [text value]
  | element tag attrs children => element tag attrs children :: preorders children

/-- The nodes of a list and all nodes below them, in document order. -/
def preorders : List Markup → List Markup
  | [] => []
  | n :: ns => n.preorder ++ preorders ns

end

/-- The nodes of two lists are those of the first and then those of the second. -/
theorem preorders_append (ms ns : List Markup) :
    preorders (ms ++ ns) = preorders ms ++ preorders ns := by
  induction ms with
  | nil => rfl
  | cons m ms ih => rw [List.cons_append, preorders, preorders, ih, List.append_assoc]

/-- The nodes of a list of one are those of that one. -/
theorem preorders_singleton (n : Markup) : preorders [n] = n.preorder := by
  rw [preorders, preorders, List.append_nil]

/-- What holds somewhere in a list holds somewhere in its head or somewhere in its tail. -/
theorem exists_mem_preorders_cons {p : Markup → Prop} {n : Markup} {ns : List Markup} :
    (∃ m ∈ preorders (n :: ns), p m) ↔ (∃ m ∈ n.preorder, p m) ∨ ∃ m ∈ preorders ns, p m := by
  simp only [preorders, List.mem_append, or_and_right, exists_or]

/-- A node is among its nodes, at their head. -/
theorem self_mem_preorder (n : Markup) : n ∈ n.preorder := by
  cases n <;> simp [preorder]

mutual

/-- The nodes below a node of a tree are nodes of the tree. -/
theorem preorder_subset : ∀ {n m : Markup}, m ∈ n.preorder → m.preorder ⊆ n.preorder
  | .text _, _, h => by
    obtain rfl := List.mem_singleton.1 h
    exact List.Subset.refl _
  | .element _ _ _, _, h => by
    rcases List.mem_cons.1 h with rfl | h
    · exact List.Subset.refl _
    · exact List.Subset.trans (preorder_subset_preorders h) (List.subset_cons_self _ _)

/-- What is below a node of a list is a node of the list. -/
theorem preorder_subset_preorders :
    ∀ {ns : List Markup} {m : Markup}, m ∈ preorders ns → m.preorder ⊆ preorders ns
  | [], _, h => by simp [preorders] at h
  | n :: ns, m, h => by
    rcases List.mem_append.1 h with h | h
    · exact List.subset_append_of_subset_left _ (preorder_subset h)
    · exact List.subset_append_of_subset_right _ (preorder_subset_preorders h)

end

/-- So is what is below an element of the list. -/
theorem preorders_subset_of_element_mem {tag : String} {attrs : List Attr}
    {children nodes : List Markup} (h : .element tag attrs children ∈ preorders nodes) :
    preorders children ⊆ preorders nodes := fun _ hm ↦
  preorder_subset_preorders h (by rw [preorder]; exact List.mem_cons_of_mem _ hm)

mutual

/-- A node that is within a vocabulary has only nodes within it. -/
theorem within_of_mem_preorder {v : Vocabulary} :
    ∀ {n m : Markup}, Within v n → m ∈ n.preorder → Within v m
  | .text _, _, hn, h => by
    obtain rfl := List.mem_singleton.1 h
    exact hn
  | .element _ _ _, _, hn, h => by
    rcases List.mem_cons.1 h with rfl | h
    · exact hn
    · exact within_of_mem_preorders hn.2.2 h

/-- A vocabulary that holds the names of a tree holds those of every element in it. -/
theorem within_of_mem_preorders {v : Vocabulary} :
    ∀ {ns : List Markup} {m : Markup}, AllWithin v ns → m ∈ preorders ns → Within v m
  | [], _, _, h => by simp [preorders] at h
  | _ :: _, _, hns, h => by
    rcases List.mem_append.1 h with h | h
    · exact within_of_mem_preorder hns.1 h
    · exact within_of_mem_preorders hns.2 h

end

/-- What holds of all nodes of a list is said member by member. -/
theorem forall_mem_preorders {P : Markup → Prop} {ns : List Markup} :
    (∀ m ∈ preorders ns, P m) ↔ ∀ n ∈ ns, ∀ m ∈ n.preorder, P m := by
  induction ns with
  | nil => simp [preorders]
  | cons n ns ih => rw [preorders, List.forall_mem_append, ih, List.forall_mem_cons]

/-! ### Elements without children -/

/-- The elements of those tags at and below the node have no children. -/
def Childless (tags : List String) (n : Markup) : Prop :=
  ∀ m ∈ n.preorder, ∀ {tag attrs children}, m = .element tag attrs children → tag ∈ tags →
    children = []

/-- A text is no element. -/
@[simp] theorem childless_text {tags : List String} {value : String} :
    Childless tags (.text value) := by
  simp [Childless, preorder]

/-- The condition on an element is one on its own children and one below them. -/
theorem childless_element {tags : List String} {tag : String} {attrs : List Attr}
    {children : List Markup} :
    Childless tags (.element tag attrs children) ↔
      (tag ∈ tags → children = []) ∧ All (Childless tags) children := by
  rw [Childless, preorder, List.forall_mem_cons, forall_mem_preorders]
  refine and_congr_left fun _ ↦ ⟨fun h ↦ h rfl, fun h _ _ _ heq ↦ ?_⟩
  cases heq
  exact h

/-- An element of one of those tags has no children, wherever it stands. -/
theorem Childless.eq_nil_of_mem_preorders {tags : List String} {ns : List Markup}
    (h : All (Childless tags) ns) {tag : String} {attrs : List Attr} {children : List Markup}
    (hmem : .element tag attrs children ∈ preorders ns) (htag : tag ∈ tags) : children = [] :=
  forall_mem_preorders.2 h _ hmem rfl htag

end SafeMarkdown.Markup
