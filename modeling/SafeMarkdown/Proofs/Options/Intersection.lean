import Mathlib.Data.List.Sort
import SafeMarkdown.Options.Policy

/-!
# The intersection of policies

Two policies together keep what each of them keeps: the elements on both lists of elements, and the
attributes on both lists of attributes. A set of names is determined by its members
(`NameSet.ext_mem`), so the intersection of a policy with itself is the policy, and the order of the
two does not matter.
-/

namespace SafeMarkdown

namespace NameSet

/-- **Sets of names are determined by their members**, because their lists are sorted and without
repetition. -/
theorem ext_mem {s t : NameSet} (h : ∀ x, x ∈ s ↔ x ∈ t) : s = t := by
  obtain ⟨names, hnames⟩ := s
  obtain ⟨others, hothers⟩ := t
  obtain rfl : names = others := hnames.eq_of_mem_iff hothers h
  rfl

/-- The names in both sets. -/
def inter (s t : NameSet) : NameSet :=
  ⟨s.toList.filter (· ∈ t), s.increasing.filter _⟩

/-- A name is in the intersection when it is in both sets. -/
@[simp] theorem mem_inter {x : String} {s t : NameSet} : x ∈ s.inter t ↔ x ∈ s ∧ x ∈ t := by
  simp [inter, mem_def]

/-- A set of names meets itself in itself. -/
theorem inter_self (s : NameSet) : s.inter s = s :=
  ext_mem fun x ↦ by rw [mem_inter, and_self]

/-- The order of two sets does not matter. -/
theorem inter_comm (s t : NameSet) : s.inter t = t.inter s :=
  ext_mem fun x ↦ by rw [mem_inter, mem_inter, and_comm]

end NameSet

namespace Policy

/-- The policy that keeps what both policies keep. -/
def inter (p q : Policy) : Policy :=
  ⟨p.elements.inter q.elements, p.attributes.inter q.attributes⟩

/-- A policy with itself allows what it allows alone. -/
theorem inter_self (p : Policy) : p.inter p = p := by
  rw [inter, NameSet.inter_self, NameSet.inter_self]

/-- The order of two policies does not matter. -/
theorem inter_comm (p q : Policy) : p.inter q = q.inter p := by
  rw [inter, NameSet.inter_comm, NameSet.inter_comm p.attributes, ← inter]

/-- Two policies together allow the elements that both allow. -/
theorem allowsElement_inter (p q : Policy) (tag : String) :
    (p.inter q).allowsElement tag = (p.allowsElement tag && q.allowsElement tag) := by
  simp [inter, allowsElement]

/-- **Filtering twice** keeps the attributes that both policies keep, in their order. -/
theorem filterAttrs_filterAttrs (p q : Policy) (attrs : List Attr) :
    p.filterAttrs (q.filterAttrs attrs) = (p.inter q).filterAttrs attrs := by
  simp [inter, filterAttrs, List.filter_filter]

end Policy

end SafeMarkdown
