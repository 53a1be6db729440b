import NatGateway.Proofs.Listing
import NatGateway.Xml.Node

/-!
# Child elements by their places

The look-ups of an element say which child they find: the first one of a name, or all of a name. A
place is the number of child elements in front, so texts and comments between them do not count.
-/

namespace NatGateway.Xml.Element

variable {element child : Element} {name : String} {i : Nat}

/-- Whether the child element at a place is the first one of a name. -/
structure IsFirstNamed (element : Element) (name : String) (i : Nat) (child : Element) : Prop where
  stands : element.elements[i]? = some child
  named : child.name = name
  first : ∀ j < i, ∀ other, element.elements[j]? = some other → other.name ≠ name

/-- There is one first child of a name at most. -/
theorem IsFirstNamed.unique {i' : Nat} {child' : Element} (h : element.IsFirstNamed name i child)
    (h' : element.IsFirstNamed name i' child') : i = i' ∧ child = child' := by
  rcases Nat.lt_trichotomy i i' with hlt | rfl | hlt
  · exact absurd h.named (h'.first i hlt child h.stands)
  · exact ⟨rfl, Option.some.inj (h.stands.symm.trans h'.stands)⟩
  · exact absurd h'.named (h.first i' hlt child' h'.stands)

/-- The look-up of a child finds the first one of the name. -/
theorem child?_eq_some_iff : element.child? name = some child ↔ ∃ i, element.IsFirstNamed name i child := by
  rw [child?, named, List.head?_filter, List.find?_eq_some_iff_getElem, beq_iff_eq]
  constructor
  · rintro ⟨hname, i, hi, rfl, hfirst⟩
    refine ⟨i, List.getElem?_eq_getElem hi, hname, fun j hj other hother => ?_⟩
    obtain ⟨_, rfl⟩ := List.getElem?_eq_some_iff.1 hother
    simpa using hfirst j hj
  · rintro ⟨i, h⟩
    obtain ⟨hi, hchild⟩ := List.getElem?_eq_some_iff.1 h.stands
    refine ⟨h.named, i, hi, hchild, fun j hj => ?_⟩
    simpa using h.first j hj _ (List.getElem?_eq_getElem (Nat.lt_trans hj hi))

/-- What holds of the first child of a name holds of the one that the look-up finds, if any. -/
theorem forall_isFirstNamed_iff {holds : Element → Prop} :
    (∀ i child, element.IsFirstNamed name i child → holds child) ↔
      ∀ child ∈ element.child? name, holds child := by
  simp only [Option.mem_def, child?_eq_some_iff, forall_exists_index]
  exact forall_comm

/-- Of the children of a name the look-up lists the first one. -/
theorem lists_child? (element : Element) (name : String) :
    Lists (element.IsFirstNamed name) (element.child? name).toList := by
  cases hchild : element.child? name with
  | none =>
    refine .nil fun i child h => ?_
    rw [child?_eq_some_iff.2 ⟨i, h⟩] at hchild
    cases hchild
  | some child =>
    obtain ⟨i, h⟩ := child?_eq_some_iff.1 hchild
    have hnone : Lists (fun (_ : Nat) (_ : Element) => False) [] := .nil fun _ _ => id
    refine (hnone.cons i child fun _ _ => False.elim).congr fun j other => ?_
    rw [or_false]
    exact ⟨fun ⟨hj, hother⟩ => hj ▸ hother ▸ h, fun h' => h'.unique h⟩

/-- The children of a name are listed in their order. -/
theorem lists_named (element : Element) (name : String) :
    Lists (fun (i : Nat) child => element.elements[i]? = some child ∧ child.name = name)
      (element.named name) :=
  (lists_filter (·.name == name) element.elements).congr fun _ _ =>
    and_congr_right fun _ => beq_iff_eq

end NatGateway.Xml.Element
