import NatGateway.Proofs.Result

/-!
# The first of a list

What stands in a list behind items that are all passed over, as the entry does that is found under a
key, and what comes of a list whose items are read one after the other. Such a reading gives what the
items contribute, in order, if none of them is refused, and otherwise the failure of the first one that
is; nothing behind that one matters.
-/

namespace NatGateway

variable {α β ε : Type}

/-- Whether an item of a list stands behind none but items that are passed over. -/
def IsFirst (passes : α → Prop) (list : List α) (item : α) : Prop :=
  ∃ before after, list = before ++ item :: after ∧ ∀ other ∈ before, passes other

variable {passes : α → Prop} {list : List α}

/-- Nothing is the first of an empty list. -/
theorem not_isFirst_nil (item : α) : ¬ IsFirst passes [] item := by
  rintro ⟨before, after, hlist, _⟩
  exact List.append_ne_nil_of_right_ne_nil before (List.cons_ne_nil item after) hlist.symm

/-- The first item of a list is its head, or is found behind the head if that is passed over. -/
theorem isFirst_cons_iff {head item : α} {rest : List α} :
    IsFirst passes (head :: rest) item ↔
      item = head ∨ passes head ∧ IsFirst passes rest item := by
  constructor
  · rintro ⟨before, after, hlist, hbefore⟩
    cases before with
    | nil => exact Or.inl (List.cons.inj hlist).1.symm
    | cons first before =>
      obtain ⟨rfl, hrest⟩ := List.cons.inj hlist
      obtain ⟨hfirst, hbefore⟩ := List.forall_mem_cons.1 hbefore
      exact Or.inr ⟨hfirst, before, after, hrest, hbefore⟩
  · rintro (rfl | ⟨hhead, before, after, rfl, hbefore⟩)
    · exact ⟨[], rest, rfl, fun _ h => nomatch h⟩
    · exact ⟨head :: before, after, rfl, List.forall_mem_cons.2 ⟨hhead, hbefore⟩⟩

/-- The first item is one of the list. -/
theorem IsFirst.mem {item : α} (h : IsFirst passes list item) : item ∈ list := by
  obtain ⟨before, after, rfl, _⟩ := h
  exact List.mem_append_right before List.mem_cons_self

/-- A list without the first item of some kind has no item of that kind. -/
theorem exists_isFirst_of_mem {item : α} (hmem : item ∈ list) (hitem : ¬ passes item) :
    ∃ first, IsFirst passes list first ∧ ¬ passes first := by
  induction list with
  | nil => cases hmem
  | cons head rest ih =>
    by_cases hhead : passes head
    · have hrest : item ∈ rest := by
        rcases List.mem_cons.1 hmem with rfl | hrest
        · exact absurd hhead hitem
        · exact hrest
      obtain ⟨first, hfirst, hrefused⟩ := ih hrest
      exact ⟨first, isFirst_cons_iff.2 (Or.inr ⟨hhead, hfirst⟩), hrefused⟩
    · exact ⟨head, isFirst_cons_iff.2 (Or.inl rfl), hhead⟩

/-- The first of the values that were read is that of the first item whose value is not passed over. -/
theorem isFirst_filterMap_iff {read : α → Option β} {passes : β → Prop} {value : β} :
    IsFirst passes (list.filterMap read) value ↔
      ∃ item, IsFirst (fun other => ∀ value, read other = some value → passes value) list item ∧
        read item = some value := by
  induction list with
  | nil => simp [not_isFirst_nil]
  | cons head rest ih =>
    simp only [isFirst_cons_iff, or_and_right, exists_or, exists_eq_left, and_assoc, exists_and_left]
    rw [← ih]
    cases hhead : read head with
    | none => simp [List.filterMap_cons_none hhead]
    | some first =>
      rw [List.filterMap_cons_some hhead, isFirst_cons_iff]
      simp [eq_comm]

/-! ## Looking up -/

section

variable {κ : Type} [BEq κ] [LawfulBEq κ] {entries : List (κ × β)} {key : κ}

/-- What is found under a key is the value of its first entry. -/
theorem lookup_eq_some_iff_isFirst {value : β} :
    entries.lookup key = some value ↔ IsFirst (fun entry => entry.1 ≠ key) entries (key, value) := by
  induction entries with
  | nil => simp [not_isFirst_nil]
  | cons entry rest ih =>
    obtain ⟨other, present⟩ := entry
    rw [isFirst_cons_iff, Prod.mk.injEq]
    by_cases hkey : other = key
    · subst hkey
      simp [List.lookup_cons_self, eq_comm]
    · rw [List.lookup_cons, beq_eq_false_iff_ne.2 (Ne.symm hkey), ← ih]
      simp [hkey, Ne.symm hkey]

/-- Nothing is found under a key exactly if no entry has it. -/
theorem lookup_eq_none_iff_forall_ne :
    entries.lookup key = none ↔ ∀ entry ∈ entries, entry.1 ≠ key :=
  List.lookup_eq_none_iff.trans <| forall₂_congr fun _ _ => bne_iff_ne.trans ne_comm

/-- What is found by a key is the first item that has it. -/
theorem find?_eq_some_iff_isFirst {keyOf : α → κ} {item : α} :
    list.find? (keyOf · == key) = some item ↔
      keyOf item = key ∧ IsFirst (keyOf · ≠ key) list item := by
  rw [List.find?_eq_some_iff_append, IsFirst]
  simp

end

/-! ## Reading one item after the other -/

/-- Read the items of a list in order, and keep what each of them contributes. -/
def readEach (read : α → Except ε (Option β)) : List α → Except ε (List β)
  | [] => .ok []
  | item :: rest =>
      (read item).bind fun value => (readEach read rest).map (value.toList ++ ·)

section

variable {read : α → Except ε (Option β)} {accepts : α → Prop} {value : α → Option β}

/-- Items are read if each of them is accepted, and then give what each of them contributes. -/
theorem readEach_eq_ok_iff
    (hread : ∀ item result, read item = .ok result ↔ accepts item ∧ result = value item)
    {values : List β} :
    readEach read list = .ok values ↔
      (∀ item ∈ list, accepts item) ∧ values = list.filterMap value := by
  induction list generalizing values with
  | nil => simp [readEach, eq_comm]
  | cons item rest ih =>
    have hvalues : (value item).toList ++ rest.filterMap value =
        (item :: rest).filterMap value := by
      rw [List.filterMap_cons]
      cases value item <;> rfl
    rw [readEach, bind_eq_ok_iff, List.forall_mem_cons, ← hvalues]
    constructor
    · rintro ⟨result, hresult, hrest⟩
      obtain ⟨haccepts, rfl⟩ := (hread item result).1 hresult
      obtain ⟨others, hothers, rfl⟩ := map_eq_ok_iff.1 hrest
      obtain ⟨hall, rfl⟩ := ih.1 hothers
      exact ⟨⟨haccepts, hall⟩, rfl⟩
    · rintro ⟨⟨haccepts, hall⟩, rfl⟩
      exact ⟨value item, (hread item _).2 ⟨haccepts, rfl⟩,
        map_eq_ok_iff.2 ⟨_, ih.2 ⟨hall, rfl⟩, rfl⟩⟩

/-- Reading items fails exactly with the failure of the first one that is not accepted. -/
theorem readEach_eq_error_iff {offends : α → ε → Prop}
    (hread : ∀ item result, read item = .ok result ↔ accepts item ∧ result = value item)
    (hoffends : ∀ item error, read item = .error error ↔ offends item error) {error : ε} :
    readEach read list = .error error ↔
      ∃ bad, IsFirst accepts list bad ∧ offends bad error := by
  -- The head fails by itself exactly if it is not accepted; behind an accepted head nothing changes.
  induction list with
  | nil => simp [readEach, not_isFirst_nil]
  | cons item rest ih =>
    simp only [isFirst_cons_iff, or_and_right, exists_or, exists_eq_left, and_assoc,
      ← hoffends item, exists_and_left]
    rw [← ih, readEach]
    cases hitem : read item with
    | error other =>
      have hrefused : ¬ accepts item := fun haccepts => by
        rw [(hread item (value item)).2 ⟨haccepts, rfl⟩] at hitem
        cases hitem
      simp [Except.bind, hrefused]
    | ok result =>
      obtain ⟨haccepts, rfl⟩ := (hread item result).1 hitem
      cases readEach read rest <;> simp [Except.bind, Except.map, haccepts]

end

end NatGateway
