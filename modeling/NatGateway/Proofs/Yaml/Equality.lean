import NatGateway.Proofs.Yaml.Value

/-!
# Equality of values

Values are equal if they are made of equal parts, where the order in which a mapping lists its
entries does not matter. Equalities can be chained in any case. To turn one around takes that no
mapping has two entries with the same key: only then do the entries of a mapping account for all
entries of another one that is as long and in which each of them is found.

Keys that are equal are the same key: what stands under one of them stands under the other, and what
is put under one of them is found under the other.
-/

namespace NatGateway

namespace Floating.Binary64

variable {a b c : Binary64}

/-- Equality of floating-point numbers can be turned around. -/
theorem same_symm (h : a.same b = true) : b.same a = true := by
  simp only [same, Bool.or_eq_true, Bool.and_eq_true, beq_iff_eq] at h ⊢
  rcases h with rfl | ⟨ha, hb⟩
  · exact .inl rfl
  · exact .inr ⟨hb, ha⟩

/-- Equalities of floating-point numbers can be chained. -/
theorem same_trans (h : a.same b = true) (h' : b.same c = true) : a.same c = true := by
  simp only [same, Bool.or_eq_true, Bool.and_eq_true, beq_iff_eq] at h h' ⊢
  rcases h with rfl | ⟨ha, hb⟩
  · exact h'
  · rcases h' with rfl | ⟨_, hc⟩
    · exact .inr ⟨ha, hb⟩
    · exact .inr ⟨ha, hc⟩

end Floating.Binary64

namespace Yaml

namespace Number

variable {a b c : Number}

/-- Equality of numbers can be turned around. -/
theorem same_symm (h : a.same b = true) : b.same a = true := by
  cases a <;> cases b <;> simp only [same, beq_iff_eq, Bool.false_eq_true] at h ⊢
  · exact h.symm
  · exact Floating.Binary64.same_symm h

/-- Equalities of numbers can be chained. -/
theorem same_trans (h : a.same b = true) (h' : b.same c = true) : a.same c = true := by
  cases a <;> cases b <;> cases c <;> simp only [same, beq_iff_eq, Bool.false_eq_true] at h h' ⊢
  · exact h.trans h'
  · exact Floating.Binary64.same_trans h h'

end Number

/-! ## Values without a key that comes twice -/

/-- Values in which no mapping has two entries with the same key, at any depth, in keys and under tags
too. -/
inductive HasUniqueKeys : Value → Prop
  | leaf {value : Value} (hsequence : ∀ items, value ≠ .sequence items)
      (hmapping : ∀ entries, value ≠ .mapping entries)
      (htagged : ∀ tag inner, value ≠ .tagged tag inner) : HasUniqueKeys value
  | sequence {items : List Value} (items_unique : ∀ item ∈ items, HasUniqueKeys item) :
      HasUniqueKeys (.sequence items)
  | mapping {entries : List (Value × Value)} (distinct : Distinct entries)
      (keys : ∀ entry ∈ entries, HasUniqueKeys entry.1)
      (values : ∀ entry ∈ entries, HasUniqueKeys entry.2) : HasUniqueKeys (.mapping entries)
  | tagged {tag : String} {inner : Value} (inner_unique : HasUniqueKeys inner) :
      HasUniqueKeys (.tagged tag inner)

variable {entries others : List (Value × Value)} {tag : String}
  {a b c key other value : Value}

/-- The items of a sequence without a key that comes twice are values of the same kind. -/
theorem HasUniqueKeys.items {list : List Value} (h : HasUniqueKeys (.sequence list)) :
    ∀ item ∈ list, HasUniqueKeys item := by
  cases h with
  | leaf hsequence _ _ => exact absurd rfl (hsequence list)
  | sequence hitems => exact hitems

/-- What is under a tag has no key that comes twice if nothing else has. -/
theorem HasUniqueKeys.inner (h : HasUniqueKeys (.tagged tag value)) : HasUniqueKeys value := by
  cases h with
  | leaf _ _ htagged => exact absurd rfl (htagged tag value)
  | tagged hinner => exact hinner

/-- The keys of a mapping without a key that comes twice are distinct. -/
theorem HasUniqueKeys.distinct (h : HasUniqueKeys (.mapping entries)) : Distinct entries := by
  cases h with
  | leaf _ hmapping _ => exact absurd rfl (hmapping entries)
  | mapping hdistinct _ _ => exact hdistinct

/-- Nor does a key come twice in the keys of such a mapping. -/
theorem HasUniqueKeys.keys (h : HasUniqueKeys (.mapping entries)) :
    ∀ entry ∈ entries, HasUniqueKeys entry.1 := by
  cases h with
  | leaf _ hmapping _ => exact absurd rfl (hmapping entries)
  | mapping _ hkeys _ => exact hkeys

/-- Nor in its values. -/
theorem HasUniqueKeys.values (h : HasUniqueKeys (.mapping entries)) :
    ∀ entry ∈ entries, HasUniqueKeys entry.2 := by
  cases h with
  | leaf _ hmapping _ => exact absurd rfl (hmapping entries)
  | mapping _ _ hvalues => exact hvalues

/-- Nor in what stands under a key. -/
theorem HasUniqueKeys.of_lookup? (h : HasUniqueKeys (.mapping entries))
    (hlookup : Value.lookup? key entries = some value) : HasUniqueKeys value := by
  obtain ⟨k, hmem, _⟩ := Value.exists_mem_of_lookup? hlookup
  exact h.values _ hmem

namespace Value

/-! ## Chains of equalities -/

/-- Equalities of lists of values can be chained if those of their items can. -/
theorem sameItems_trans {as bs cs : List Value}
    (h : ∀ a ∈ as, ∀ b c, same a b = true → same b c = true → same a c = true)
    (hab : sameItems as bs = true) (hbc : sameItems bs cs = true) : sameItems as cs = true := by
  induction as generalizing bs cs with
  | nil =>
    cases bs with
    | nil => exact hbc
    | cons b bs => simp [sameItems] at hab
  | cons a as ih =>
    cases bs with
    | nil => simp [sameItems] at hab
    | cons b bs =>
      cases cs with
      | nil => simp [sameItems] at hbc
      | cons c cs =>
        simp only [sameItems, Bool.and_eq_true] at hab hbc ⊢
        rw [List.forall_mem_cons] at h
        exact ⟨h.1 b c hab.1 hbc.1, ih h.2 hab.2 hbc.2⟩

/-- Equalities of values can be chained. -/
theorem same_trans (h : same a b = true) (h' : same b c = true) : same a c = true := by
  induction a using induct generalizing b c with
  | leaf a hsequence hmapping htagged =>
    cases a with
    | sequence items => exact absurd rfl (hsequence items)
    | mapping entries => exact absurd rfl (hmapping entries)
    | tagged tag inner => exact absurd rfl (htagged tag inner)
    | number n =>
      cases b <;> simp only [same, Bool.false_eq_true] at h
      cases c <;> simp only [same, Bool.false_eq_true] at h' ⊢
      exact Number.same_trans h h'
    | _ => cases b <;> simp_all [same]
  | sequence items ih =>
    cases b <;> simp only [same, Bool.false_eq_true] at h
    cases c <;> simp only [same, Bool.false_eq_true] at h' ⊢
    exact sameItems_trans (fun item hitem b c => ih item hitem) h h'
  | mapping entries ih =>
    cases b <;> simp only [same, Bool.false_eq_true] at h
    cases c <;> simp only [same, Bool.false_eq_true] at h' ⊢
    simp only [Bool.and_eq_true, beq_iff_eq, entriesIn_iff] at h h' ⊢
    refine ⟨h.1.trans h'.1, fun entry hentry => ?_⟩
    obtain ⟨next, hnext, hkey, hvalue⟩ := h.2 entry hentry
    obtain ⟨last, hlast, hkey', hvalue'⟩ := h'.2 next hnext
    exact ⟨last, hlast, (ih entry hentry).1 hkey hkey', (ih entry hentry).2 hvalue hvalue'⟩
  | tagged tag inner ih =>
    cases b <;> simp only [same, Bool.false_eq_true] at h
    cases c <;> simp only [same, Bool.false_eq_true] at h' ⊢
    simp only [Bool.and_eq_true, beq_iff_eq] at h h' ⊢
    exact ⟨h.1.trans h'.1, ih h.2 h'.2⟩

/-! ## Equalities turned around -/

/-- Equality of lists of values can be turned around if that of their items can. -/
theorem sameItems_symm {as bs : List Value} (h : ∀ a ∈ as, ∀ b, same a b = true → same b a = true)
    (hab : sameItems as bs = true) : sameItems bs as = true := by
  induction as generalizing bs with
  | nil =>
    cases bs with
    | nil => rfl
    | cons b bs => simp [sameItems] at hab
  | cons a as ih =>
    cases bs with
    | nil => simp [sameItems] at hab
    | cons b bs =>
      simp only [sameItems, Bool.and_eq_true] at hab ⊢
      rw [List.forall_mem_cons] at h
      exact ⟨h.1 b hab.1, ih h.2 hab.2⟩

/-- If each item of a list is found in another one that is no longer, and no two of them in the same
place, then all items of the other one are found. -/
theorem exists_of_pairwise_apart {α β : Type} {found : α → β → Prop} {list : List α} {others : List β}
    (hfound : ∀ item ∈ list, ∃ other ∈ others, found item other)
    (hapart : list.Pairwise fun item later => ∀ other, found item other → ¬ found later other)
    (hlength : others.length ≤ list.length) : ∀ other ∈ others, ∃ item ∈ list, found item other := by
  induction list generalizing others with
  | nil =>
    intro other hother
    rw [List.length_nil, Nat.le_zero, List.length_eq_zero_iff] at hlength
    subst hlength
    cases hother
  | cons item rest ih =>
    obtain ⟨hitem, hrest⟩ := List.forall_mem_cons.1 hfound
    obtain ⟨hfirst, hpairwise⟩ := List.pairwise_cons.1 hapart
    obtain ⟨place, hplace, hhere⟩ := hitem
    -- The place of the first item is not needed for the others.
    obtain ⟨front, back, rfl⟩ := List.append_of_mem hplace
    have hothers : ∀ later ∈ rest, ∃ other ∈ front ++ back, found later other := by
      intro later hlater
      obtain ⟨other, hother, hthere⟩ := hrest later hlater
      refine ⟨other, ?_, hthere⟩
      simp only [List.mem_append, List.mem_cons] at hother ⊢
      rcases hother with hfront | rfl | hback
      · exact .inl hfront
      · exact absurd hthere (hfirst later hlater other hhere)
      · exact .inr hback
    have hall := ih hothers hpairwise (by simp at hlength ⊢; omega)
    intro other hother
    rcases List.mem_append.1 hother with hfront | hmiddle
    · obtain ⟨later, hlater, hthere⟩ := hall other (List.mem_append_left back hfront)
      exact ⟨later, List.mem_cons_of_mem item hlater, hthere⟩
    · rcases List.mem_cons.1 hmiddle with rfl | hback
      · exact ⟨item, List.mem_cons_self, hhere⟩
      · obtain ⟨later, hlater, hthere⟩ := hall other (List.mem_append_right front hback)
        exact ⟨later, List.mem_cons_of_mem item hlater, hthere⟩

/-- Equality of values can be turned around if the first one has no key that comes twice. -/
theorem same_symm (ha : HasUniqueKeys a) (h : same a b = true) : same b a = true := by
  induction a using induct generalizing b with
  | leaf a hsequence hmapping htagged =>
    cases a with
    | sequence items => exact absurd rfl (hsequence items)
    | mapping entries => exact absurd rfl (hmapping entries)
    | tagged tag inner => exact absurd rfl (htagged tag inner)
    | number n =>
      cases b <;> simp only [same, Bool.false_eq_true] at h ⊢
      exact Number.same_symm h
    | _ => cases b <;> simp_all [same]
  | sequence items ih =>
    cases b <;> simp only [same, Bool.false_eq_true] at h ⊢
    exact sameItems_symm (fun item hitem b => ih item hitem (ha.items item hitem)) h
  | mapping entries ih =>
    cases b <;> simp only [same, Bool.false_eq_true] at h ⊢
    case mapping others =>
    simp only [Bool.and_eq_true, beq_iff_eq, entriesIn_iff] at h ⊢
    refine ⟨h.1.symm, fun other hother => ?_⟩
    have hapart : entries.Pairwise fun entry later => ∀ other : Value × Value,
        same entry.1 other.1 = true ∧ same entry.2 other.2 = true →
          ¬ (same later.1 other.1 = true ∧ same later.2 other.2 = true) := by
      refine (List.pairwise_map.1 ha.distinct).imp_of_mem ?_
      intro entry later _ hlater hdistinct other hentry hsame
      have hback := (ih later hlater).1 (ha.keys later hlater) hsame.1
      rw [same_trans hentry.1 hback] at hdistinct
      cases hdistinct
    obtain ⟨entry, hentry, hkey, hvalue⟩ :=
      exists_of_pairwise_apart h.2 hapart (Nat.le_of_eq h.1.symm) other hother
    exact ⟨entry, hentry, (ih entry hentry).1 (ha.keys entry hentry) hkey,
      (ih entry hentry).2 (ha.values entry hentry) hvalue⟩
  | tagged tag inner ih =>
    cases b <;> simp only [same, Bool.false_eq_true] at h ⊢
    simp only [Bool.and_eq_true, beq_iff_eq] at h ⊢
    exact ⟨h.1.symm, ih ha.inner h.2⟩

/-! ## Equal keys -/

/-- The same is found under equal keys. -/
theorem lookup?_congr (hkey : HasUniqueKeys key) (h : key.same other = true) :
    lookup? key entries = lookup? other entries := by
  induction entries with
  | nil => rfl
  | cons entry rest ih =>
    obtain ⟨k, v⟩ := entry
    rw [lookup?, lookup?, ih]
    have hiff : k.same key = true ↔ k.same other = true :=
      ⟨fun hk => same_trans hk h, fun hk => same_trans hk (same_symm hkey h)⟩
    simp only [hiff]

/-- What is put under a key is found under equal ones, and all else stays. -/
theorem lookup?_insert (hkeys : ∀ entry ∈ entries, HasUniqueKeys entry.1) (hkey : HasUniqueKeys key) :
    lookup? other (insert key value entries) =
      if key.same other = true then some value else lookup? other entries := by
  induction entries with
  | nil => rfl
  | cons entry rest ih =>
    obtain ⟨k, v⟩ := entry
    rw [List.forall_mem_cons] at hkeys
    rw [insert]
    by_cases hk : k.same key = true
    · rw [if_pos hk, lookup?, lookup?]
      have hiff : k.same other = true ↔ key.same other = true :=
        ⟨fun h => same_trans (same_symm hkeys.1 hk) h, fun h => same_trans hk h⟩
      by_cases hother : key.same other = true
      · rw [if_pos (hiff.2 hother), if_pos hother]
      · rw [if_neg (mt hiff.1 hother), if_neg hother, if_neg (mt hiff.1 hother)]
    · rw [if_neg hk, lookup?, lookup?, ih hkeys.2]
      by_cases hother : key.same other = true
      · rw [if_pos hother, if_pos hother, if_neg]
        exact fun h => hk (same_trans h (same_symm hkey hother))
      · rw [if_neg hother, if_neg hother]

/-- Behind an entry with distinct keys nothing more is found under its key. -/
theorem lookup?_eq_none_of_distinct (hkeys : ∀ entry ∈ (key, value) :: entries, HasUniqueKeys entry.1)
    (hdistinct : Distinct ((key, value) :: entries)) (h : key.same other = true) :
    lookup? other entries = none := by
  obtain ⟨hkey, hrest⟩ := List.forall_mem_cons.1 hkeys
  obtain ⟨hlater, _⟩ := List.pairwise_cons.1 hdistinct
  rw [lookup?_eq_none_iff]
  intro entry hentry
  have hdifferent := hlater entry.1 (List.mem_map_of_mem hentry)
  rw [Bool.eq_false_iff] at hdifferent ⊢
  intro hentryOther
  exact hdifferent (same_trans h (same_symm (hrest entry hentry) hentryOther))

end Value

end Yaml

end NatGateway
