import NatGateway.Text.Ascii

/-!
# Cutting lists

When a list that was put together from parts tells the parts: if a part goes on up to the first
character that it may not hold, or if the parts stand between separators that none of them holds. And
what it says that a text is in front of another or within it.
-/

namespace NatGateway.Text

section

variable {α : Type}

/-- Whether a class ends where a list begins. -/
def Stops (p : α → Bool) (list : List α) : Prop := ∀ a ∈ list.head?, p a = false

/-- A part that goes on up to the first element outside a class is known from the whole. -/
theorem append_inj_of_stops {p : α → Bool} {before after before' after' : List α}
    (hbefore : ∀ a ∈ before, p a = true) (hafter : Stops p after)
    (hbefore' : ∀ a ∈ before', p a = true) (hafter' : Stops p after')
    (h : before ++ after = before' ++ after') : before = before' ∧ after = after' := by
  have htake : ∀ {first rest : List α}, (∀ a ∈ first, p a = true) → Stops p rest →
      (first ++ rest).takeWhile p = first := by
    intro first rest hfirst hrest
    rw [List.takeWhile_append_of_pos hfirst]
    cases rest with
    | nil => rw [List.takeWhile_nil, List.append_nil]
    | cons a rest =>
      rw [List.takeWhile_cons_of_neg (Bool.eq_false_iff.1 (hrest a rfl)), List.append_nil]
  have heq : before = before' := by
    rw [← htake hbefore hafter, h, htake hbefore' hafter']
  exact ⟨heq, List.append_cancel_left (heq ▸ h)⟩

/-- What is dropped at the start of a list stands in front of every element that is kept. -/
theorem dropWhile_append_cons {p : α → Bool} {a : α} (h : p a = false) (before after : List α) :
    (before ++ a :: after).dropWhile p = before.dropWhile p ++ a :: after := by
  rw [List.dropWhile_append, List.dropWhile_cons_of_neg (Bool.eq_false_iff.1 h)]
  split
  · next hempty => rw [List.isEmpty_iff.1 hempty, List.nil_append]
  · rfl

/-- What is dropped at the end of a list stands behind every element that is kept. -/
theorem dropEnd_append_cons {p : α → Bool} {a : α} (h : p a = false) (before after : List α) :
    ((before ++ a :: after).reverse.dropWhile p).reverse =
      before ++ a :: (after.reverse.dropWhile p).reverse := by
  rw [List.reverse_append, List.reverse_cons, List.append_assoc, List.singleton_append,
    dropWhile_append_cons h, List.reverse_append, List.reverse_cons, List.reverse_reverse,
    List.append_assoc, List.singleton_append]

variable [DecidableEq α] {separator : α} {before after before' after' : List α}

/-- The elements of a part that does not hold a separator are in the class of all others. -/
theorem forall_bne_of_not_mem (h : separator ∉ before) : ∀ a ∈ before, (a != separator) = true := by
  intro a ha
  rw [bne_iff_ne]
  rintro rfl
  exact h ha

/-- A part goes on up to the first separator, if it does not hold one itself. -/
theorem append_inj_of_not_mem (hbefore : separator ∉ before) (hafter : Stops (· != separator) after)
    (hbefore' : separator ∉ before') (hafter' : Stops (· != separator) after')
    (h : before ++ after = before' ++ after') : before = before' ∧ after = after' :=
  append_inj_of_stops (forall_bne_of_not_mem hbefore) hafter (forall_bne_of_not_mem hbefore') hafter' h

/-- The class of all others ends at a separator. -/
theorem stops_separator (separator : α) (list : List α) :
    Stops (· != separator) (separator :: list) := by
  intro a ha
  cases ha
  exact bne_self_eq_false separator

/-- A part before a separator that it does not hold is known from the whole. -/
theorem append_separator_inj (hbefore : separator ∉ before) (hbefore' : separator ∉ before')
    (h : before ++ separator :: after = before' ++ separator :: after') :
    before = before' ∧ after = after' := by
  obtain ⟨heq, hrest⟩ := append_inj_of_not_mem hbefore (stops_separator separator after) hbefore'
    (stops_separator separator after') h
  exact ⟨heq, (List.cons.inj hrest).2⟩

end

/-- Between pieces there is nothing but the separator. -/
theorem mem_intercalate {separator c : Char} {pieces : List (List Char)}
    (h : c ∈ [separator].intercalate pieces) : c = separator ∨ ∃ piece ∈ pieces, c ∈ piece := by
  induction pieces with
  | nil => cases h
  | cons piece rest ih =>
    cases rest with
    | nil =>
      rw [List.intercalate_singleton] at h
      exact .inr ⟨piece, List.mem_cons_self, h⟩
    | cons next rest =>
      rw [List.intercalate_cons_cons, List.mem_append, List.mem_append, List.mem_singleton] at h
      rcases h with (hpiece | hseparator) | hrest
      · exact .inr ⟨piece, List.mem_cons_self, hpiece⟩
      · exact .inl hseparator
      · obtain hseparator | ⟨other, hother, hc⟩ := ih hrest
        · exact .inl hseparator
        · exact .inr ⟨other, List.mem_cons_of_mem piece hother, hc⟩

/-- Cutting at a separator, by the function of the library. -/
theorem splitChars_eq_splitOn (separator : Char) (cs : List Char) :
    splitChars separator cs = cs.splitOn separator := by
  induction cs with
  | nil => rfl
  | cons c rest ih =>
    rw [splitChars, ih, List.splitOn, List.splitOn, List.splitOnP_cons_eq_if_modifyHead]
    by_cases hc : c = separator
    · rw [if_pos hc, if_pos (beq_iff_eq.2 hc)]
    · rw [if_neg hc, if_neg (mt beq_iff_eq.1 hc)]
      cases hrest : rest.splitOnP (· == separator) with
      | nil => exact absurd hrest (List.splitOnP_ne_nil _ rest)
      | cons piece pieces => rfl

/-- Pieces between separators that none of them holds come back. -/
theorem splitChars_intercalate {separator : Char} {pieces : List (List Char)}
    (h : ∀ piece ∈ pieces, separator ∉ piece) (hne : pieces ≠ []) :
    splitChars separator ([separator].intercalate pieces) = pieces := by
  rw [splitChars_eq_splitOn, List.splitOn_intercalate separator h hne]

/-- A list without the separator is one piece. -/
theorem splitChars_of_not_mem {separator : Char} {cs : List Char} (h : separator ∉ cs) :
    splitChars separator cs = [cs] := by
  have hsplit := @splitChars_intercalate separator [cs] (List.forall_mem_singleton.2 h) (by simp)
  rwa [List.intercalate_singleton] at hsplit

/-- The pieces in front of a separator come before those behind it. -/
theorem splitChars_append_cons (separator : Char) (before after : List Char) :
    splitChars separator (before ++ separator :: after) =
      splitChars separator before ++ splitChars separator after := by
  induction before with
  | nil => rw [List.nil_append, splitChars, splitChars, if_pos rfl, List.singleton_append]
  | cons c rest ih =>
    rw [List.cons_append, splitChars, splitChars, ih]
    by_cases hc : c = separator
    · rw [if_pos hc, if_pos hc, List.cons_append]
    · rw [if_neg hc, if_neg hc]
      cases hrest : splitChars separator rest with
      | nil =>
        rw [splitChars_eq_splitOn] at hrest
        exact absurd hrest (List.splitOnP_ne_nil _ rest)
      | cons piece pieces => rfl

/-- A separator between two lists without it makes two pieces. -/
theorem splitChars_append {separator : Char} {before after : List Char}
    (hbefore : separator ∉ before) (hafter : separator ∉ after) :
    splitChars separator (before ++ separator :: after) = [before, after] := by
  rw [splitChars_append_cons, splitChars_of_not_mem hbefore, splitChars_of_not_mem hafter]
  rfl

/-- There is no cut at a separator that does not occur. -/
theorem splitFirst?_eq_none_iff {separator : Char} {cs : List Char} :
    splitFirst? separator cs = none ↔ separator ∉ cs := by
  induction cs with
  | nil => simp [splitFirst?]
  | cons c rest ih =>
    by_cases hc : c = separator
    · simp [splitFirst?, hc]
    · rw [splitFirst?, if_neg hc, Option.map_eq_none_iff, ih, List.mem_cons, not_or]
      exact (and_iff_right (Ne.symm hc)).symm

/-- What stands before and after the first separator. -/
theorem splitFirst?_eq_some_iff {separator : Char} {cs before after : List Char} :
    splitFirst? separator cs = some (before, after) ↔
      cs = before ++ separator :: after ∧ separator ∉ before := by
  induction cs generalizing before with
  | nil => simp [splitFirst?]
  | cons c rest ih =>
    by_cases hc : c = separator
    · rw [splitFirst?, if_pos hc, Option.some_inj, Prod.mk.injEq]
      constructor
      · rintro ⟨rfl, rfl⟩
        exact ⟨by rw [hc, List.nil_append], List.not_mem_nil⟩
      · rintro ⟨hcs, hbefore⟩
        cases before with
        | nil => exact ⟨rfl, (List.cons.inj hcs).2⟩
        | cons first before =>
          obtain ⟨rfl, _⟩ := List.cons.inj hcs
          exact absurd (hc ▸ List.mem_cons_self) hbefore
    · rw [splitFirst?, if_neg hc, Option.map_eq_some_iff]
      constructor
      · rintro ⟨⟨start, last⟩, hsplit, heq⟩
        cases heq
        obtain ⟨rfl, hstart⟩ := ih.1 hsplit
        exact ⟨rfl, List.not_mem_cons_of_ne_of_not_mem (Ne.symm hc) hstart⟩
      · rintro ⟨hcs, hbefore⟩
        cases before with
        | nil => exact absurd (List.cons.inj hcs).1 hc
        | cons first before =>
          obtain ⟨rfl, hrest⟩ := List.cons.inj hcs
          exact ⟨(before, after), ih.2 ⟨hrest, List.not_mem_of_not_mem_cons hbefore⟩, rfl⟩

/-! ## Texts within texts -/

/-- The characters of a list stand together in another exactly if it is an infix. -/
theorem containsAt_iff {part cs : List Char} : containsAt part cs = true ↔ part <:+: cs := by
  induction cs with
  | nil => rw [containsAt, List.isEmpty_iff, List.infix_nil]
  | cons c rest ih =>
    rw [containsAt, Bool.or_eq_true, List.isPrefixOf_iff_prefix, ih, List.infix_cons_iff]

/-- A text occurs in another exactly if its characters stand together there. -/
theorem occursIn_iff {part text : String} : occursIn part text = true ↔ part.toList <:+: text.toList :=
  containsAt_iff

/-- A text begins with another exactly if its characters stand in front. -/
theorem beginsWith_iff {text start : String} :
    beginsWith text start = true ↔ start.toList <+: text.toList := by
  rw [beginsWith, List.isPrefixOf_iff_prefix]

end NatGateway.Text
