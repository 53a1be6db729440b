import Mathlib.Data.List.DropRight
import NatGateway.Proofs.Text.Cut
import NatGateway.Text.Blank

/-!
# Trimmed texts

Which characters are left of a text without the blank ones at its ends. What stands in front of a
character that is not blank loses only blank characters at its start, and what stands behind it only
those at its end.
-/

namespace NatGateway.Text

variable {cs before after : List Char} {c : Char}

/-! ## Nothing left -/

/-- Nothing but blank characters is left of a text behind its first ones that are blank exactly if the
whole text is blank. -/
theorem forall_mem_trimStart_iff (cs : List Char) :
    (∀ c ∈ trimStart cs, isBlank c = true) ↔ ∀ c ∈ cs, isBlank c = true := by
  induction cs with
  | nil => rfl
  | cons c rest ih =>
    rw [trimStart] at ih ⊢
    cases hc : isBlank c with
    | true =>
      rw [List.dropWhile_cons_of_pos hc, ih, List.forall_mem_cons]
      exact ⟨fun hrest => ⟨hc, hrest⟩, And.right⟩
    | false => rw [List.dropWhile_cons_of_neg (Bool.eq_false_iff.1 hc)]

/-- Nothing is left without the blank characters at the ends exactly if all are blank. -/
theorem trimmed_eq_nil_iff : trimmed cs = [] ↔ ∀ c ∈ cs, isBlank c = true := by
  rw [trimmed, trimEnd, List.reverse_eq_nil_iff, List.dropWhile_eq_nil_iff,
    ← forall_mem_trimStart_iff cs]
  exact forall_congr' fun c => imp_congr_left List.mem_reverse

/-- Nothing is left of a text exactly if it is blank. -/
theorem trim_isEmpty (text : String) : (trim text).isEmpty = isBlankText text := by
  rw [Bool.eq_iff_iff, String.isEmpty_iff, ← String.toList_eq_nil_iff, trim, String.toList_ofList,
    trimmed_eq_nil_iff, isBlankText, List.all_eq_true]

/-- A text without the blank characters at its ends is empty exactly if the whole text is blank. -/
theorem trim_eq_empty_iff (text : String) : trim text = "" ↔ isBlankText text = true := by
  rw [← trim_isEmpty, String.isEmpty_iff]

/-- A text without blank characters has none to trim. -/
theorem trimmed_of_forall {cs : List Char} (h : ∀ c ∈ cs, isBlank c = false) : trimmed cs = cs := by
  have hstart : ∀ {ds : List Char}, (∀ c ∈ ds, isBlank c = false) → ds.dropWhile isBlank = ds := by
    intro ds hds
    cases ds with
    | nil => rfl
    | cons c rest => exact List.dropWhile_cons_of_neg (by simp [hds c List.mem_cons_self])
  have hend : ∀ c ∈ cs.reverse, isBlank c = false := fun c hc => h c (List.mem_reverse.1 hc)
  rw [trimmed, trimStart, hstart h, trimEnd, hstart hend, List.reverse_reverse]

/-- What is left of a text does not start with a blank character. -/
theorem isBlank_of_trimmed (h : trimmed cs = c :: after) : isBlank c = false := by
  have hstart : trimmed cs <+: trimStart cs := List.rdropWhile_prefix isBlank (trimStart cs)
  rw [h] at hstart
  obtain ⟨rest, hrest⟩ := hstart
  have hhead := List.head?_dropWhile_not isBlank cs
  rw [trimStart] at hrest
  rwa [← hrest] at hhead

/-! ## Around a character that is not blank -/

/-- What is trimmed stands outside of every character that is not blank. -/
theorem trimmed_append_cons (hc : isBlank c = false) :
    trimmed (before ++ c :: after) = trimStart before ++ c :: trimEnd after := by
  rw [trimmed, trimStart, dropWhile_append_cons hc, trimEnd, dropEnd_append_cons hc]
  rfl

/-- A text is trimmed as well when its start is trimmed already. -/
theorem trimmed_trimStart (cs : List Char) : trimmed (trimStart cs) = trimmed cs := by
  rw [trimmed, trimmed, trimStart, trimStart, List.dropWhile_idempotent]

/-- A text is trimmed as well when its end is trimmed already. -/
theorem trimmed_trimEnd (cs : List Char) : trimmed (trimEnd cs) = trimmed cs := by
  by_cases hblank : ∀ c ∈ cs, isBlank c = true
  · have hend : trimEnd cs = [] := List.rdropWhile_eq_nil_iff.2 hblank
    rw [hend, trimmed_eq_nil_iff.2 hblank]
    rfl
  · obtain ⟨c, hmem, hc⟩ : ∃ c ∈ cs, isBlank c = false := by simpa using hblank
    obtain ⟨before, after, rfl⟩ := List.append_of_mem hmem
    have hend : trimEnd (before ++ c :: after) = before ++ c :: trimEnd after :=
      dropEnd_append_cons hc before after
    have htwice : trimEnd (trimEnd after) = trimEnd after := List.rdropWhile_idempotent ..
    rw [hend, trimmed_append_cons hc, trimmed_append_cons hc, htwice]

/-- There is nothing to trim of what is trimmed. -/
theorem trimmed_trimmed (cs : List Char) : trimmed (trimmed cs) = trimmed cs :=
  (trimmed_trimEnd (trimStart cs)).trans (trimmed_trimStart cs)

/-- Blank characters behind a text are trimmed. -/
theorem trimmed_append_of_blank {blank : List Char} (h : ∀ c ∈ blank, isBlank c = true) :
    trimmed (cs ++ blank) = trimmed cs := by
  have hend : trimEnd (cs ++ blank) = trimEnd cs := by
    have hall : ∀ c ∈ blank.reverse, isBlank c = true := fun c hc => h c (List.mem_reverse.1 hc)
    rw [trimEnd, trimEnd, List.reverse_append, List.dropWhile_append_of_pos hall]
  rw [← trimmed_trimEnd, hend, trimmed_trimEnd]

/-- Blank characters in front of a text are trimmed. -/
theorem trimmed_blank_append {blank : List Char} (h : ∀ c ∈ blank, isBlank c = true) :
    trimmed (blank ++ cs) = trimmed cs := by
  have hstart : trimStart (blank ++ cs) = trimStart cs := List.dropWhile_append_of_pos h
  rw [← trimmed_trimStart, hstart, trimmed_trimStart]

/-- Only characters of a text are left of it. -/
theorem trimmed_subset (cs : List Char) : trimmed cs ⊆ cs := by
  have hend : trimmed cs <+: trimStart cs := List.rdropWhile_prefix isBlank (trimStart cs)
  exact (hend.sublist.trans (List.dropWhile_suffix isBlank).sublist).subset

/-- A character stays in a text without the white space at its ends if there is more than white space on
both of its sides. -/
theorem mem_trimmed_append_cons (hbefore : ∃ d ∈ before, isBlank d = false)
    (hafter : ∃ d ∈ after, isBlank d = false) : c ∈ trimmed (before ++ c :: after) := by
  obtain ⟨first, hfirst, hstart⟩ := hbefore
  obtain ⟨last, hlast, hend⟩ := hafter
  obtain ⟨outer, inner, rfl⟩ := List.append_of_mem hfirst
  obtain ⟨inner', outer', rfl⟩ := List.append_of_mem hlast
  have hkept : trimEnd ((inner ++ c :: inner') ++ last :: outer') =
      (inner ++ c :: inner') ++ last :: trimEnd outer' := dropEnd_append_cons hend _ _
  have hall : outer ++ first :: inner ++ c :: (inner' ++ last :: outer') =
      outer ++ first :: ((inner ++ c :: inner') ++ last :: outer') := by simp
  rw [hall, trimmed_append_cons hstart, hkept]
  simp

/-- If a text without the white space at its ends is what stands in front of some character, and that
character does not occur there, nothing but white space stands behind it. -/
theorem forall_isBlank_of_trimmed_eq (hc : c ∉ before)
    (h : trimmed before = trimmed (before ++ c :: after)) : ∀ d ∈ after, isBlank d = true := by
  by_contra hafter
  simp only [not_forall, Bool.not_eq_true, exists_prop] at hafter
  by_cases hbefore : ∀ d ∈ before, isBlank d = true
  · rw [trimmed_eq_nil_iff.2 hbefore] at h
    obtain ⟨d, hd, hdark⟩ := hafter
    have hblank := trimmed_eq_nil_iff.1 h.symm d (by simp [hd])
    rw [hdark] at hblank
    cases hblank
  · simp only [not_forall, Bool.not_eq_true, exists_prop] at hbefore
    exact hc (trimmed_subset before (h ▸ mem_trimmed_append_cons hbefore hafter))

/-- A text is cut at a separator that is not blank, whether it was trimmed or not. -/
theorem splitFirst?_trimmed (hc : isBlank c = false) (cs : List Char) :
    splitFirst? c (trimmed cs) =
      (splitFirst? c cs).map fun (before, after) => (trimStart before, trimEnd after) := by
  by_cases hmem : c ∈ cs
  · obtain ⟨before, after, rfl, hbefore⟩ := List.eq_append_cons_of_mem hmem
    have hstart : c ∉ trimStart before :=
      fun hstart => hbefore ((List.dropWhile_suffix isBlank).subset hstart)
    rw [trimmed_append_cons hc, splitFirst?_eq_some_iff.2 ⟨rfl, hbefore⟩,
      splitFirst?_eq_some_iff.2 ⟨rfl, hstart⟩]
    rfl
  · rw [splitFirst?_eq_none_iff.2 hmem, splitFirst?_eq_none_iff.2 (mt (@trimmed_subset cs c) hmem)]
    rfl

end NatGateway.Text
