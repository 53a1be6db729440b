import NatGateway.Text.LowerCase

/-!
# Lower case is reached at once

A text in lower case stays as it is when it is lowered again. The lower form of a character is none
that has a lower form of its own, which is read off the table of capitals: the lower forms of a run
of capitals lie outside every run, or between the capitals of a run that takes every second code
point. The capital sigma has no place in a lowered text either, so that it does not matter any more
where words end.
-/

namespace NatGateway.Text

/-- A character that is its own lower form wherever it stands. -/
structure IsLower (c : Char) : Prop where
  ne_sigma : c ≠ '\u03A3'
  lowerChar : lowerChar c = [c]

namespace CaseRun

/-- Whether a code point is one of the capitals of a run. -/
def covers (run : CaseRun) (n : Nat) : Bool :=
  run.first ≤ n && n ≤ run.last && (n - run.first) % run.step == 0

/-- The first lower form of a run. -/
def low (run : CaseRun) : Nat := (run.first + run.shift).toNat

/-- The last lower form of a run. -/
def high (run : CaseRun) : Nat := (run.last + run.shift).toNat

/-- Whether the lower forms of a run are visibly no capitals of another: they lie outside of it, or
between its capitals. -/
def avoids (run other : CaseRun) : Bool :=
  run.high.blt other.first || other.last.blt run.low ||
    (other.step == 2 && (run.step == 2 || run.first == run.last) &&
      (run.low + other.first) % 2 == 1)

/-- Whether the lower forms of a run are visibly characters with no other lower form. -/
def lowersOnce (run : CaseRun) : Bool :=
  0 ≤ run.first + run.shift && 0x5A < run.low && (run.high < 0x130 || 0x130 < run.low) &&
    (run.high < 0x3A3 || 0x3A3 < run.low) &&
    (run.high < 0xD800 || (0xDFFF < run.low && run.high < 0x110000)) &&
    caseRuns.toList.all run.avoids

/-- All runs of the table lower once. -/
theorem lowersOnce_of_mem {run : CaseRun} (h : run ∈ caseRuns) : run.lowersOnce = true := by
  have hall : caseRuns.toList.all lowersOnce = true := by decide +kernel
  exact List.all_eq_true.1 hall run h.val

variable {run other : CaseRun} {n : Nat}

/-- The capitals of a run lie within its bounds. -/
theorem bounds_of_covers (h : run.covers n = true) : run.first ≤ n ∧ n ≤ run.last := by
  simp only [covers, Bool.and_eq_true, decide_eq_true_eq] at h
  exact h.1

/-- A run that avoids another has no lower form that is one of the other's capitals. -/
theorem not_covers_of_avoids (havoids : run.avoids other = true)
    (hstart : 0 ≤ run.first + run.shift) (hn : run.covers n = true) :
    other.covers (n + run.shift).toNat = false := by
  obtain ⟨hfirst, hlast⟩ := bounds_of_covers hn
  rw [Bool.eq_false_iff]
  intro hother
  obtain ⟨hlower, hupper⟩ := bounds_of_covers hother
  simp only [avoids, Bool.or_eq_true, Bool.and_eq_true, Nat.blt_eq, beq_iff_eq] at havoids
  unfold low high at havoids
  rcases havoids with (hbelow | habove) | ⟨⟨hstep, hevery⟩, hodd⟩
  · omega
  · omega
  · -- Both go in steps of two, one over the odd code points and one over the even ones.
    simp only [covers, hstep, Bool.and_eq_true, beq_iff_eq] at hother
    have heven : (n - run.first) % 2 = 0 := by
      rcases hevery with hstep | hsingle
      · simp only [covers, hstep, Bool.and_eq_true, beq_iff_eq] at hn
        exact hn.2
      · omega
    omega

end CaseRun

/-- ASCII letters that are no capitals, and all other characters of ASCII, are their own lower
forms. -/
theorem toLower_of_not_capital {c : Char} (h : c.toNat < 0x41 ∨ 0x5A < c.toNat) : c.toLower = c := by
  refine dif_neg fun hcapital => ?_
  have hlow : 0x41 ≤ c.toNat := UInt32.le_iff_toNat_le.1 hcapital.1
  have hhigh : c.toNat ≤ 0x5A := UInt32.le_iff_toNat_le.1 hcapital.2
  omega

/-- A character that no run covers is its own lower form. -/
theorem lowerChar_of_not_covers {c : Char} (hascii : c.toNat < 0x41 ∨ 0x5A < c.toNat)
    (hdotted : c.toNat ≠ 0x130) (h : ∀ run ∈ caseRuns, run.covers c.toNat = false) :
    lowerChar c = [c] := by
  have hnone : caseRuns.find? (fun run => run.covers c.toNat) = none :=
    Array.find?_eq_none.2 fun run hrun => by simp [h run hrun]
  change caseRuns.find? (fun run => run.first ≤ c.toNat && c.toNat ≤ run.last &&
    (c.toNat - run.first) % run.step == 0) = none at hnone
  rw [lowerChar, if_neg hdotted]
  split
  · rw [toLower_of_not_capital hascii]
  · rw [hnone]

/-- The characters that stand apart from the table as lower forms: the dot above, which is left of
the dotted capital I, and the two lower forms of the capital sigma. -/
def apart : List Char := ['\u0307', '\u03C2', '\u03C3']

/-- A lower form that stands apart from the table is its own lower form. -/
theorem isLower_of_mem_apart {c : Char} (h : c ∈ apart) : IsLower c := by
  have hruns : caseRuns.toList.all (fun run => apart.all fun d => !run.covers d.toNat) = true := by
    decide +kernel
  have hcodes : ∀ d ∈ apart, d ≠ '\u03A3' ∧ 0x5A < d.toNat ∧ d.toNat ≠ 0x130 := by
    simp [apart]
  obtain ⟨hsigma, hascii, hdotted⟩ := hcodes c h
  refine ⟨hsigma, lowerChar_of_not_covers (Or.inr hascii) hdotted fun run hrun => ?_⟩
  have hrun := List.all_eq_true.1 (List.all_eq_true.1 hruns run hrun.val) c h
  rwa [Bool.not_eq_true'] at hrun

/-- The lower form of a capital of the table is its own lower form. -/
theorem isLower_lowered {run : CaseRun} (hrun : run ∈ caseRuns) {n : Nat}
    (hn : run.covers n = true) : IsLower (Char.ofNat (n + run.shift).toNat) := by
  obtain ⟨hfirst, hlast⟩ := CaseRun.bounds_of_covers hn
  have honce := CaseRun.lowersOnce_of_mem hrun
  simp only [CaseRun.lowersOnce, Bool.and_eq_true, Bool.or_eq_true, decide_eq_true_eq] at honce
  obtain ⟨⟨⟨⟨⟨hstart, hascii⟩, hdotted⟩, hsigma⟩, hvalid⟩, havoids⟩ := honce
  unfold CaseRun.low at hascii hdotted hsigma hvalid
  unfold CaseRun.high at hdotted hsigma hvalid
  have htoNat : (Char.ofNat (n + run.shift).toNat).toNat = (n + run.shift).toNat := by
    rw [Char.ofNat, dif_pos]
    · rfl
    · rw [Nat.isValidChar]
      omega
  have hnot : ∀ other ∈ caseRuns, other.covers (n + run.shift).toNat = false := fun other hother =>
    CaseRun.not_covers_of_avoids (List.all_eq_true.1 havoids other hother.val) hstart hn
  refine ⟨fun heq => ?_, lowerChar_of_not_covers ?_ ?_ ?_⟩
  · have hcode : (n + run.shift).toNat = 0x3A3 := by
      rw [← htoNat, heq]
      rfl
    omega
  · omega
  · omega
  · rw [htoNat]
    exact hnot

/-- The lower form of a character other than the capital sigma consists of characters that are their
own lower forms. -/
theorem isLower_of_mem_lowerChar {c d : Char} (h : d ∈ lowerChar c) (hc : c ≠ '\u03A3') :
    IsLower d := by
  rw [lowerChar] at h
  split at h
  · next hascii =>
    have hall : ∀ n : Fin 0x80, (Char.ofNat n).toLower ≠ '\u03A3' ∧
        lowerChar (Char.ofNat n).toLower = [(Char.ofNat n).toLower] := by decide +kernel
    have hd := hall ⟨c.toNat, hascii⟩
    rw [Char.ofNat_toNat, ← List.mem_singleton.1 h] at hd
    exact ⟨hd.1, hd.2⟩
  · split at h
    · rcases List.mem_cons.1 h with rfl | hdot
      · exact ⟨by decide, rfl⟩
      · rw [List.mem_singleton.1 hdot]
        exact isLower_of_mem_apart List.mem_cons_self
    · next hdotted =>
      split at h
      · next run hrun =>
        rw [List.mem_singleton] at h
        subst h
        have hmem := Array.mem_of_find?_eq_some hrun
        have hcovers := Array.find?_some hrun
        exact isLower_lowered hmem hcovers
      · next hnone =>
        rw [List.mem_singleton] at h
        subst h
        refine ⟨hc, lowerChar_of_not_covers (Or.inr (by omega)) hdotted fun run hrun => ?_⟩
        exact Bool.eq_false_iff.2 (Array.find?_eq_none.1 hnone run hrun)

/-- All characters of a lowered text are their own lower forms. -/
theorem isLower_of_mem_lowerAfter {before cs : List Char} {c : Char} (h : c ∈ lowerAfter before cs) :
    IsLower c := by
  induction cs generalizing before with
  | nil => cases h
  | cons first rest ih =>
    rw [lowerAfter, List.mem_append] at h
    rcases h with h | h
    · split at h
      · -- The two lower forms of the capital sigma.
        refine isLower_of_mem_apart (List.mem_cons_of_mem _ ?_)
        split at h
        · rw [List.mem_singleton.1 h]
          exact List.mem_cons_self
        · exact List.mem_cons_of_mem _ h
      · next hfirst => exact isLower_of_mem_lowerChar h hfirst
    · exact ih h

/-- A text of characters that are their own lower forms stays as it is. -/
theorem lowerAfter_of_forall {before cs : List Char} (h : ∀ c ∈ cs, IsLower c) :
    lowerAfter before cs = cs := by
  induction cs generalizing before with
  | nil => rfl
  | cons first rest ih =>
    have hfirst := h first List.mem_cons_self
    rw [lowerAfter, if_neg hfirst.ne_sigma, hfirst.lowerChar,
      ih fun c hc => h c (List.mem_cons_of_mem _ hc)]
    rfl

/-- Lowering a text twice is lowering it once. -/
@[simp] theorem lower_lower (text : String) : lower (lower text) = lower text := by
  rw [lower, lower, String.toList_ofList, lowerAfter_of_forall]
  exact fun c hc => isLower_of_mem_lowerAfter hc

end NatGateway.Text
