import NatGateway.Text.Blank
import NatGateway.Text.Integer

/-!
# Decimal texts

An integer that is written in decimal is read back by every type that holds it. Digits are read from
the left and never lower the value, so no part of the text passes a limit that the whole stays under.
-/

namespace NatGateway.Text

/-- Reading on never lowers a value. -/
theorem le_ofDigitChars (cs : List Char) (value : Nat) : value ≤ Nat.ofDigitChars 10 cs value := by
  induction cs generalizing value with
  | nil => exact Nat.le_refl value
  | cons c rest ih =>
    have hrest := ih (10 * value + (c.toNat - '0'.toNat))
    rw [Nat.ofDigitChars_cons]
    omega

/-- Digits are read as the number they stand for, if it stays under the limit. -/
theorem readMagnitude_digits {limit : Nat} {overflow : IntegerError} {cs : List Char}
    (hdigits : ∀ c ∈ cs, c.isDigit = true) {value : Nat}
    (h : Nat.ofDigitChars 10 cs value ≤ limit) :
    readMagnitude limit overflow value cs = .ok (Nat.ofDigitChars 10 cs value) := by
  induction cs generalizing value with
  | nil => rw [readMagnitude, Nat.ofDigitChars_nil]
  | cons c rest ih =>
    obtain ⟨hc, hrest⟩ := List.forall_mem_cons.1 hdigits
    rw [Nat.ofDigitChars_cons] at h ⊢
    -- The value so far is below the whole, so it has not passed the limit either.
    have hnext := le_ofDigitChars rest (10 * value + (c.toNat - '0'.toNat))
    have hlimit : 10 * value + digitValue c ≤ limit := Nat.le_trans hnext h
    rw [readMagnitude, if_pos hc, if_pos hlimit]
    exact ih hrest h

/-- A number written in decimal is read back. -/
theorem readDigits_toDigits {limit n : Nat} (overflow : IntegerError) (h : n ≤ limit) :
    readDigits limit overflow (Nat.toDigits 10 n) = .ok n := by
  have hdigits : ∀ c ∈ Nat.toDigits 10 n, c.isDigit = true := fun c hc =>
    Nat.isDigit_of_mem_toDigits (by decide) (by decide) hc
  have hlimit : Nat.ofDigitChars 10 (Nat.toDigits 10 n) 0 ≤ limit := by
    rw [Nat.ofDigitChars_ten_toDigits]
    exact h
  have hread := @readMagnitude_digits limit overflow _ hdigits 0 hlimit
  rw [Nat.ofDigitChars_ten_toDigits] at hread
  rw [readDigits, hread]
  exact Nat.toDigits_ne_nil

/-- A decimal text is a sign and digits, or digits. -/
theorem decimal_toList (value : Int) : (decimal value).toList =
    if value < 0 then '-' :: Nat.toDigits 10 value.natAbs else Nat.toDigits 10 value.natAbs := by
  unfold decimal
  split
  · simp
  · simp

/-- A number that is not negative is written with digits only. -/
theorem decimal_natCast_toList (n : Nat) : (decimal n).toList = Nat.toDigits 10 n := by
  rw [decimal_toList, if_neg (by omega), Int.natAbs_natCast]

/-- A number is shown in decimal. -/
theorem toString_toList (n : Nat) : (toString n).toList = (decimal n).toList := by
  rw [decimal_natCast_toList]
  exact String.toList_ofList

/-- The digits of a number tell the number. -/
theorem toDigits_ten_injective : Function.Injective (Nat.toDigits 10) := by
  intro n m h
  rw [← Nat.ofDigitChars_ten_toDigits (n := n), h, Nat.ofDigitChars_ten_toDigits]

/-- The text of an integer is read back by a type that holds it. -/
theorem read_decimal {type : IntegerType} {value : Int} (h : type.Holds value) :
    type.read (decimal value).toList = .ok value := by
  obtain ⟨hlow, hhigh⟩ := h
  rw [decimal_toList]
  by_cases hneg : value < 0
  · have hdepth : value.natAbs ≤ type.depth := by omega
    have hsigned : type.signed = true := by
      cases hsigned : type.signed with
      | true => rfl
      | false =>
        rw [IntegerType.depth, hsigned] at hlow
        simp only [Bool.false_eq_true, if_false] at hlow
        omega
    have hvalue : -(value.natAbs : Int) = value := by omega
    rw [if_pos hneg, IntegerType.read, if_pos hsigned, readDigits_toDigits _ hdepth]
    exact congrArg Except.ok hvalue
  · have htop : value.natAbs ≤ type.top := by omega
    have hvalue : (value.natAbs : Int) = value := by omega
    have hread := readDigits_toDigits .tooLarge htop
    rw [if_neg hneg]
    cases hdigits : Nat.toDigits 10 value.natAbs with
    | nil => exact absurd hdigits Nat.toDigits_ne_nil
    | cons c rest =>
      have hc : c.isDigit = true :=
        Nat.isDigit_of_mem_toDigits (by decide) (by decide) (hdigits ▸ List.mem_cons_self)
      have hplus : c ≠ '+' := by rintro rfl; revert hc; decide
      have hminus : c ≠ '-' := by rintro rfl; revert hc; decide
      rw [hdigits] at hread
      rw [IntegerType.read, hread]
      · exact congrArg Except.ok hvalue
      · simp
      · simpa using hplus
      · simpa using hminus

/-- The characters of a decimal text. -/
theorem mem_decimal {value : Int} {c : Char} (h : c ∈ (decimal value).toList) :
    c = '-' ∨ 48 ≤ c.toNat ∧ c.toNat ≤ 57 := by
  have hdigit : c ∈ Nat.toDigits 10 value.natAbs → 48 ≤ c.toNat ∧ c.toNat ≤ 57 := fun hmem =>
    Char.isDigit_iff_toNat.1 (Nat.isDigit_of_mem_toDigits (by decide) (by decide) hmem)
  rw [decimal_toList] at h
  split at h
  · rcases List.mem_cons.1 h with hsign | hmem
    · exact Or.inl hsign
    · exact Or.inr (hdigit hmem)
  · exact Or.inr (hdigit h)

/-- A decimal text holds no blank characters. -/
theorem isBlank_of_mem_decimal {value : Int} {c : Char} (h : c ∈ (decimal value).toList) :
    isBlank c = false := by
  rcases mem_decimal h with rfl | hdigit
  · decide
  · simp only [isBlank, Bool.or_eq_false_iff, Bool.and_eq_false_iff, decide_eq_false_iff_not,
      beq_eq_false_iff_ne]
    omega

end NatGateway.Text
