import NatGateway.Proofs.Result
import NatGateway.Proofs.Text.Decimal

/-!
# Texts of integers

Which texts are read as an integer of a type, and as which one: a sign or none and then digits, however
many, if the number that they stand for lies in the range of the type. Digits are read one after the
other and the range is watched at every step, which refuses no number that lies in it in the end.
-/

namespace NatGateway.Text

/-- Whether characters are digits, one at least. -/
def AreDigits (cs : List Char) : Prop := cs ≠ [] ∧ ∀ c ∈ cs, c.isDigit = true

/-- Whether characters stand for an integer: digits, perhaps behind a plus, or behind a minus if there
may be one. -/
inductive StandsFor (signed : Bool) : List Char → Int → Prop
  | plain {digits : List Char} (h : AreDigits digits) :
      StandsFor signed digits (Nat.ofDigitChars 10 digits 0)
  | plus {digits : List Char} (h : AreDigits digits) :
      StandsFor signed ('+' :: digits) (Nat.ofDigitChars 10 digits 0)
  | minus {digits : List Char} (hsigned : signed = true) (h : AreDigits digits) :
      StandsFor signed ('-' :: digits) (-(Nat.ofDigitChars 10 digits 0 : Int))

variable {limit : Nat} {overflow : IntegerError} {cs : List Char}

/-- Digits are read exactly if the number that they lead to stays under the limit. -/
theorem readMagnitude_eq_ok_iff {value n : Nat} (hvalue : value ≤ limit) :
    readMagnitude limit overflow value cs = .ok n ↔
      (∀ c ∈ cs, c.isDigit = true) ∧ n = Nat.ofDigitChars 10 cs value ∧ n ≤ limit := by
  constructor
  · intro h
    induction cs generalizing value with
    | nil =>
      rw [readMagnitude] at h
      cases h
      exact ⟨List.forall_mem_nil _, Nat.ofDigitChars_nil.symm, hvalue⟩
    | cons c rest ih =>
      rw [readMagnitude] at h
      split at h
      · next hc =>
        dsimp only at h
        split at h
        · next hnext =>
          obtain ⟨hrest, hn, hlimit⟩ := ih hnext h
          exact ⟨List.forall_mem_cons.2 ⟨hc, hrest⟩, by rw [Nat.ofDigitChars_cons]; exact hn, hlimit⟩
        · cases h
      · cases h
  · rintro ⟨hdigits, rfl, hlimit⟩
    exact readMagnitude_digits hdigits hlimit

/-- Digits are read if there are any and they stand for a number under the limit. -/
theorem readDigits_eq_ok_iff {n : Nat} :
    readDigits limit overflow cs = .ok n ↔
      AreDigits cs ∧ n = Nat.ofDigitChars 10 cs 0 ∧ n ≤ limit := by
  cases cs with
  | nil => simp [readDigits, AreDigits]
  | cons c rest =>
    rw [readDigits, readMagnitude_eq_ok_iff (Nat.zero_le limit), AreDigits]
    · simp
    · simp

/-- Behind a plus there are digits. -/
theorem standsFor_plus_iff {signed : Bool} {digits : List Char} {value : Int} :
    StandsFor signed ('+' :: digits) value ↔
      AreDigits digits ∧ value = Nat.ofDigitChars 10 digits 0 := by
  constructor
  · intro h
    cases h with
    | plain h => exact absurd (h.2 '+' List.mem_cons_self) (by decide)
    | plus h => exact ⟨h, rfl⟩
  · rintro ⟨h, rfl⟩
    exact .plus h

/-- Behind a minus there are digits, and the minus must be one that may be there. -/
theorem standsFor_minus_iff {signed : Bool} {digits : List Char} {value : Int} :
    StandsFor signed ('-' :: digits) value ↔
      signed = true ∧ AreDigits digits ∧ value = -(Nat.ofDigitChars 10 digits 0 : Int) := by
  constructor
  · intro h
    cases h with
    | plain h => exact absurd (h.2 '-' List.mem_cons_self) (by decide)
    | minus hsigned h => exact ⟨hsigned, h, rfl⟩
  · rintro ⟨hsigned, h, rfl⟩
    exact .minus hsigned h

/-- Without a sign there are only digits. -/
theorem standsFor_plain_iff {signed : Bool} {value : Int} (hplus : ∀ digits, cs ≠ '+' :: digits)
    (hminus : ∀ digits, cs ≠ '-' :: digits) :
    StandsFor signed cs value ↔ AreDigits cs ∧ value = Nat.ofDigitChars 10 cs 0 := by
  constructor
  · intro h
    cases h with
    | plain h => exact ⟨h, rfl⟩
    | plus h => exact absurd rfl (hplus _)
    | minus hsigned h => exact absurd rfl (hminus _)
  · rintro ⟨h, rfl⟩
    exact .plain h

/-- Without a minus only numbers that are not negative are stood for. -/
theorem StandsFor.nonneg {value : Int} (h : StandsFor false cs value) : 0 ≤ value := by
  cases h with
  | plain _ => exact Int.natCast_nonneg _
  | plus _ => exact Int.natCast_nonneg _
  | minus hsigned _ => cases hsigned

namespace IntegerType

variable {type : IntegerType} {digits : List Char} {value : Int}

/-- Digits are read as a number that is not negative if the type reaches that far. -/
theorem map_readDigits_top_eq_ok_iff :
    ((readDigits type.top .tooLarge digits).map fun n => (n : Int)) = .ok value ↔
      (AreDigits digits ∧ value = Nat.ofDigitChars 10 digits 0) ∧ type.Holds value := by
  have hread : ((readDigits type.top .tooLarge digits).map fun n => (n : Int)) = .ok value ↔
      ∃ n : Nat, readDigits type.top .tooLarge digits = .ok n ∧ (n : Int) = value := by
    rw [← map_eq_ok_iff]
    cases readDigits type.top .tooLarge digits <;> rfl
  simp only [hread, readDigits_eq_ok_iff, Holds]
  constructor
  · rintro ⟨n, ⟨hdigits, rfl, hlimit⟩, rfl⟩
    exact ⟨⟨hdigits, rfl⟩, by omega, by omega⟩
  · rintro ⟨⟨hdigits, rfl⟩, _, hlimit⟩
    exact ⟨_, ⟨hdigits, rfl, by omega⟩, rfl⟩

/-- Digits are read as a number that is not positive if the type reaches that deep. -/
theorem map_readDigits_depth_eq_ok_iff :
    ((readDigits type.depth .tooSmall digits).map fun n => -(n : Int)) = .ok value ↔
      (AreDigits digits ∧ value = -(Nat.ofDigitChars 10 digits 0 : Int)) ∧ type.Holds value := by
  have hread : ((readDigits type.depth .tooSmall digits).map fun n => -(n : Int)) = .ok value ↔
      ∃ n : Nat, readDigits type.depth .tooSmall digits = .ok n ∧ -(n : Int) = value := by
    rw [← map_eq_ok_iff]
    cases readDigits type.depth .tooSmall digits <;> rfl
  simp only [hread, readDigits_eq_ok_iff, Holds]
  constructor
  · rintro ⟨n, ⟨hdigits, rfl, hlimit⟩, rfl⟩
    exact ⟨⟨hdigits, rfl⟩, by omega, by omega⟩
  · rintro ⟨⟨hdigits, rfl⟩, hlimit, _⟩
    exact ⟨_, ⟨hdigits, rfl, by omega⟩, rfl⟩

/-- A text is read as an integer of a type exactly if it stands for that integer and the type holds
it. -/
theorem read_eq_ok_iff :
    type.read cs = .ok value ↔ StandsFor type.signed cs value ∧ type.Holds value := by
  unfold read
  split
  · rw [standsFor_plain_iff (by simp) (by simp)]
    simp [AreDigits]
  · rw [map_readDigits_top_eq_ok_iff, standsFor_plus_iff]
  · rw [standsFor_minus_iff]
    split
    · next hsigned => rw [map_readDigits_depth_eq_ok_iff, and_iff_right hsigned]
    · next hsigned => simp [hsigned]
  · next hplus hminus => rw [map_readDigits_top_eq_ok_iff, standsFor_plain_iff hplus hminus]

end IntegerType

end NatGateway.Text
