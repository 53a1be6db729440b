import NatGateway.Configuration.Reading
import NatGateway.Proofs.Text.Integer
import NatGateway.Proofs.Yaml.Value

/-!
# Numbers and texts in a document

What is read at a path of a document, whatever stands there. The number that a value denotes is read, and
where nothing is denoted the default is. It makes no difference then whether a value of another kind, a
number out of range, a text that is no number or nothing at all is found.
-/

namespace NatGateway.Configuration

open NatGateway.Yaml (Value)

/-- Which numbers are denoted by which values: those of 64 bits without a sign, by themselves and by the
texts that stand for them between blank characters. -/
inductive Denotes : Value → Nat → Prop
  | number {n : Nat} (h : n < Nat.pow 2 64) : Denotes (.number (.integer n)) n
  | text {text : String} {n : Nat} (h : n < Nat.pow 2 64)
      (hstands : Text.StandsFor false (Text.trim text).toList n) : Denotes (.string text) n

variable {document given : Value} {path : List String} {default n : Nat}

/-- A number of 64 bits is denoted. -/
theorem Denotes.lt (h : Denotes given n) : n < Nat.pow 2 64 := by
  cases h <;> assumption

/-- An integer is held by the type of 64 bits without a sign exactly if it is a number below the limit. -/
theorem holds_u64_iff {value : Int} :
    Text.IntegerType.u64.Holds value ↔ ∃ n : Nat, value = n ∧ n < Nat.pow 2 64 := by
  constructor
  · rintro ⟨hleast, hmost⟩
    obtain ⟨n, rfl⟩ := Int.eq_ofNat_of_zero_le (show 0 ≤ value from hleast)
    exact ⟨n, rfl, Nat.lt_of_le_pred (by decide) (Int.ofNat_le.1 hmost)⟩
  · rintro ⟨n, rfl, hn⟩
    exact ⟨Int.natCast_nonneg n, Int.ofNat_le.2 (Nat.le_sub_one_of_lt hn)⟩

/-- A number that is denoted is read. -/
theorem readUnsigned_of_denotes (hfind : find document path = .ok given) (h : Denotes given n) :
    (readUnsigned document path default).1 = n := by
  rw [readUnsigned, hfind]
  cases h with
  | number h =>
    have hholds : Text.IntegerType.u64.Holds (n : Int) := holds_u64_iff.2 ⟨n, rfl, h⟩
    simp only [Yaml.Number.unsigned?, if_pos hholds, Int.toNat_natCast]
  | @text text _ h hstands =>
    rw [Text.trim, String.toList_ofList] at hstands
    have hread := (@Text.IntegerType.read_eq_ok_iff _ .u64 _).2 ⟨hstands, holds_u64_iff.2 ⟨n, rfl, h⟩⟩
    simp only [hread, Int.toNat_natCast]

/-- Where no number is denoted the default is read. -/
theorem readUnsigned_of_not_denotes (h : ∀ given n, find document path = .ok given → ¬ Denotes given n) :
    (readUnsigned document path default).1 = default := by
  rw [readUnsigned]
  split
  · next number hfind =>
    split
    · next value hvalue =>
      cases number with
      | integer integer =>
        rw [Yaml.Number.unsigned?] at hvalue
        split at hvalue
        · next hholds =>
          obtain ⟨n, rfl, hn⟩ := holds_u64_iff.1 hholds
          exact absurd (.number hn) (h _ n hfind)
        · cases hvalue
      | float float => cases hvalue
    · rfl
  · next text hfind =>
    split
    · next value hvalue =>
      obtain ⟨hstands, hholds⟩ := Text.IntegerType.read_eq_ok_iff.1 hvalue
      obtain ⟨n, rfl, hn⟩ := holds_u64_iff.1 hholds
      refine absurd (.text hn ?_) (h _ n hfind)
      rw [Text.trim, String.toList_ofList]
      exact hstands
    · rfl
  · rfl

/-- A text is read that is not empty, if the default is not. -/
theorem readText_ne_empty {usual : String} (h : usual ≠ "") : readText document path usual ≠ "" := by
  rw [readText]
  split
  · split
    · exact h
    · next htext => exact fun hempty => htext (String.isEmpty_iff.2 hempty)
  · next number _ => exact number.text_ne_empty
  · exact h

end NatGateway.Configuration
