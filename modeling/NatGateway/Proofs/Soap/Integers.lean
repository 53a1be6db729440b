import Mathlib.Algebra.Ring.Int.Defs
import NatGateway.Proofs.Soap.Schema
import NatGateway.Proofs.Text.Integer

/-!
# Integers as arguments

Which texts are read as an integer argument, and as which integer. White space at the ends of a text is
passed over, and nothing but white space is read as zero. Any other text needs digits, perhaps behind a
sign, and the number that they stand for has to lie in the range of the type. This number is what is
read: it never wraps around, and no digit of it is lost. So an integer is read back from its own text,
whatever white space stands around it.
-/

namespace NatGateway.Text.IntegerType

/-- The range of a type is that of its bits, one of which is for the sign if it has one. -/
theorem holds_iff (type : IntegerType) (n : Int) :
    type.Holds n ↔
      if type.signed = true then -2 ^ (type.bits - 1) ≤ n ∧ n < 2 ^ (type.bits - 1)
      else 0 ≤ n ∧ n < 2 ^ type.bits := by
  have hpower : ∀ bits : Nat, ((2 ^ bits : Nat) : Int) = 2 ^ bits ∧ 1 ≤ 2 ^ bits := fun bits =>
    ⟨by push_cast; rfl, Nat.one_le_two_pow⟩
  unfold Holds top depth
  simp only [Nat.pow_eq]
  split
  · have hhalf := hpower (type.bits - 1)
    omega
  · have hwhole := hpower type.bits
    omega

end NatGateway.Text.IntegerType

namespace NatGateway.Soap

open NatGateway.Text (IntegerType StandsFor isBlankText trimmed)

namespace ValueType

variable {type : IntegerType}

/-- An integer is read of what is left of a text without the white space at its ends. -/
theorem read_integer_eq_ok_iff {text : String} {value : Value} :
    (ValueType.integer type).read text = .ok value ↔
      ∃ n, value = .integer n ∧
        (trimmed text.toList = [] ∧ n = 0 ∨
          StandsFor type.signed (trimmed text.toList) n ∧ type.Holds n) := by
  simp only [read]
  cases hleft : trimmed text.toList with
  | nil =>
    have hnothing : ∀ n, ¬ StandsFor type.signed [] n := fun n h => by
      cases h with
      | plain hdigits => exact hdigits.1 rfl
    simp [hnothing, eq_comm]
  | cons c rest =>
    simp only [List.isEmpty_cons, Bool.false_eq_true, if_false, reduceCtorEq, false_and, false_or,
      ← IntegerType.read_eq_ok_iff]
    cases type.read (c :: rest) with
    | ok n => simp [eq_comm]
    | error cause => simp

/-- Texts with the same characters between the white space at their ends are read alike. -/
theorem read_integer_congr {text other : String}
    (h : trimmed text.toList = trimmed other.toList) :
    (ValueType.integer type).read text = (ValueType.integer type).read other := by
  simp only [read, h]

/-- White space around a text does not matter. -/
theorem read_integer_surrounded {before after : String} (hbefore : isBlankText before = true)
    (hafter : isBlankText after = true) (text : String) :
    (ValueType.integer type).read (before ++ text ++ after) =
      (ValueType.integer type).read text := by
  apply read_integer_congr
  rw [String.toList_append, String.toList_append,
    Text.trimmed_append_of_blank (List.all_eq_true.1 hafter),
    Text.trimmed_blank_append (List.all_eq_true.1 hbefore)]

/-- The texts that are read as an integer of a type, and what each of them is read as: zero if there is
nothing but white space, and otherwise the number that stands between the white space, in decimal and
with a sign or none, if it lies in the range of the type. What is written for a number is read as this
number, with any white space around it. -/
theorem read_integer (type : IntegerType) :
    (∀ (text : String) (value : Value),
      (ValueType.integer type).read text = .ok value ↔
        ∃ n, value = .integer n ∧
          (trimmed text.toList = [] ∧ n = 0 ∨
            StandsFor type.signed (trimmed text.toList) n ∧
              if type.signed = true then -2 ^ (type.bits - 1) ≤ n ∧ n < 2 ^ (type.bits - 1)
              else 0 ≤ n ∧ n < 2 ^ type.bits)) ∧
    ∀ n : Int, type.Holds n → ∀ before after : String,
      isBlankText before = true → isBlankText after = true →
        (ValueType.integer type).read (before ++ (Value.integer n).written ++ after) =
          .ok (.integer n) := by
  constructor
  · intro text value
    simp only [read_integer_eq_ok_iff, IntegerType.holds_iff]
  · intro n hn before after hbefore hafter
    rw [read_integer_surrounded hbefore hafter]
    exact read_written hn

/-- The least number of 32 bits: it is read with zeros in front of its digits, and between white space
that is not of ASCII. One less is not read at all. -/
theorem read_integer_least :
    (ValueType.integer .i32).read " -002147483648\n" = .ok (.integer (-2147483648)) ∧
      (∀ value, (ValueType.integer .i32).read "-2147483649" ≠ .ok value) ∧
      (ValueType.integer .i32).read ("\u00a0" ++ (Value.integer (-2147483648)).written ++ "\u2003") =
        .ok (.integer (-2147483648)) := by
  obtain ⟨hread, hwritten⟩ := read_integer .i32
  refine ⟨(hread _ _).2 ⟨_, rfl, Or.inr ⟨?_, by decide⟩⟩, fun value h => ?_,
    hwritten _ (by decide) _ _ (by decide) (by decide)⟩
  · have hdigits : trimmed " -002147483648\n".toList = '-' :: "002147483648".toList := by decide
    rw [hdigits]
    exact .minus rfl ⟨by decide, List.all_eq_true.1 (by decide)⟩
  · obtain ⟨n, -, ⟨hblank, -⟩ | ⟨hstands, hrange⟩⟩ := (hread _ _).1 h
    · revert hblank
      decide
    · have hdigits : trimmed "-2147483649".toList = '-' :: "2147483649".toList := by decide
      rw [hdigits, Text.standsFor_minus_iff] at hstands
      obtain ⟨-, -, rfl⟩ := hstands
      revert hrange
      decide

end ValueType

end NatGateway.Soap
