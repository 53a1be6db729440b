import Mathlib.Data.List.Basic
import NatGateway.Url.PercentEncoding

/-!
# Characters of encoded components

Which characters a component of a URL can hold once it is percent-encoded: those that it holds as
they are, the percent sign, and the digits behind it. So a component is free of every other
character, and it keeps its first character or begins with a percent sign.
-/

namespace NatGateway.Url

/-- A character that encoding writes: the percent sign or an upper-case digit. -/
def isEncodingChar (c : Char) : Bool :=
  c == '%' || c.isDigit || ('A'.toNat ≤ c.toNat && c.toNat ≤ 'F'.toNat)

/-- Digits are characters that encoding writes. -/
theorem isEncodingChar_hexDigit : ∀ n < 16, isEncodingChar (hexDigit n) = true := by
  decide

/-- A byte is written by such characters. -/
theorem isEncodingChar_of_mem_encodeByte {b : UInt8} {c : Char} (h : c ∈ encodeByte b) :
    isEncodingChar c = true := by
  have hb := b.toNat_lt
  rw [encodeByte, List.mem_cons, List.mem_cons, List.mem_singleton] at h
  rcases h with rfl | rfl | rfl
  · decide
  · exact isEncodingChar_hexDigit _ (by omega)
  · exact isEncodingChar_hexDigit _ (by omega)

variable {isEncoded : Char → Bool} {cs : List Char}

/-- The characters of an encoded component. -/
theorem mem_percentEncode {c : Char} (h : c ∈ (percentEncode isEncoded cs).toList) :
    (c ∈ cs ∧ isEncoded c = false) ∨ isEncodingChar c = true := by
  rw [percentEncode, String.toList_ofList] at h
  obtain ⟨d, hd, hc⟩ := List.mem_flatMap.1 h
  split at hc
  · obtain ⟨b, _, hb⟩ := List.mem_flatMap.1 hc
    exact .inr (isEncodingChar_of_mem_encodeByte hb)
  · next hplain =>
    rw [List.mem_singleton.1 hc]
    exact .inl ⟨hd, Bool.eq_false_iff.2 hplain⟩

/-- An encoded component is free of the marks that are encoded or were not there. -/
theorem disjoint_percentEncode {marks : List Char}
    (h : ∀ c ∈ marks, isEncodingChar c = false ∧ (isEncoded c = true ∨ c ∉ cs)) :
    marks.Disjoint (percentEncode isEncoded cs).toList := by
  intro c hc hmem
  obtain ⟨hencoding, hkept⟩ := h c hc
  obtain ⟨hthere, hplain⟩ | hencoding' := mem_percentEncode hmem
  · rcases hkept with hencoded | habsent
    · rw [hplain] at hencoded
      cases hencoded
    · exact habsent hthere
  · rw [hencoding] at hencoding'
    cases hencoding'

/-- Every character has a byte. -/
theorem charBytes_ne_nil (c : Char) : Text.charBytes c ≠ [] := by
  simp only [Text.charBytes]
  split
  · simp
  · split
    · simp
    · split <;> simp

/-- An encoded component begins with the first character, if that is kept, or with a percent sign. -/
theorem percentEncode_head (isEncoded : Char → Bool) (c : Char) (rest : List Char) :
    ∃ d after, (percentEncode isEncoded (c :: rest)).toList = d :: after ∧ (d = c ∨ d = '%') := by
  rw [percentEncode, String.toList_ofList, List.flatMap_cons]
  split
  · cases hbytes : Text.charBytes c with
    | nil => exact absurd hbytes (charBytes_ne_nil c)
    | cons b bytes =>
      rw [List.flatMap_cons, encodeByte]
      exact ⟨'%', _, rfl, .inr rfl⟩
  · exact ⟨c, _, rfl, .inl rfl⟩

end NatGateway.Url
