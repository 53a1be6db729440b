import NatGateway.Net.Ipv4
import NatGateway.Proofs.Text.Cut
import NatGateway.Proofs.Text.Decimal

/-!
# Texts of IPv4 addresses

The dotted text of an address is four numbers with points between them. The numbers come back when
the text is cut at its points, and the address comes back from them.
-/

namespace NatGateway.Net.Ipv4

open NatGateway.Text (splitChars)

/-- The text of an address, by the digits of its octets. -/
theorem text_toList (address : Ipv4) :
    address.text.toList = ['.'].intercalate (address.octets.map (Nat.toDigits 10)) := by
  rw [text, String.toList_intercalate, List.map_map]
  congr 1
  exact List.map_congr_left fun octet _ => Text.decimal_natCast_toList octet

/-- The text of an address has the digits of its octets between its points. -/
theorem splitChars_text (address : Ipv4) :
    splitChars '.' address.text.toList = address.octets.map (Nat.toDigits 10) := by
  rw [text_toList]
  refine Text.splitChars_intercalate ?_ (by simp [octets])
  intro digits hdigits hpoint
  obtain ⟨octet, _, rfl⟩ := List.mem_map.1 hdigits
  have hdigit := Nat.isDigit_of_mem_toDigits (by decide) (by decide) hpoint
  revert hdigit
  decide

/-- The text of an address holds digits and points. -/
theorem mem_text {address : Ipv4} {c : Char} (h : c ∈ address.text.toList) :
    c = '.' ∨ c.isDigit = true := by
  rw [text_toList] at h
  obtain hpoint | ⟨digits, hdigits, hc⟩ := Text.mem_intercalate h
  · exact .inl hpoint
  · obtain ⟨octet, _, rfl⟩ := List.mem_map.1 hdigits
    exact .inr (Nat.isDigit_of_mem_toDigits (by decide) (by decide) hc)

/-- The octets of an address tell the address. -/
theorem octets_injective : Function.Injective octets := by
  intro address address' h
  simp only [octets, List.cons.injEq, and_true] at h
  obtain ⟨hfirst, hsecond, hthird, hfourth⟩ := h
  have hbits : address.bits.toNat = address'.bits.toNat := by omega
  cases address
  cases address'
  exact congrArg mk (UInt32.toNat_inj.1 hbits)

/-- The text of an address tells the address. -/
theorem text_injective : Function.Injective text := by
  intro address address' h
  have hsplit := splitChars_text address
  rw [h, splitChars_text] at hsplit
  exact octets_injective ((List.map_inj_right fun _ _ heq => Text.toDigits_ten_injective heq).1 hsplit).symm

end NatGateway.Net.Ipv4
