import Mathlib.Algebra.Group.Nat.Defs
import NatGateway.Net.Ipv4
import NatGateway.Proofs.First

/-!
# Subnets

Which local address reaches a gateway. Interfaces are asked in their order, and the first one whose
subnet contains the gateway gives its address, whatever the masks are. The mask of a prefix length
compares leading bits, so a subnet under it is an interval: it goes from the address of the interface
with its low bits cleared to the same with them set, the two ends included. Masks whose set bits do not
all stand in front make no intervals, and of them only the first statement speaks.
-/

namespace NatGateway.Net

namespace Ipv4

/-- An address with some of its low bits cleared. -/
def lowBitsCleared (address : Ipv4) (count : Nat) : Ipv4 :=
  ⟨UInt32.ofNat (address.bits.toNat >>> count <<< count)⟩

/-- An address with some of its low bits set. -/
def lowBitsSet (address : Ipv4) (count : Nat) : Ipv4 :=
  ⟨UInt32.ofNat ((address.lowBitsCleared count).bits.toNat ||| 2 ^ count - 1)⟩

/-- Clearing low bits leaves the multiple of a power of two below an address. -/
theorem toNat_lowBitsCleared (address : Ipv4) (count : Nat) :
    (address.lowBitsCleared count).bits.toNat = address.bits.toNat / 2 ^ count * 2 ^ count := by
  have hle := Nat.div_mul_le_self address.bits.toNat (2 ^ count)
  rw [lowBitsCleared, Nat.shiftLeft_eq, Nat.shiftRight_eq_div_pow]
  exact UInt32.toNat_ofNat_of_lt' (Nat.lt_of_le_of_lt hle address.bits.toNat_lt)

/-- Setting low bits gives the last number before the next multiple of a power of two. -/
theorem toNat_lowBitsSet (address : Ipv4) {count : Nat} (h : count ≤ 32) :
    (address.lowBitsSet count).bits.toNat =
      address.bits.toNat / 2 ^ count * 2 ^ count + 2 ^ count - 1 := by
  have hpos : 0 < 2 ^ count := Nat.two_pow_pos count
  have hsplit : 2 ^ (32 - count) * 2 ^ count = 2 ^ 32 := by
    rw [← Nat.pow_add, Nat.sub_add_cancel h]
  have hquotient : address.bits.toNat / 2 ^ count < 2 ^ (32 - count) := by
    rw [Nat.div_lt_iff_lt_mul hpos, hsplit]
    exact address.bits.toNat_lt
  have hnext := Nat.mul_le_mul_right (2 ^ count) (Nat.succ_le_of_lt hquotient)
  rw [Nat.succ_mul, hsplit] at hnext
  have hor := Nat.shiftLeft_add_eq_or_of_lt (Nat.sub_lt hpos Nat.one_pos)
    (address.bits.toNat / 2 ^ count)
  rw [Nat.shiftLeft_eq] at hor
  rw [lowBitsSet, toNat_lowBitsCleared, ← hor, ← Nat.add_sub_assoc hpos]
  exact UInt32.toNat_ofNat_of_lt' (by rw [UInt32.size]; omega)

end Ipv4

/-- The mask of a prefix length: so many leading bits are set. Lengths above 32 set all bits. -/
def prefixMask (length : Nat) : Ipv4 := ⟨UInt32.ofNat (2 ^ 32 - 2 ^ (32 - length))⟩

/-- A bit of a mask is set if it is none of the low ones behind the prefix. -/
theorem testBit_prefixMask (length i : Nat) :
    (prefixMask length).bits.toNat.testBit i = (decide (i < 32) && decide (32 - length ≤ i)) := by
  have hpos : 0 < 2 ^ (32 - length) := Nat.two_pow_pos _
  have hle : 2 ^ (32 - length) ≤ 2 ^ 32 := Nat.pow_le_pow_right (by decide) (Nat.sub_le 32 length)
  have hbits : (prefixMask length).bits.toNat = 2 ^ 32 - ((2 ^ (32 - length) - 1) + 1) := by
    rw [Nat.sub_add_cancel hpos]
    exact UInt32.toNat_ofNat_of_lt' (by rw [UInt32.size]; omega)
  rw [hbits, Nat.testBit_two_pow_sub_succ (by omega), Nat.testBit_two_pow_sub_one]
  simp only [← decide_not, Nat.not_lt]

example : prefixMask 20 = .ofOctets 255 255 240 0 := by decide

/-- The bits of an address under a mask are the address with its low bits cleared. -/
theorem masked_eq_lowBitsCleared (address : Ipv4) (length : Nat) :
    address.bits &&& (prefixMask length).bits = (address.lowBitsCleared (32 - length)).bits := by
  rw [← UInt32.toNat_inj, UInt32.toNat_and, address.toNat_lowBitsCleared, ← Nat.shiftRight_eq_div_pow,
    ← Nat.shiftLeft_eq]
  refine Nat.eq_of_testBit_eq fun i => ?_
  rw [Nat.testBit_and, testBit_prefixMask, Nat.testBit_shiftLeft, Nat.testBit_shiftRight]
  by_cases hlow : 32 - length ≤ i
  · rw [Nat.add_sub_cancel' hlow]
    by_cases hi : i < 32
    · simp [hi, hlow]
    · -- No address has a bit there.
      have hnone : address.bits.toNat.testBit i = false :=
        Nat.testBit_lt_two_pow (Nat.lt_of_lt_of_le address.bits.toNat_lt
          (Nat.pow_le_pow_right (by decide) (Nat.not_lt.1 hi)))
      simp [hnone]
  · simp [hlow]

namespace Interface

/-- An interface whose subnet has a prefix of some length. -/
def ofPrefix (address : Ipv4) (length : Nat) : Interface := ⟨address, prefixMask length⟩

/-- Under one mask two addresses contain each other, or neither does. -/
theorem contains_comm (mask address other : Ipv4) :
    (⟨address, mask⟩ : Interface).contains other = (⟨other, mask⟩ : Interface).contains address :=
  Bool.beq_comm

variable {address other : Ipv4} {length : Nat}

/-- A subnet contains the addresses that have the same prefix. -/
theorem contains_ofPrefix_iff :
    (ofPrefix address length).contains other = true ↔
      other.bits.toNat / 2 ^ (32 - length) = address.bits.toNat / 2 ^ (32 - length) := by
  have hpos : 0 < 2 ^ (32 - length) := Nat.two_pow_pos _
  change (address.bits &&& (prefixMask length).bits == other.bits &&& (prefixMask length).bits) = true ↔ _
  rw [masked_eq_lowBitsCleared, masked_eq_lowBitsCleared, beq_iff_eq, ← UInt32.toNat_inj,
    Ipv4.toNat_lowBitsCleared, Ipv4.toNat_lowBitsCleared, Nat.mul_right_cancel_iff hpos, eq_comm]

/-- A subnet goes from its address with the low bits cleared to the same with them set. -/
theorem contains_ofPrefix_iff_between :
    (ofPrefix address length).contains other = true ↔
      (address.lowBitsCleared (32 - length)).bits ≤ other.bits ∧
        other.bits ≤ (address.lowBitsSet (32 - length)).bits := by
  rw [contains_ofPrefix_iff, Nat.div_eq_iff (Nat.two_pow_pos _), UInt32.le_iff_toNat_le,
    UInt32.le_iff_toNat_le, Ipv4.toNat_lowBitsCleared, Ipv4.toNat_lowBitsSet _ (Nat.sub_le 32 length)]

/-- A longer prefix makes a subnet no larger. -/
theorem contains_ofPrefix_of_le {longer : Nat} (h : length ≤ longer)
    (hcontains : (ofPrefix address longer).contains other = true) :
    (ofPrefix address length).contains other = true := by
  rw [contains_ofPrefix_iff] at hcontains ⊢
  have hsum : 32 - length = (32 - longer) + ((32 - length) - (32 - longer)) := by omega
  rw [hsum, Nat.pow_add, ← Nat.div_div_eq_div_mul, ← Nat.div_div_eq_div_mul, hcontains]

end Interface

/-! ## The address that reaches a gateway -/

variable {interfaces : List Interface} {gateway address : Ipv4}

/-- The address is that of the first interface that contains the gateway. -/
theorem localAddressFor_eq_some_iff :
    localAddressFor interfaces gateway = some address ↔
      ∃ interface, IsFirst (·.contains gateway = false) interfaces interface ∧
        interface.contains gateway = true ∧ interface.address = address := by
  simp only [localAddressFor, Option.map_eq_some_iff, List.find?_eq_some_iff_append, IsFirst,
    Bool.not_eq_true']
  exact exists_congr fun _ => and_assoc.trans and_left_comm

/-- There is no address exactly if no interface contains the gateway. -/
theorem localAddressFor_eq_none_iff :
    localAddressFor interfaces gateway = none ↔
      ∀ interface ∈ interfaces, interface.contains gateway = false := by
  simp only [localAddressFor, Option.map_eq_none_iff, List.find?_eq_none, Bool.not_eq_true]

/-- The address that reaches a gateway is that of the first interface that contains it, and there is none
exactly if no interface does. An interface with the mask of a prefix length contains the addresses between
its own with the low bits behind the prefix cleared and the same with them set. So two addresses under
one mask contain each other or neither does, and what a longer prefix contains a shorter one does too. -/
theorem localAddressFor_first_subnet (interfaces : List Interface) (gateway : Ipv4) :
    (∀ address, localAddressFor interfaces gateway = some address ↔
        ∃ interface, IsFirst (·.contains gateway = false) interfaces interface ∧
          interface.contains gateway = true ∧ interface.address = address) ∧
      (localAddressFor interfaces gateway = none ↔
        ∀ interface ∈ interfaces, interface.contains gateway = false) ∧
      (∀ mask address other : Ipv4, (⟨address, mask⟩ : Interface).contains other =
        (⟨other, mask⟩ : Interface).contains address) ∧
      ∀ (length : Nat) (address other : Ipv4),
        ((Interface.ofPrefix address length).contains other = true ↔
          (address.lowBitsCleared (32 - length)).bits ≤ other.bits ∧
            other.bits ≤ (address.lowBitsSet (32 - length)).bits) ∧
        ∀ shorter ≤ length, (Interface.ofPrefix address length).contains other = true →
          (Interface.ofPrefix address shorter).contains other = true := by
  refine ⟨fun _ => localAddressFor_eq_some_iff, localAddressFor_eq_none_iff, Interface.contains_comm, ?_⟩
  intro length address other
  exact ⟨Interface.contains_ofPrefix_iff_between,
    fun shorter hshorter => Interface.contains_ofPrefix_of_le hshorter⟩

/-- The interfaces of a machine in a home network, the last one in a wider subnet than the one before. -/
def homeInterfaces : List Interface :=
  [.ofPrefix (.ofOctets 127 0 0 1) 8, .ofPrefix (.ofOctets 192 168 1 42) 24,
    .ofPrefix (.ofOctets 192 168 7 9) 16]

/-- The router of a home network is reached from the first address in its subnet, although it lies in
the wider subnet as well. -/
theorem localAddressFor_first_subnet_home :
    localAddressFor homeInterfaces (.ofOctets 192 168 1 1) = some (.ofOctets 192 168 1 42) ∧
      (Interface.ofPrefix (.ofOctets 192 168 1 42) 24).contains (.ofOctets 192 168 1 1) = true ∧
      (Interface.ofPrefix (.ofOctets 192 168 1 42) 16).contains (.ofOctets 192 168 1 1) = true := by
  obtain ⟨hfound, -, -, hsubnet⟩ :=
    localAddressFor_first_subnet homeInterfaces (.ofOctets 192 168 1 1)
  have hcontains : (Interface.ofPrefix (.ofOctets 192 168 1 42) 24).contains
      (.ofOctets 192 168 1 1) = true := by decide
  refine ⟨(hfound _).2 ⟨.ofPrefix (.ofOctets 192 168 1 42) 24, ?_, hcontains, rfl⟩, hcontains, ?_⟩
  · refine ⟨[.ofPrefix (.ofOctets 127 0 0 1) 8], [.ofPrefix (.ofOctets 192 168 7 9) 16], rfl, ?_⟩
    decide
  · exact (hsubnet 24 _ _).2 16 (by decide) hcontains

end NatGateway.Net
