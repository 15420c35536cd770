import Nat64Gateway.Prefix
import Nat64Gateway.Proofs.Wire

namespace Nat64Gateway.Prefix

theorem toNat_image (block : Prefix) (address : Address.V4) :
    (block.image address).bits.toNat = block.base.toNat * 2 ^ 32 + address.bits.toNat := by
  have small : address.bits.toNat < 2 ^ 32 := address.bits.isLt
  have whole : (block.image address).bits.toNat = block.base.toNat <<< 32 ||| address.bits.toNat :=
    BitVec.toNat_append ..
  rw [whole, ← Nat.shiftLeft_add_eq_or_of_lt small, Nat.shiftLeft_eq]

theorem leading_image (block : Prefix) (address : Address.V4) :
    leading (block.image address) block.length = block.base.toNat >>> (96 - block.length) := by
  have short := block.length_le
  have small : address.bits.toNat < 2 ^ 32 := address.bits.isLt
  have apart : 128 - block.length = 32 + (96 - block.length) := by omega
  have high : (block.base.toNat * 2 ^ 32 + address.bits.toNat) >>> 32 = block.base.toNat := by
    rw [Nat.shiftRight_eq_div_pow]
    omega
  unfold leading
  rw [toNat_image, apart, Nat.shiftRight_add, high]

theorem covers_image (block : Prefix) (address : Address.V4) :
    block.covers (block.image address) = true := by
  unfold covers
  rw [leading_image, show block.address = block.image .unspecified from rfl, leading_image]
  exact decide_eq_true rfl

theorem embedded?_image (block : Prefix) (address : Address.V4) :
    block.embedded? (block.image address) = some address := by
  have low : (block.image address).bits.setWidth 32 = address.bits := by
    apply BitVec.eq_of_toNat_eq
    have small : address.bits.toNat < 2 ^ 32 := address.bits.isLt
    rw [BitVec.toNat_setWidth, toNat_image]
    omega
  unfold embedded?
  rw [if_pos (block.covers_image address), low]

theorem leading_add (address : Address.V6) {length more : Nat} (inside : length + more ≤ 128) :
    leading address length = leading address (length + more) / 2 ^ more := by
  have apart : 128 - length = 128 - (length + more) + more := by omega
  unfold leading
  rw [Nat.shiftRight_eq_div_pow, Nat.shiftRight_eq_div_pow, Nat.div_div_eq_div_mul, ← Nat.pow_add,
    apart]

theorem leading_lt (address : Address.V6) {length : Nat} (inside : length ≤ 128) :
    leading address length < 2 ^ length := by
  have bound := address.bits.isLt
  have whole : length + (128 - length) = 128 := by omega
  unfold leading
  rwa [Nat.shiftRight_eq_div_pow, Nat.div_lt_iff_lt_mul (Nat.two_pow_pos _), ← Nat.pow_add, whole]

theorem testBit_leading (address : Address.V6) {length : Nat} (inside : length ≤ 128)
    {index : Nat} (within : index < length) :
    (leading address length).testBit (length - 1 - index) = address.bits.getMsbD index := by
  have place : 128 - length + (length - 1 - index) = 128 - 1 - index := by omega
  have real : index < 128 := by omega
  unfold leading
  rw [Nat.testBit_shiftRight, place, BitVec.getMsbD, decide_eq_true real, Bool.true_and]
  rfl

-- Membership compares the first bits, and nothing behind them.
theorem covers_iff (block : Prefix) (address : Address.V6) : block.covers address = true ↔
    ∀ index < block.length, address.bits.getMsbD index = block.address.bits.getMsbD index := by
  have inside : block.length ≤ 128 := Nat.le_trans block.length_le (by decide)
  unfold covers
  rw [decide_eq_true_iff]
  constructor
  · intro same index within
    rw [← testBit_leading address inside within, ← testBit_leading block.address inside within,
      same]
  · intro agree
    apply Nat.eq_of_testBit_eq
    intro bit
    by_cases within : bit < block.length
    · have place : block.length - 1 - (block.length - 1 - bit) = bit := by omega
      have index : block.length - 1 - bit < block.length := by omega
      have same := agree (block.length - 1 - bit) index
      rwa [← testBit_leading address inside index, ← testBit_leading block.address inside index,
        place] at same
    · have high : ∀ other : Address.V6, (leading other block.length).testBit bit = false := by
        intro other
        apply Nat.testBit_lt_two_pow
        exact Nat.lt_of_lt_of_le (leading_lt other inside)
          (Nat.pow_le_pow_right (by decide) (Nat.not_lt.mp within))
      rw [high, high]

theorem take_octets (address : Address.V6) {width : Nat} (inside : width ≤ 16) :
    address.octets.take width = Wire.encode width (leading address (8 * width)) := by
  have digits := Wire.encode_add width (16 - width) address.bits.toNat
  have rest : 8 * (16 - width) = 128 - 8 * width := by omega
  rw [Wire.capacity_eq, rest, ← Nat.shiftRight_eq_div_pow, Nat.add_sub_cancel' inside] at digits
  have split : address.octets = Wire.encode width (leading address (8 * width))
      ++ Wire.encode (16 - width) address.bits.toNat := digits
  rw [split, List.take_left' (Wire.length_encode ..)]

theorem take_octets_inj (left right : Address.V6) {width : Nat} (inside : width ≤ 16) :
    left.octets.take width = right.octets.take width
      ↔ leading left (8 * width) = leading right (8 * width) := by
  rw [take_octets left inside, take_octets right inside]
  apply Wire.encode_inj <;>
  · rw [Wire.capacity_eq]
    exact leading_lt _ (by omega)

theorem leading_byte (address : Address.V6) {index : Nat} (inside : index < 16) :
    (Wire.byte address.octets index).toNat = leading address (8 * index + 8) % 256 := by
  have front := take_octets address inside
  have last : Wire.byte (address.octets.take (index + 1)) index = Wire.byte address.octets index :=
    Wire.byte_take (Nat.lt_succ_self index)
  rw [← last, front, Wire.encode, Wire.byte_append_right (Nat.le_of_eq (Wire.length_encode ..)),
    Wire.length_encode, Nat.sub_self, Nat.mul_succ]
  exact UInt8.toNat_ofNat'

-- Two numbers agree above some bits of their last byte.
theorem div_eq_iff (left right : Nat) {unused : Nat} (part : unused ≤ 8) :
    left / 2 ^ unused = right / 2 ^ unused ↔
      left / 2 ^ 8 = right / 2 ^ 8 ∧
        left % 2 ^ 8 / 2 ^ unused = right % 2 ^ 8 / 2 ^ unused := by
  have byte : 2 ^ 8 = 2 ^ unused * 2 ^ (8 - unused) := by
    rw [← Nat.pow_add, Nat.add_sub_cancel' part]
  rw [byte, Nat.mod_mul_right_div_self, Nat.mod_mul_right_div_self, ← Nat.div_div_eq_div_mul,
    ← Nat.div_div_eq_div_mul]
  constructor
  · intro same
    rw [same]
    exact ⟨rfl, rfl⟩
  · rintro ⟨high, low⟩
    rw [← Nat.div_add_mod (left / 2 ^ unused) (2 ^ (8 - unused)), high, low, Nat.div_add_mod]

-- Of the byte that a length ends in, only its upper bits count.
theorem leading_eq_iff (left right : Address.V6) {index used : Nat} (inside : index < 16)
    (part : used < 8) :
    leading left (8 * index + used) = leading right (8 * index + used) ↔
      leading left (8 * index) = leading right (8 * index) ∧
        (Wire.byte left.octets index).toNat / 2 ^ (8 - used)
          = (Wire.byte right.octets index).toNat / 2 ^ (8 - used) := by
  have fill : 8 * index + used + (8 - used) = 8 * index + 8 := by omega
  rw [leading_byte left inside, leading_byte right inside,
    leading_add left (by omega : 8 * index + 8 ≤ 128),
    leading_add right (by omega : 8 * index + 8 ≤ 128),
    leading_add left (by omega : 8 * index + used + (8 - used) ≤ 128),
    leading_add right (by omega : 8 * index + used + (8 - used) ≤ 128), fill]
  exact div_eq_iff _ _ (Nat.sub_le 8 used)

theorem octets_image (block : Prefix) (address : Address.V4) :
    (block.image address).octets = Wire.encode 12 block.base.toNat ++ address.octets := by
  have small : address.bits.toNat < 2 ^ 32 := address.bits.isLt
  have room : Wire.capacity 4 = 2 ^ 32 := Wire.capacity_eq 4
  have high : (block.base.toNat * 2 ^ 32 + address.bits.toNat) / 2 ^ 32 = block.base.toNat := by
    omega
  have low : (block.base.toNat * 2 ^ 32 + address.bits.toNat) % 2 ^ 32 = address.bits.toNat := by
    omega
  have digits := Wire.encode_add 12 4 (block.image address).bits.toNat
  rw [← Wire.encode_mod 4, toNat_image, room, high, low, ← toNat_image] at digits
  exact digits

theorem ofOctets_field (address : Address.V6) :
    Address.V4.ofOctets (Wire.field address.octets 12 4) = ⟨address.bits.setWidth 32⟩ := by
  have digits : address.octets = Wire.encode 12 (address.bits.toNat / Wire.capacity 4)
      ++ Wire.encode 4 address.bits.toNat := Wire.encode_add 12 4 address.bits.toNat
  have stored : Wire.field address.octets 12 4 = Wire.encode 4 address.bits.toNat := by
    rw [digits]
    exact Wire.field_suffix (Wire.length_encode ..) (Wire.length_encode ..)
  have low : BitVec.ofNat 32 (address.bits.toNat % 2 ^ 32) = address.bits.setWidth 32 := by
    apply BitVec.eq_of_toNat_eq
    rw [BitVec.toNat_ofNat, BitVec.toNat_setWidth]
    exact Nat.mod_mod ..
  rw [stored, Address.V4.ofOctets, Wire.decode_encode, Wire.capacity_eq]
  exact congrArg Address.V4.mk low

end Nat64Gateway.Prefix
