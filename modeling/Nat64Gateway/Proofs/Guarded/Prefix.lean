import Nat64Gateway.Proofs.Guarded.Access
import Nat64Gateway.Proofs.Prefix

namespace Nat64Gateway.Guarded

def shiftLeft (byte : UInt8) (amount : Nat) : Checked UInt8 :=
  if amount < 8 then .ok (byte <<< UInt8.ofNat amount) else .error .overflow

namespace Prefix

def octets (block : Prefix) : Bytes :=
  Wire.encode 12 block.base.toNat

def covers (block : Prefix) (address : Address.V6) : Checked Bool := do
  let whole := block.length / 8
  let left ← sliceTo address.octets whole
  let right ← sliceTo (octets block) whole
  if left ≠ right then .ok false
  else
    let remaining := block.length % 8
    if remaining = 0 then .ok true
    else do
      let unused ← minus 8 remaining
      let mask ← shiftLeft 0xff unused
      let leftByte ← byteAt address.octets whole
      let rightByte ← byteAt (octets block) whole
      .ok (leftByte &&& mask = rightByte &&& mask)

def embedded? (block : Prefix) (address : Address.V6) : Checked (Option Address.V4) := do
  let covered ← covers block address
  if covered then do
    let stored ← Guarded.octets address.octets 12 4
    .ok (some (.ofOctets stored))
  else .ok none

def image (block : Prefix) (address : Address.V4) : Checked Address.V6 := do
  let front ← copy (List.replicate 16 0) 0 12 (octets block)
  let whole ← copy front 12 16 address.octets
  .ok (.ofOctets whole)

theorem toNat_masked (byte : UInt8) {unused : Nat} (small : unused < 8) :
    (byte &&& (0xff <<< UInt8.ofNat unused)).toNat = byte.toNat / 2 ^ unused * 2 ^ unused := by
  have bound := byte.toNat_lt
  have shift : (UInt8.ofNat unused).toNat % 8 = unused := by
    rw [UInt8.toNat_ofNat', Nat.mod_eq_of_lt (by omega : unused < 2 ^ 8), Nat.mod_eq_of_lt small]
  have mask : ((0xff : UInt8) <<< UInt8.ofNat unused).toNat = (2 ^ 8 - 1) <<< unused % 2 ^ 8 := by
    rw [UInt8.toNat_shiftLeft, shift]
    rfl
  rw [UInt8.toNat_and, mask, ← Nat.shiftRight_eq_div_pow, ← Nat.shiftLeft_eq]
  apply Nat.eq_of_testBit_eq
  intro bit
  rw [Nat.testBit_and, Nat.testBit_mod_two_pow, Nat.testBit_shiftLeft, Nat.testBit_two_pow_sub_one,
    Nat.testBit_shiftLeft, Nat.testBit_shiftRight]
  by_cases masked : unused ≤ bit
  · by_cases beyond : 8 ≤ bit
    · have high : byte.toNat.testBit bit = false :=
        Nat.testBit_lt_two_pow (Nat.lt_of_lt_of_le bound (Nat.pow_le_pow_right (by decide) beyond))
      simp [Nat.add_sub_cancel' masked, high]
    · have inside : bit < 8 := Nat.not_le.mp beyond
      have lower : bit - unused < 8 := by omega
      simp [Nat.add_sub_cancel' masked, masked, inside, lower]
  · simp [masked]

theorem masked_inj (left right : UInt8) {unused : Nat} (small : unused < 8) :
    left &&& (0xff <<< UInt8.ofNat unused) = right &&& (0xff <<< UInt8.ofNat unused)
      ↔ left.toNat / 2 ^ unused = right.toNat / 2 ^ unused := by
  rw [← UInt8.toNat_inj, toNat_masked left small, toNat_masked right small]
  exact Nat.mul_left_inj (Nat.ne_of_gt (Nat.two_pow_pos unused))

variable (block : Prefix)

-- The block's octets are the front of its own address.
theorem octets_address : block.address.octets = octets block ++ [0, 0, 0, 0] :=
  block.octets_image .unspecified

@[simp] theorem length_octets : (octets block).length = 12 :=
  Wire.length_encode ..

theorem take_octets {width : Nat} (inside : width ≤ 12) :
    (octets block).take width = block.address.octets.take width := by
  rw [octets_address, List.take_append_of_le_length (by rwa [length_octets])]

theorem byte_octets {index : Nat} (inside : index < 12) :
    Wire.byte (octets block) index = Wire.byte block.address.octets index := by
  rw [octets_address, Wire.byte_append_left _ (by rwa [length_octets])]

theorem covers_eq (address : Address.V6) :
    covers block address = .ok (block.covers address) := by
  have short := block.length_le
  have width : address.octets.length = 16 := address.length_octets
  have fronts := Prefix.take_octets_inj address block.address
    (by omega : block.length / 8 ≤ 16)
  have whole : 8 * (block.length / 8) + block.length % 8 = block.length := Nat.div_add_mod ..
  unfold covers
  dsimp only
  rw [sliceTo_eq (by omega), ok_bind, sliceTo_eq (by rw [length_octets]; omega), ok_bind,
    take_octets block (by omega)]
  unfold Nat64Gateway.Prefix.covers
  by_cases same : address.octets.take (block.length / 8)
      = block.address.octets.take (block.length / 8)
  · rw [if_neg (not_not_intro same)]
    have leading := fronts.mp same
    by_cases aligned : block.length % 8 = 0
    · rw [aligned, Nat.add_zero] at whole
      rw [whole] at leading
      rw [if_pos aligned, decide_eq_true leading]
    -- The length ends inside of a byte, which is compared under a mask.
    · have small : 8 - block.length % 8 < 8 := by omega
      have shifted : shiftLeft 0xff (8 - block.length % 8)
          = .ok (0xff <<< UInt8.ofNat (8 - block.length % 8)) := if_pos small
      have split := Prefix.leading_eq_iff address block.address
        (by omega : block.length / 8 < 16) (Nat.mod_lt block.length (by decide : 0 < 8))
      rw [whole, ← masked_inj _ _ small] at split
      rw [if_neg aligned, minus_eq (by omega), ok_bind, shifted, ok_bind, byteAt_eq (by omega),
        ok_bind, byteAt_eq (by rw [length_octets]; omega), ok_bind, byte_octets block (by omega)]
      simp only [split, leading, true_and]
  · have differ : Prefix.leading address block.length
        ≠ Prefix.leading block.address block.length := by
      intro leading
      apply same
      apply fronts.mpr
      rw [Prefix.leading_add _ (by omega : 8 * (block.length / 8) + block.length % 8 ≤ 128),
        Prefix.leading_add _ (by omega : 8 * (block.length / 8) + block.length % 8 ≤ 128), whole,
        leading]
    rw [if_pos same, decide_eq_false differ]

theorem embedded?_eq (address : Address.V6) :
    embedded? block address = .ok (block.embedded? address) := by
  have width : address.octets.length = 16 := address.length_octets
  unfold embedded? Nat64Gateway.Prefix.embedded?
  rw [covers_eq, ok_bind]
  split
  · rw [octets_eq (by omega), ok_bind, Prefix.ofOctets_field]
  · rfl

theorem image_eq (address : Address.V4) : image block address = .ok (block.image address) := by
  have width : (octets block ++ address.octets).length = 16 := by simp
  have whole : octets block ++ address.octets = (block.image address).octets :=
    (block.octets_image address).symm
  unfold image
  rw [copy_eq (by rw [length_octets]) (by decide), ok_bind,
    copy_next (by rw [length_octets]) (by rw [address.length_octets]) (by decide), ok_bind,
    Wire.overwrite_whole width, whole, Address.V6.ofOctets_octets]

end Prefix
end Nat64Gateway.Guarded
