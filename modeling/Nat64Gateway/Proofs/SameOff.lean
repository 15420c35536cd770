import Nat64Gateway.Proofs.Checksum.Filled
import Nat64Gateway.Proofs.Endpoint

namespace Nat64Gateway

namespace Wire

structure SameOff (spots : Nat → Prop) (left right : Bytes) : Prop where
  length : left.length = right.length
  same : ∀ i, ¬spots i → left[i]? = right[i]?

def onField (offset i : Nat) : Prop :=
  offset ≤ i ∧ i < offset + 2

namespace SameOff

variable {spots more : Nat → Prop} {left right : Bytes}

theorem refl (spots : Nat → Prop) (bytes : Bytes) : SameOff spots bytes bytes :=
  ⟨rfl, fun _ _ => rfl⟩

theorem trans {middle : Bytes} (same : SameOff spots left middle)
    (same_too : SameOff spots middle right) : SameOff spots left right :=
  ⟨same.length.trans same_too.length,
    fun i apart => (same.same i apart).trans (same_too.same i apart)⟩

theorem mono (same : SameOff spots left right) (within : ∀ i, spots i → more i) :
    SameOff more left right :=
  ⟨same.length, fun i apart => same.same i fun spotted => apart (within i spotted)⟩

theorem eq (same : SameOff spots left right) (apart : ∀ i, i < left.length → ¬spots i) :
    left = right := by
  apply List.ext_getElem?
  intro i
  by_cases inside : i < left.length
  · exact same.same i (apart i inside)
  · have behind := Nat.not_lt.mp inside
    rw [List.getElem?_eq_none behind, List.getElem?_eq_none (same.length ▸ behind)]

theorem take (same : SameOff spots left right) (length : Nat) :
    SameOff spots (left.take length) (right.take length) := by
  refine ⟨?_, ?_⟩
  · rw [List.length_take, List.length_take, same.length]
  · intro i apart
    rw [List.getElem?_take, List.getElem?_take, same.same i apart]

theorem drop (same : SameOff spots left right) (start : Nat) :
    SameOff (fun i => spots (start + i)) (left.drop start) (right.drop start) := by
  refine ⟨?_, ?_⟩
  · rw [List.length_drop, List.length_drop, same.length]
  · intro i apart
    rw [List.getElem?_drop, List.getElem?_drop, same.same (start + i) apart]

theorem append {left_back right_back : Bytes} (same : SameOff spots left right)
    (same_back : SameOff (fun i => spots (left.length + i)) left_back right_back) :
    SameOff spots (left ++ left_back) (right ++ right_back) := by
  refine ⟨?_, ?_⟩
  · rw [List.length_append, List.length_append, same.length, same_back.length]
  · intro i apart
    rw [List.getElem?_append, List.getElem?_append, ← same.length]
    by_cases front : i < left.length
    · rw [if_pos front, if_pos front, same.same i apart]
    · have shifted : left.length + (i - left.length) = i := by omega
      rw [if_neg front, if_neg front, same_back.same _ (by rwa [shifted])]

-- Reading beside the spots.

theorem field (same : SameOff spots left right) {offset width : Nat}
    (apart : ∀ i, offset ≤ i → i < offset + width → ¬spots i) :
    Wire.field left offset width = Wire.field right offset width := by
  have run : SameOff (fun i => spots (offset + i)) (Wire.field left offset width)
      (Wire.field right offset width) := (same.drop offset).take width
  apply run.eq
  intro i inside
  have short : (Wire.field left offset width).length ≤ width := List.length_take_le ..
  exact apart (offset + i) (Nat.le_add_right ..) (by omega)

theorem number (same : SameOff spots left right) {offset width : Nat}
    (apart : ∀ i, offset ≤ i → i < offset + width → ¬spots i) :
    Wire.number left offset width = Wire.number right offset width := by
  unfold Wire.number
  rw [same.field apart]

theorem byte (same : SameOff spots left right) {offset : Nat} (apart : ¬spots offset) :
    Wire.byte left offset = Wire.byte right offset := by
  unfold Wire.byte
  rw [List.getD_eq_getElem?_getD, List.getD_eq_getElem?_getD, same.same offset apart]

-- Writing over both.

theorem overwrite (same : SameOff spots left right) {new : Bytes} {offset : Nat}
    (inside : offset + new.length ≤ left.length) :
    SameOff spots (Wire.overwrite left offset new) (Wire.overwrite right offset new) := by
  have front := length_take_append new (Nat.le_of_add_right_le inside)
  refine ((same.take offset).append (.refl _ new)).append ?_
  rw [front]
  exact same.drop (offset + new.length)

theorem overwrite_field {offset : Nat} (same : SameOff (onField offset) left right) {new : Bytes}
    (width : new.length = 2) :
    Wire.overwrite left offset new = Wire.overwrite right offset new := by
  have front : left.take offset = right.take offset := by
    apply (same.take offset).eq
    intro i inside spotted
    have short : (left.take offset).length ≤ offset := List.length_take_le ..
    exact Nat.not_lt.mpr spotted.1 (by omega)
  have back : left.drop (offset + 2) = right.drop (offset + 2) := by
    apply (same.drop (offset + 2)).eq
    intro i _ spotted
    exact Nat.not_lt.mpr (Nat.le_add_right ..) spotted.2
  unfold Wire.overwrite
  rw [width, front, back]

theorem of_overwrite {bytes new : Bytes} {offset : Nat} (width : new.length = 2)
    (inside : offset + 2 ≤ bytes.length) :
    SameOff (onField offset) bytes (Wire.overwrite bytes offset new) := by
  have room : offset + new.length ≤ bytes.length := by rwa [width]
  refine ⟨(length_overwrite room).symm, ?_⟩
  intro i apart
  unfold onField at apart
  by_cases before : i < offset
  · have kept := take_overwrite_of_le new (Nat.le_refl offset) (by omega : offset ≤ bytes.length)
    rw [← List.getElem?_take_of_lt before, ← kept, List.getElem?_take_of_lt before]
  · have behind : offset + 2 + (i - (offset + 2)) = i := by omega
    have rest : offset + new.length ≤ offset + 2 := Nat.le_of_eq (by rw [width])
    have kept := drop_overwrite_of_ge rest room
    rw [← behind, ← List.getElem?_drop, ← kept, List.getElem?_drop]

end SameOff
end Wire

-- Filling in overwrites the field, and counts it as zero.
theorem Checksum.sealedSegment_sameOff {family : Family} {header left right : Bytes}
    {protocol : Protocol} (same : Wire.SameOff (Wire.onField protocol.checksumOffset) left right) :
    sealedSegment family header protocol left = sealedSegment family header protocol right := by
  have blank := same.overwrite_field (rfl : [(0 : UInt8), 0].length = 2)
  unfold sealedSegment uncheckedSum
  rw [same.length, blank, same.overwrite_field (Wire.length_encode ..)]

theorem Endpoint.Block.read_sameOff {order : PortOrder} {spots : Nat → Prop} {left right : Bytes}
    (same : Wire.SameOff spots left right) (behind : ∀ i, spots i → length ≤ i) :
    read order left = read order right := by
  have field : ∀ {offset width}, offset + width ≤ length →
      Wire.field left offset width = Wire.field right offset width := by
    intro offset width inside
    apply same.field
    intro i _ before spotted
    have after := behind i spotted
    omega
  unfold length at field
  unfold read Wire.word Wire.number
  rw [same.length, field (by decide : 0 + 16 ≤ 36), field (by decide : 16 + 2 ≤ 36),
    field (by decide : 18 + 16 ≤ 36), field (by decide : 34 + 2 ≤ 36)]

-- Both are refused for the same cause, or both are accepted with related results.
inductive Likewise {ε α : Type} (related : α → α → Prop) (first second : Except ε α) : Prop where
  | refused (cause : ε) (refused : first = .error cause) (refused_too : second = .error cause)
  | accepted (left right : α) (accepted : first = .ok left) (accepted_too : second = .ok right)
      (same : related left right)

namespace Likewise

variable {ε α β : Type} {related : α → α → Prop} {first second : Except ε α}

theorem map {kept : β → β → Prop} {f g : α → β} (likewise : Likewise related first second)
    (preserved : ∀ left right, related left right → kept (f left) (g right)) :
    Likewise kept (first.map f) (second.map g) := by
  cases likewise with
  | refused cause refused refused_too =>
    rw [refused, refused_too]
    exact .refused cause rfl rfl
  | accepted left right accepted accepted_too same =>
    rw [accepted, accepted_too]
    exact .accepted _ _ rfl rfl (preserved left right same)

theorem check (refused : Prop) [Decidable refused] (cause : ε)
    (likewise : ¬refused → Likewise related first second) :
    Likewise related (if refused then .error cause else first)
      (if refused then .error cause else second) := by
  by_cases met : refused
  · rw [if_pos met, if_pos met]
    exact .refused cause rfl rfl
  · rw [if_neg met, if_neg met]
    exact likewise met

end Likewise
end Nat64Gateway
