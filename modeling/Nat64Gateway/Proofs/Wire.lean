import Mathlib.Algebra.Ring.Nat
import Nat64Gateway.Wire

namespace Nat64Gateway.Wire

theorem encode_two (value : Nat) :
    encode 2 value = [UInt8.ofNat (value / 256), UInt8.ofNat value] := by
  simp [encode]

@[simp] theorem length_encodeWord (value : UInt16) : (encodeWord value).length = 2 :=
  length_encode ..

theorem length_field {bytes : Bytes} {offset width : Nat} (inside : offset + width ≤ bytes.length) :
    (field bytes offset width).length = width := by
  simp only [field, List.length_take, List.length_drop]
  omega

-- A number written back where it was read is the field it was read from.
theorem encode_number {bytes : Bytes} {offset width : Nat}
    (inside : offset + width ≤ bytes.length) :
    encode width (number bytes offset width) = field bytes offset width := by
  have whole := encode_decode (field bytes offset width)
  rwa [length_field inside] at whole

theorem capacity_eq (width : Nat) : capacity width = 2 ^ (8 * width) := by
  induction width with
  | zero => rfl
  | succ width ih => rw [capacity, ih, Nat.mul_succ, Nat.pow_add, Nat.mul_comm]

-- The front digits are what the back ones have no room for.
theorem encode_add (front back value : Nat) :
    encode (front + back) value = encode front (value / capacity back) ++ encode back value := by
  induction back generalizing value with
  | zero => rw [Nat.add_zero, capacity, Nat.div_one, encode, List.append_nil]
  | succ back ih =>
    rw [← Nat.add_assoc, encode, ih, encode, capacity, Nat.div_div_eq_div_mul, List.append_assoc]

theorem encode_mod (width value : Nat) :
    encode width (value % capacity width) = encode width value := by
  have digits := encode_decode (encode width value)
  rwa [length_encode, decode_encode] at digits

theorem encode_inj {width left right : Nat} (left_fits : left < capacity width)
    (right_fits : right < capacity width) :
    encode width left = encode width right ↔ left = right := by
  constructor
  · intro same
    have digits := congrArg decode same
    rwa [decode_encode_of_lt left_fits, decode_encode_of_lt right_fits] at digits
  · rintro rfl
    rfl

theorem decode_encode_two {value : Nat} (fits : value < 65536) : decode (encode 2 value) = value :=
  decode_encode_of_lt fits

@[simp] theorem decode_encodeWord (value : UInt16) : decode (encodeWord value) = value.toNat :=
  decode_encode_two value.toNat_lt

theorem decode_lt_two {bytes : Bytes} (width : bytes.length = 2) : decode bytes < 65536 := by
  have bound := decode_lt bytes
  rwa [width] at bound

theorem number_lt {bytes : Bytes} {offset : Nat} (inside : offset + 2 ≤ bytes.length) :
    number bytes offset 2 < 65536 :=
  decode_lt_two (length_field inside)

-- Reading one part of a concatenation.

theorem field_append_left {front : Bytes} (back : Bytes) {offset width : Nat}
    (inside : offset + width ≤ front.length) :
    field (front ++ back) offset width = field front offset width := by
  unfold field
  rw [List.drop_append_of_le_length (by omega), List.take_append_of_le_length]
  rw [List.length_drop]
  omega

theorem field_append_right {front back : Bytes} {offset width : Nat}
    (behind : front.length ≤ offset) :
    field (front ++ back) offset width = field back (offset - front.length) width := by
  unfold field
  rw [List.drop_append, List.drop_eq_nil_of_le behind, List.nil_append]

theorem field_prefix {front back : Bytes} {width : Nat} (same : front.length = width) :
    field (front ++ back) 0 width = front := by
  subst same
  simp [field]

theorem field_whole (bytes : Bytes) : field bytes 0 bytes.length = bytes := by
  simp [field]

theorem field_suffix {front back : Bytes} {offset width : Nat} (start : front.length = offset)
    (same : back.length = width) : field (front ++ back) offset width = back := by
  subst start same
  rw [field_append_right (Nat.le_refl _), Nat.sub_self, field_whole]

theorem field_between {front middle back : Bytes} {offset width : Nat}
    (start : front.length = offset) (same : middle.length = width) :
    field (front ++ (middle ++ back)) offset width = middle := by
  subst start same
  rw [field_append_right (Nat.le_refl _), Nat.sub_self, field_prefix rfl]

theorem number_append_right {front back : Bytes} {offset width : Nat}
    (behind : front.length ≤ offset) :
    number (front ++ back) offset width = number back (offset - front.length) width := by
  unfold number
  rw [field_append_right behind]

theorem byte_append_left {front : Bytes} (back : Bytes) {offset : Nat} (inside : offset < front.length) :
    byte (front ++ back) offset = byte front offset := by
  simp [byte, List.getD_eq_getElem?_getD, List.getElem?_append_left inside]

theorem byte_append_right {front back : Bytes} {offset : Nat} (behind : front.length ≤ offset) :
    byte (front ++ back) offset = byte back (offset - front.length) := by
  simp [byte, List.getD_eq_getElem?_getD, List.getElem?_append_right behind]

-- The same reads of bytes that were cut at either end.

theorem field_take {bytes : Bytes} {offset width length : Nat} (inside : offset + width ≤ length) :
    field (bytes.take length) offset width = field bytes offset width := by
  unfold field
  rw [List.drop_take, List.take_take, Nat.min_eq_left (by omega)]

theorem number_take {bytes : Bytes} {offset width length : Nat}
    (inside : offset + width ≤ length) :
    number (bytes.take length) offset width = number bytes offset width := by
  unfold number
  rw [field_take inside]

theorem byte_take {bytes : Bytes} {offset length : Nat} (inside : offset < length) :
    byte (bytes.take length) offset = byte bytes offset := by
  simp [byte, List.getD_eq_getElem?_getD, List.getElem?_take_of_lt inside]

theorem field_drop (bytes : Bytes) (start offset width : Nat) :
    field (bytes.drop start) offset width = field bytes (start + offset) width := by
  unfold field
  rw [List.drop_drop]

theorem byte_drop (bytes : Bytes) (start offset : Nat) :
    byte (bytes.drop start) offset = byte bytes (start + offset) := by
  simp [byte, List.getD_eq_getElem?_getD]

-- A field of a field is a field of the whole.
theorem field_field (bytes : Bytes) (start : Nat) {length offset width : Nat}
    (inside : offset + width ≤ length) :
    field (field bytes start length) offset width = field bytes (start + offset) width := by
  have whole : field bytes start length = (bytes.drop start).take length := rfl
  rw [whole, field_take inside, field_drop]

theorem byte_field (bytes : Bytes) (start : Nat) {length offset : Nat} (inside : offset < length) :
    byte (field bytes start length) offset = byte bytes (start + offset) := by
  unfold field
  rw [byte_take inside, byte_drop]

theorem take_field_drop (bytes : Bytes) (offset width : Nat) :
    bytes.take offset ++ field bytes offset width ++ bytes.drop (offset + width) = bytes := by
  unfold field
  rw [← List.drop_drop, List.append_assoc, List.take_append_drop, List.take_append_drop]

-- Overwriting one part of a concatenation.

theorem length_take_append {bytes : Bytes} (new : Bytes) {offset : Nat}
    (inside : offset ≤ bytes.length) : (bytes.take offset ++ new).length = offset + new.length := by
  rw [List.length_append, List.length_take_of_le inside]

theorem overwrite_append_left {front back new : Bytes} {offset : Nat}
    (inside : offset + new.length ≤ front.length) :
    overwrite (front ++ back) offset new = overwrite front offset new ++ back := by
  unfold overwrite
  rw [List.take_append_of_le_length (by omega), List.drop_append_of_le_length inside]
  simp

theorem overwrite_append_right {front back new : Bytes} {offset : Nat}
    (behind : front.length ≤ offset) :
    overwrite (front ++ back) offset new = front ++ overwrite back (offset - front.length) new := by
  have rest : offset + new.length - front.length = offset - front.length + new.length := by omega
  unfold overwrite
  rw [List.take_append, List.take_of_length_le behind, List.drop_append,
    List.drop_eq_nil_of_le (by omega), rest]
  simp

-- Writing what already stands there changes nothing.
theorem overwrite_field {bytes new : Bytes} {offset : Nat}
    (same : field bytes offset new.length = new) : overwrite bytes offset new = bytes := by
  unfold overwrite
  have apart := take_field_drop bytes offset new.length
  rwa [same] at apart

theorem overwrite_whole {bytes new : Bytes} (same : new.length = bytes.length) :
    overwrite bytes 0 new = new := by
  simp [overwrite, same]

-- A write into what was just written.
theorem overwrite_inner {bytes outer new : Bytes} {start offset : Nat}
    (room : start ≤ bytes.length) (inside : offset + new.length ≤ outer.length) :
    overwrite (overwrite bytes start outer) (start + offset) new
      = overwrite bytes start (overwrite outer offset new) := by
  have front : (bytes.take start).length = start := List.length_take_of_le room
  have kept := length_overwrite inside
  have split : overwrite bytes start outer
      = bytes.take start ++ (outer ++ bytes.drop (start + outer.length)) :=
    List.append_assoc ..
  rw [split, overwrite_append_right (by omega), front, Nat.add_sub_cancel_left,
    overwrite_append_left inside, ← List.append_assoc, ← kept]
  rfl

theorem overwrite_overwrite {bytes first second : Bytes} {offset : Nat}
    (same : first.length = second.length) (inside : offset + first.length ≤ bytes.length) :
    overwrite (overwrite bytes offset first) offset second = overwrite bytes offset second := by
  have inner : overwrite (overwrite bytes offset first) (offset + 0) second
      = overwrite bytes offset (overwrite first 0 second) :=
    overwrite_inner (Nat.le_of_add_right_le inside) (by rw [Nat.zero_add, same])
  rwa [Nat.add_zero, overwrite_whole same.symm] at inner

-- Two writes side by side are one.
theorem overwrite_adjacent {bytes first second : Bytes} {offset : Nat}
    (inside : offset + first.length ≤ bytes.length) :
    overwrite (overwrite bytes offset first) (offset + first.length) second
      = overwrite bytes offset (first ++ second) := by
  have start := length_take_append first (Nat.le_of_add_right_le inside)
  have rest : offset + (first ++ second).length = offset + first.length + second.length := by
    rw [List.length_append]
    omega
  have front : overwrite bytes offset first
      = (bytes.take offset ++ first) ++ bytes.drop (offset + first.length) := rfl
  rw [front, overwrite_append_right (Nat.le_of_eq start), start, Nat.sub_self]
  unfold overwrite
  rw [rest, List.take_zero, List.drop_drop]
  simp

-- Writes that do not meet can be made in either order.
theorem overwrite_comm {bytes first second : Bytes} {offset other : Nat}
    (apart : offset + first.length ≤ other) (inside : other ≤ bytes.length) :
    overwrite (overwrite bytes offset first) other second
      = overwrite (overwrite bytes other second) offset first := by
  have front : (bytes.take other).length = other := List.length_take_of_le inside
  have first_inside : offset + first.length ≤ (bytes.take other).length := by rwa [front]
  have written := length_overwrite first_inside
  suffices swapped : ∀ back, overwrite (overwrite (bytes.take other ++ back) offset first) other second
      = overwrite (overwrite (bytes.take other ++ back) other second) offset first by
    have whole := swapped (bytes.drop other)
    rwa [List.take_append_drop] at whole
  intro back
  rw [overwrite_append_left first_inside, overwrite_append_right (by omega),
    overwrite_append_right (by omega), overwrite_append_left first_inside, written]

theorem drop_behind {front back : Bytes} {length : Nat} (same : front.length = length)
    (start : Nat) : (front ++ back).drop (length + start) = back.drop start := by
  rw [← same, List.drop_append]
  simp

theorem drop_overwrite_of_le {bytes new : Bytes} {offset start : Nat} (before : start ≤ offset)
    (inside : offset ≤ bytes.length) :
    (overwrite bytes offset new).drop start = overwrite (bytes.drop start) (offset - start) new := by
  have rest : start + (offset - start + new.length) = offset + new.length := by omega
  unfold overwrite
  rw [List.append_assoc, List.drop_append_of_le_length (by rwa [List.length_take_of_le inside]),
    List.drop_take, List.drop_drop, rest, List.append_assoc]

theorem drop_overwrite_of_ge {bytes new : Bytes} {offset start : Nat}
    (behind : offset + new.length ≤ start) (inside : offset + new.length ≤ bytes.length) :
    (overwrite bytes offset new).drop start = bytes.drop start := by
  have front := length_take_append new (Nat.le_of_add_right_le inside)
  have rest : offset + new.length + (start - (offset + new.length)) = start := by omega
  unfold overwrite
  rw [List.drop_append, List.drop_eq_nil_of_le (by omega), List.nil_append, front, List.drop_drop,
    rest]

theorem take_overwrite_of_le {bytes : Bytes} (new : Bytes) {offset length : Nat} (before : length ≤ offset)
    (inside : offset ≤ bytes.length) :
    (overwrite bytes offset new).take length = bytes.take length := by
  unfold overwrite
  rw [List.append_assoc, List.take_append_of_le_length (by rwa [List.length_take_of_le inside]),
    List.take_take, Nat.min_eq_left before]

theorem take_overwrite_of_ge {bytes new : Bytes} {offset length : Nat}
    (behind : offset + new.length ≤ length) (inside : offset + new.length ≤ bytes.length) :
    (overwrite bytes offset new).take length = overwrite (bytes.take length) offset new := by
  have front := length_take_append new (Nat.le_of_add_right_le inside)
  unfold overwrite
  rw [List.take_append, List.take_of_length_le (by omega), front, List.take_take,
    Nat.min_eq_left (by omega), List.drop_take]

-- Reading after a write: what was written, or what stood there before.

theorem field_overwrite_self {bytes new : Bytes} {offset width : Nat} (same : new.length = width)
    (inside : offset ≤ bytes.length) : field (overwrite bytes offset new) offset width = new := by
  unfold overwrite
  rw [List.append_assoc]
  exact field_between (List.length_take_of_le inside) same

theorem field_overwrite_of_disjoint {bytes new : Bytes} {offset other width : Nat}
    (apart : other + width ≤ offset ∨ offset + new.length ≤ other)
    (inside : offset + new.length ≤ bytes.length) :
    field (overwrite bytes offset new) other width = field bytes other width := by
  rcases apart with before | behind
  · have kept := take_overwrite_of_le new before (by omega : offset ≤ bytes.length)
    rw [← field_take (Nat.le_refl _), kept, field_take (Nat.le_refl _)]
  · unfold field
    rw [drop_overwrite_of_ge behind inside]

theorem number_overwrite_of_disjoint {bytes new : Bytes} {offset other width : Nat}
    (apart : other + width ≤ offset ∨ offset + new.length ≤ other)
    (inside : offset + new.length ≤ bytes.length) :
    number (overwrite bytes offset new) other width = number bytes other width := by
  unfold number
  rw [field_overwrite_of_disjoint apart inside]

theorem word_encodeWord (value : UInt16) : word (encodeWord value) 0 = value := by
  have whole := field_whole (encodeWord value)
  rw [length_encodeWord] at whole
  unfold word number
  rw [whole, decode_encodeWord]
  exact UInt16.ofNat_toNat

theorem encodeWord_word {bytes : Bytes} {offset : Nat} (inside : offset + 2 ≤ bytes.length) :
    encodeWord (word bytes offset) = field bytes offset 2 := by
  have small := number_lt inside
  have kept : (UInt16.ofNat (number bytes offset 2)).toNat = number bytes offset 2 := by
    rw [UInt16.toNat_ofNat']
    exact Nat.mod_eq_of_lt small
  unfold encodeWord word
  rw [kept, encode_number inside]

theorem encodeWord_of_two {bytes : Bytes} (two : bytes.length = 2) :
    encodeWord (word bytes 0) = bytes := by
  rw [encodeWord_word (Nat.le_of_eq two.symm), ← two, field_whole]

theorem words_of_field {bytes : Bytes} {start : Nat} {first second : UInt16}
    (stands : field bytes start 4 = encodeWord first ++ encodeWord second) :
    word bytes start = first ∧ word bytes (start + 2) = second := by
  have front := field_field bytes start (by decide : 0 + 2 ≤ 4)
  have back := field_field bytes start (by decide : 2 + 2 ≤ 4)
  have whole := field_whole (encodeWord second)
  rw [stands, field_prefix (length_encodeWord ..)] at front
  rw [stands, field_append_right (by simp)] at back
  simp only [length_encodeWord, Nat.sub_self] at back whole
  unfold word number
  refine ⟨?_, ?_⟩
  · rw [← Nat.add_zero start, ← front, decode_encodeWord]
    exact UInt16.ofNat_toNat
  · rw [← back, whole, decode_encodeWord]
    exact UInt16.ofNat_toNat

theorem word_of_field {left right : Bytes} {start width offset : Nat}
    (same : field left start width = field right start width) (inside : offset + 2 ≤ width) :
    word left (start + offset) = word right (start + offset) := by
  unfold word number
  rw [← field_field left start inside, ← field_field right start inside, same]

theorem byte_eq_field (bytes : Bytes) (offset : Nat) :
    byte bytes offset = byte (field bytes offset 1) 0 := by
  unfold field byte
  simp only [List.getD_eq_getElem?_getD]
  rw [List.getElem?_take_of_lt Nat.zero_lt_one, List.getElem?_drop, Nat.add_zero]

theorem field_one {bytes : Bytes} {offset : Nat} (inside : offset + 1 ≤ bytes.length) :
    field bytes offset 1 = [byte bytes offset] := by
  obtain ⟨only, run⟩ := List.length_eq_one_iff.mp (length_field inside)
  rw [byte_eq_field, run]
  rfl

theorem field_add (bytes : Bytes) (offset width more : Nat) :
    field bytes offset (width + more) = field bytes offset width ++ field bytes (offset + width) more := by
  unfold field
  rw [List.take_add, List.drop_drop]

theorem byte_overwrite_of_disjoint {bytes new : Bytes} {offset other : Nat}
    (apart : other < offset ∨ offset + new.length ≤ other)
    (inside : offset + new.length ≤ bytes.length) :
    byte (overwrite bytes offset new) other = byte bytes other := by
  rw [byte_eq_field, field_overwrite_of_disjoint apart inside, ← byte_eq_field]

end Nat64Gateway.Wire
