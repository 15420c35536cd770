import Nat64Gateway.Proofs.Datagram
import Nat64Gateway.Proofs.Guarded.Checksum
import Nat64Gateway.Proofs.Packet.Header

namespace Nat64Gateway.Guarded

theorem copy_tail {bytes new : Bytes} {start : Nat} (same : start + new.length = bytes.length) :
    copy bytes start bytes.length new = .ok (bytes.take start ++ new) := by
  rw [copy_eq same (Nat.le_refl _), Wire.overwrite, same, List.drop_length, List.append_nil]

-- `udp` is all of the buffer from the datagram's first byte on.
def editMessage (hook : Dns64.Hook) (direction : Dns64.Direction) (udp : Bytes) (length : Nat) :
    Checked Datagram.Placement := do
  let room ← sliceFrom udp 8
  let size ← minus length 8
  let (changed, newSize) := hook.edit direction room size
  let udp ← copy udp 8 udp.length changed
  let calls := [Dns64.Call.of direction room size]
  if room.length < newSize then .ok ⟨udp, .error .editedExceedsBuffer, calls⟩
  else if Datagram.maxLength < 8 + newSize then .ok ⟨udp, .error .editedExceedsLength, calls⟩
  else do
    let stored ← narrow (8 + newSize)
    let udp ← copy udp 4 6 (Wire.encodeWord stored)
    .ok ⟨udp, .ok (8 + newSize), calls⟩

def retype (type? : Option UInt8) (bytes : Bytes) (start : Nat) : Checked Bytes :=
  match type? with
  | none => .ok bytes
  | some type => put bytes start type

def edit (hook : Dns64.Hook) (direction? : Option Dns64.Direction) (buffer : Bytes)
    (start length : Nat) : Checked Datagram.Placement :=
  match direction? with
  | none => .ok ⟨buffer, .ok length, []⟩
  | some direction => do
    let udp ← sliceFrom buffer start
    let edited ← editMessage hook direction udp length
    let buffer ← copy buffer start buffer.length edited.buffer
    .ok { edited with buffer }

def place (hook : Dns64.Hook) (direction? : Option Dns64.Direction) (buffer : Bytes) (start : Nat)
    (segment : Bytes) (type? : Option UInt8) : Checked Datagram.Placement := do
  let buffer ← copy buffer start (start + segment.length) segment
  let buffer ← retype type? buffer start
  edit hook direction? buffer start segment.length

def withType (type? : Option UInt8) (segment : Bytes) : Bytes :=
  match type? with
  | none => segment
  | some type => Wire.overwrite segment 0 [type]

section Placing

variable {hook : Dns64.Hook} {direction : Dns64.Direction} {direction? : Option Dns64.Direction}
  {buffer segment : Bytes} {start length : Nat}

-- What lies ahead of the datagram stays as it is.
theorem take_editMessage (room : start + 8 ≤ buffer.length) :
    (Datagram.editMessage hook direction buffer start length).buffer.take start
      = buffer.take start := by
  have front : (buffer.take (start + 8)).take start = buffer.take start := by
    rw [List.take_take, Nat.min_eq_left (Nat.le_add_right ..)]
  have width : (buffer.take (start + 8)).length = start + 8 := List.length_take_of_le room
  have kept : ∀ changed : Bytes,
      (buffer.take (start + 8) ++ changed).take start = buffer.take start := by
    intro changed
    rw [List.take_append_of_le_length (by omega), front]
  unfold Datagram.editMessage
  dsimp only
  split
  · exact kept _
  · split
    · exact kept _
    · exact (Wire.take_overwrite_of_le _ (Nat.le_add_right ..)
        (by rw [List.length_append]; omega)).trans (kept _)

-- The message is written over by what the hook made of it.
theorem copy_message {changed : Bytes} (room : start + 8 ≤ buffer.length)
    (kept : changed.length = buffer.length - (start + 8)) :
    copy (buffer.drop start) 8 (buffer.drop start).length changed
      = .ok ((buffer.take (start + 8) ++ changed).drop start) := by
  have width : (buffer.take (start + 8)).length = start + 8 := List.length_take_of_le room
  have behind : (buffer.take (start + 8) ++ changed).drop start
      = (buffer.drop start).take 8 ++ changed := by
    rw [List.drop_append_of_le_length (by omega), List.drop_take, Nat.add_sub_cancel_left]
  rw [behind, copy_tail (by rw [List.length_drop, kept]; omega)]

theorem copy_size {size : Nat} (room : start + 8 ≤ buffer.length) (fits : size < 65536) :
    copy (buffer.drop start) 4 6 (Wire.encodeWord (UInt16.ofNat size))
      = .ok ((Wire.overwrite buffer (start + 4) (Wire.encode 2 size)).drop start) := by
  rw [encodeWord_narrowed fits,
    copy_eq (by rw [Wire.length_encode]) (by rw [List.length_drop]; omega),
    Wire.drop_overwrite_of_le (Nat.le_add_right ..) (by omega), Nat.add_sub_cancel_left]

theorem editMessage_eq (room : start + 8 ≤ buffer.length) (header : 8 ≤ length) :
    editMessage hook direction (buffer.drop start) length
      = .ok { Datagram.editMessage hook direction buffer start length with
          buffer := (Datagram.editMessage hook direction buffer start length).buffer.drop start } := by
  have inside : 8 ≤ (buffer.drop start).length := by
    rw [List.length_drop]
    omega
  have kept := hook.length_edit direction (buffer.drop (start + 8)) (length - 8)
  generalize answer : hook.edit direction (buffer.drop (start + 8)) (length - 8) = edited at kept
  obtain ⟨changed, newSize⟩ := edited
  unfold editMessage
  rw [Datagram.editMessage_of_edited answer, sliceFrom_eq inside, ok_bind, minus_eq header, ok_bind,
    List.drop_drop, answer]
  dsimp only at kept ⊢
  rw [copy_message room (by rw [kept, List.length_drop]), ok_bind]
  by_cases overflow : (buffer.drop (start + 8)).length < newSize
  · simp only [if_pos overflow]
  simp only [if_neg overflow]
  by_cases long : Datagram.maxLength < 8 + newSize
  · simp only [if_pos long]
  simp only [if_neg long]
  have fits : 8 + newSize < 65536 := Nat.lt_succ_of_le (Nat.not_lt.mp long)
  have whole : (buffer.take (start + 8) ++ changed).length = buffer.length := by
    rw [Wire.length_take_append _ room, kept, List.length_drop, Nat.add_sub_cancel' room]
  rw [narrow_eq fits, ok_bind, copy_size (by rwa [whole]) fits, ok_bind]

theorem edit_eq (room : start + segment.length ≤ buffer.length)
    (header : direction?.isSome → 8 ≤ segment.length) :
    edit hook direction? (Wire.overwrite buffer start segment) start segment.length
      = .ok (Datagram.place hook direction? buffer start segment) := by
  have size := Wire.length_overwrite room
  unfold edit Datagram.place
  cases direction? with
  | none => rfl
  | some direction =>
    have message : 8 ≤ segment.length := header rfl
    generalize Wire.overwrite buffer start segment = placed at size
    have inside : start + 8 ≤ placed.length := by omega
    have kept : (Datagram.editMessage hook direction placed start segment.length).buffer.length
        = placed.length := Datagram.length_editMessage inside
    have front : (Datagram.editMessage hook direction placed start segment.length).buffer.take start
        = placed.take start := take_editMessage inside
    dsimp only
    rw [sliceFrom_eq (by omega), ok_bind, editMessage_eq inside message, ok_bind]
    dsimp only
    rw [copy_tail (by rw [List.length_drop, kept]; omega), ok_bind, ← front, List.take_append_drop]

theorem length_withType {type? : Option UInt8} (present : 1 ≤ segment.length) :
    (withType type? segment).length = segment.length := by
  cases type? with
  | none => rfl
  | some type => exact Wire.length_overwrite present

theorem length_of_withType {type? : Option UInt8} (long : 8 ≤ (withType type? segment).length) :
    8 ≤ segment.length := by
  cases type? with
  | none => exact long
  | some type =>
    simp only [withType, Wire.overwrite, List.length_append, List.length_take, List.length_drop,
      List.length_singleton] at long
    omega

theorem retype_eq {type? : Option UInt8} (room : start + segment.length ≤ buffer.length)
    (present : 1 ≤ segment.length) :
    retype type? (Wire.overwrite buffer start segment) start
      = .ok (Wire.overwrite buffer start (withType type? segment)) := by
  cases type? with
  | none => rfl
  | some type =>
    have size := Wire.length_overwrite room
    have inner : Wire.overwrite (Wire.overwrite buffer start segment) (start + 0) [type]
        = Wire.overwrite buffer start (Wire.overwrite segment 0 [type]) :=
      Wire.overwrite_inner (by omega) present
    unfold retype
    dsimp only
    rw [put_eq (by omega)]
    exact congrArg Except.ok inner

theorem place_eq {type? : Option UInt8} (long : 8 ≤ (withType type? segment).length)
    (room : start + (withType type? segment).length ≤ buffer.length) :
    place hook direction? buffer start segment type?
      = .ok (Datagram.place hook direction? buffer start (withType type? segment)) := by
  have header : 8 ≤ segment.length := length_of_withType long
  have present : 1 ≤ segment.length := Nat.le_trans (by decide) header
  have size : (withType type? segment).length = segment.length := length_withType present
  have inside : start + segment.length ≤ buffer.length := by rwa [← size]
  unfold place
  rw [copy_eq rfl inside, ok_bind, retype_eq inside present, ok_bind, ← size]
  exact edit_eq room fun _ => long

end Placing
end Nat64Gateway.Guarded
