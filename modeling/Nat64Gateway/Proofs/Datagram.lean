import Nat64Gateway.Datagram
import Nat64Gateway.Proofs.Segment

namespace Nat64Gateway.Datagram

def Placement.taken (placement : Placement) (start length : Nat) : Bytes :=
  (placement.buffer.drop start).take length

-- The datagram with a new message behind its header.
def withMessage (segment message : Bytes) : Bytes :=
  Wire.overwrite (segment.take 8 ++ message) 4 (Wire.encode 2 (8 + message.length))

theorem length_withMessage {segment message : Bytes} (header : 8 ≤ segment.length) :
    (withMessage segment message).length = 8 + message.length := by
  have front : (segment.take 8).length = 8 := List.length_take_of_le header
  unfold withMessage
  rw [Wire.length_overwrite] <;> simp only [List.length_append, Wire.length_encode] <;> omega

theorem sound_withMessage {segment message : Bytes} (header : 8 ≤ segment.length)
    (fits : 8 + message.length ≤ maxLength) :
    Segment.Sound ⟨.udp, withMessage segment message⟩ := by
  have length : (withMessage segment message).length = 8 + message.length :=
    length_withMessage header
  refine ⟨?_, ?_⟩
  · simp only [length]
    omega
  · have front : 4 ≤ (segment.take 8 ++ message).length := by
      rw [Wire.length_take_append _ header]
      omega
    simp only [length]
    unfold withMessage Wire.number
    rw [Wire.field_overwrite_self (Wire.length_encode ..) front,
      Wire.decode_encode_two (by unfold maxLength at fits; omega)]

theorem field_withMessage {segment message : Bytes} (header : 8 ≤ segment.length) :
    Wire.field (withMessage segment message) 0 4 = Wire.field segment 0 4 := by
  have front : (segment.take 8).length = 8 := List.length_take_of_le header
  unfold withMessage
  rw [Wire.field_overwrite_of_disjoint (.inl (by decide))
    (by rw [Wire.length_encode, List.length_append]; omega),
    Wire.field_append_left _ (by omega), Wire.field_take (by decide)]

theorem drop_withMessage {segment message : Bytes} (header : 8 ≤ segment.length) :
    (withMessage segment message).drop 8 = message := by
  have front : (segment.take 8).length = 8 := List.length_take_of_le header
  unfold withMessage
  rw [Wire.drop_overwrite_of_ge (by rw [Wire.length_encode]; decide)
    (by rw [Wire.length_encode, List.length_append]; omega), List.drop_left' front]

section Edit

variable {hook : Dns64.Hook} {direction : Dns64.Direction} {buffer segment : Bytes}
  {start length : Nat}

def edited (hook : Dns64.Hook) (direction : Dns64.Direction) (buffer : Bytes) (start length : Nat) :
    Bytes × Nat :=
  hook.edit direction (buffer.drop (start + 8)) (length - 8)

theorem editMessage_of_edited {changed : Bytes} {newSize : Nat}
    (answer : edited hook direction buffer start length = (changed, newSize)) :
    editMessage hook direction buffer start length
      = if (buffer.drop (start + 8)).length < newSize then
          ⟨buffer.take (start + 8) ++ changed, .error .editedExceedsBuffer,
            [.of direction (buffer.drop (start + 8)) (length - 8)]⟩
        else if maxLength < 8 + newSize then
          ⟨buffer.take (start + 8) ++ changed, .error .editedExceedsLength,
            [.of direction (buffer.drop (start + 8)) (length - 8)]⟩
        else
          ⟨Wire.overwrite (buffer.take (start + 8) ++ changed) (start + 4)
            (Wire.encode 2 (8 + newSize)), .ok (8 + newSize),
            [.of direction (buffer.drop (start + 8)) (length - 8)]⟩ := by
  unfold edited at answer
  unfold editMessage
  simp only [answer]

theorem editMessage_length (hook : Dns64.Hook) (direction : Dns64.Direction) (buffer : Bytes)
    (start size : Nat) :
    (editMessage hook direction buffer start size).length
      = if (buffer.drop (start + 8)).length < (edited hook direction buffer start size).2 then
          .error .editedExceedsBuffer
        else if maxLength < 8 + (edited hook direction buffer start size).2 then
          .error .editedExceedsLength
        else .ok (8 + (edited hook direction buffer start size).2) := by
  generalize answer : edited hook direction buffer start size = result
  obtain ⟨changed, newSize⟩ := result
  rw [editMessage_of_edited answer]
  split
  · rfl
  · split <;> rfl

theorem editMessage_calls (hook : Dns64.Hook) (direction : Dns64.Direction) (buffer : Bytes)
    (start size : Nat) :
    (editMessage hook direction buffer start size).calls
      = [.of direction (buffer.drop (start + 8)) (size - 8)] := by
  generalize answer : edited hook direction buffer start size = result
  obtain ⟨changed, newSize⟩ := result
  rw [editMessage_of_edited answer]
  split
  · rfl
  · split <;> rfl

theorem editMessage_eq_ok {size : Nat}
    (placed : (editMessage hook direction buffer start size).length = .ok length) :
    length = 8 + (edited hook direction buffer start size).2 ∧ length ≤ maxLength ∧
      (edited hook direction buffer start size).2 ≤ (buffer.drop (start + 8)).length ∧
      (editMessage hook direction buffer start size).buffer
        = Wire.overwrite
            (buffer.take (start + 8) ++ (edited hook direction buffer start size).1) (start + 4)
            (Wire.encode 2 length) := by
  generalize answer : edited hook direction buffer start size = result
  obtain ⟨changed, newSize⟩ := result
  rw [editMessage_of_edited answer] at placed ⊢
  by_cases overflow : (buffer.drop (start + 8)).length < newSize
  · rw [if_pos overflow] at placed
    cases placed
  rw [if_neg overflow] at placed ⊢
  by_cases long : maxLength < 8 + newSize
  · rw [if_pos long] at placed
    cases placed
  rw [if_neg long] at placed ⊢
  cases placed
  exact ⟨rfl, Nat.not_lt.mp long, Nat.not_lt.mp overflow, rfl⟩

-- Behind the header stands what the hook left, as far as it says.
theorem taken_editMessage (header : 8 ≤ segment.length)
    (stands : Wire.field buffer start segment.length = segment)
    (placed : (editMessage hook direction buffer start segment.length).length = .ok length) :
    (editMessage hook direction buffer start segment.length).taken start length
      = withMessage segment ((edited hook direction buffer start segment.length).1.take
          (edited hook direction buffer start segment.length).2) := by
  obtain ⟨total, _, room, whole⟩ := editMessage_eq_ok placed
  have kept : (edited hook direction buffer start segment.length).1.length
      = (buffer.drop (start + 8)).length := hook.length_edit ..
  generalize edited hook direction buffer start segment.length = result at *
  obtain ⟨changed, size⟩ := result
  simp only at total room whole kept ⊢
  have inside : start + segment.length ≤ buffer.length := by
    have width := congrArg List.length stands
    simp only [Wire.field, List.length_take, List.length_drop] at width
    omega
  have front : ((buffer.take (start + 8)) ++ changed).drop start = segment.take 8 ++ changed := by
    have cut : (buffer.drop start).take 8 = segment.take 8 := by
      rw [← stands]
      unfold Wire.field
      rw [List.take_take, Nat.min_eq_left header]
    rw [List.drop_append_of_le_length (by rw [List.length_take]; omega), List.drop_take,
      Nat.add_sub_cancel_left, cut]
  have head : (segment.take 8).length = 8 := List.length_take_of_le header
  have message : (segment.take 8 ++ changed).take length = segment.take 8 ++ changed.take size := by
    rw [List.take_append, head, total, Nat.add_sub_cancel_left,
      List.take_of_length_le (by omega)]
  have size_eq : (changed.take size).length = size := List.length_take_of_le (kept.symm ▸ room)
  unfold Placement.taken withMessage
  rw [whole, Wire.drop_overwrite_of_le (by omega) (by rw [List.length_append, List.length_take]; omega),
    Nat.add_sub_cancel_left, front, Wire.take_overwrite_of_ge, message, size_eq, ← total]
  · rw [Wire.length_encode]
    omega
  · rw [Wire.length_encode, List.length_append]
    omega

end Edit

-- What placing a segment of this kind leaves at its place.
structure Placed (kind : Segment.Kind) (direction? : Option Dns64.Direction)
    (buffer segment : Bytes) (start : Nat) (placement : Placement) (length : Nat) : Prop where
  inside : start + length ≤ buffer.length
  fits : length ≤ maxLength
  length_taken : (placement.taken start length).length = length
  sound : Segment.Sound ⟨kind, placement.taken start length⟩
  ports : Wire.field (placement.taken start length) 0 4 = Wire.field segment 0 4
  answer : placement.length = .ok length
  unedited : direction? = none → placement.taken start length = segment

-- A message may shrink to nothing, but its header stays.
theorem Placed.length_ge {kind : Segment.Kind} {direction? : Option Dns64.Direction}
    {buffer segment : Bytes} {start : Nat} {placement : Placement} {length : Nat}
    (placed : Placed kind direction? buffer segment start placement length)
    (carrier : direction?.isSome → kind = .udp) (header : 8 ≤ segment.length) : 8 ≤ length := by
  cases direction? with
  | none =>
    have same := placed.length_taken
    rw [placed.unedited rfl] at same
    omega
  | some direction =>
    cases carrier rfl
    have long : 8 ≤ (placement.taken start length).length := placed.sound.1
    rwa [placed.length_taken] at long

-- The hook works behind the ports.
theorem Placed.same_ports {kind : Segment.Kind} {direction? : Option Dns64.Direction}
    {buffer segment : Bytes} {start : Nat} {placement : Placement} {length : Nat}
    (placed : Placed kind direction? buffer segment start placement length) :
    Segment.sourcePort? ⟨kind, placement.taken start length⟩ = Segment.sourcePort? ⟨kind, segment⟩ ∧
      Segment.destinationPort? ⟨kind, placement.taken start length⟩
        = Segment.destinationPort? ⟨kind, segment⟩ :=
  Segment.ports_of_field placed.ports

section Place

variable {hook : Dns64.Hook} {direction? : Option Dns64.Direction} {kind : Segment.Kind}
  {buffer segment : Bytes} {start length : Nat}

theorem place_eq_ok (sound : Segment.Sound ⟨kind, segment⟩)
    (carrier : direction?.isSome → kind = .udp) (short : segment.length ≤ maxLength)
    (fits : start + segment.length ≤ buffer.length)
    (placed : (place hook direction? buffer start segment).length = .ok length) :
    Placed kind direction? buffer segment start (place hook direction? buffer start segment)
      length := by
  have written := Wire.length_overwrite fits
  have stands : Wire.field (Wire.overwrite buffer start segment) start segment.length = segment :=
    Wire.field_overwrite_self rfl (by omega)
  cases direction? with
  | none =>
    cases placed
    have taken : (place hook none buffer start segment).taken start segment.length = segment :=
      stands
    exact ⟨fits, short, by rw [taken], by rw [taken]; exact sound, by rw [taken], rfl, fun _ => taken⟩
  | some direction =>
    cases carrier rfl
    have header : 8 ≤ segment.length := sound.1
    have taken : (place hook (some direction) buffer start segment).taken start length
        = withMessage segment _ := taken_editMessage header stands placed
    obtain ⟨total, small, room, _⟩ := editMessage_eq_ok placed
    have kept : (edited hook direction (Wire.overwrite buffer start segment) start
        segment.length).1.length = ((Wire.overwrite buffer start segment).drop (start + 8)).length :=
      hook.length_edit ..
    generalize edited hook direction (Wire.overwrite buffer start segment) start segment.length
      = result at taken total room kept
    obtain ⟨changed, size⟩ := result
    have message : (changed.take size).length = size := List.length_take_of_le (kept.symm ▸ room)
    rw [List.length_drop, written] at room
    refine ⟨by omega, small, ?_, ?_, ?_, placed, nofun⟩
    · rw [taken, length_withMessage header, message, total]
    · rw [taken]
      exact sound_withMessage header (by rw [message, ← total]; exact small)
    · rw [taken]
      exact field_withMessage header

-- The message of a sound datagram stays, and its length field already says so.
theorem place_passthrough (sound : Segment.Sound ⟨kind, segment⟩)
    (carrier : direction?.isSome → kind = .udp) (fits : start + segment.length ≤ buffer.length) :
    (place Dns64.passthrough direction? buffer start segment).length = .ok segment.length ∧
      (place Dns64.passthrough direction? buffer start segment).buffer
        = Wire.overwrite buffer start segment := by
  cases direction? with
  | none => exact ⟨rfl, rfl⟩
  | some direction =>
    cases carrier rfl
    obtain ⟨header, stated⟩ := sound
    simp only at header stated
    have number := Wire.number_lt (by omega : 4 + 2 ≤ segment.length)
    have written := Wire.length_overwrite fits
    have whole : 8 + (segment.length - 8) = segment.length := by omega
    have field : Wire.field (Wire.overwrite buffer start segment) (start + 4) 2
        = Wire.encode 2 segment.length := by
      have inner := Wire.field_field (Wire.overwrite buffer start segment) start
        (by omega : 4 + 2 ≤ segment.length)
      rw [Wire.field_overwrite_self rfl (by omega)] at inner
      rw [← inner, ← stated, Wire.encode_number (by omega)]
    unfold place editMessage Dns64.passthrough
    simp only
    rw [if_neg (by rw [List.length_drop, written]; omega),
      if_neg (by rw [whole]; unfold maxLength; omega), whole, List.take_append_drop]
    exact ⟨rfl, Wire.overwrite_field (by rw [Wire.length_encode, field])⟩

theorem taken_passthrough (sound : Segment.Sound ⟨kind, segment⟩)
    (carrier : direction?.isSome → kind = .udp) (fits : start + segment.length ≤ buffer.length) :
    (place Dns64.passthrough direction? buffer start segment).taken start segment.length
      = segment := by
  unfold Placement.taken
  rw [(place_passthrough sound carrier fits).2]
  exact Wire.field_overwrite_self rfl (by omega)

end Place
end Nat64Gateway.Datagram
