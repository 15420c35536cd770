import Nat64Gateway.Outcome

namespace Nat64Gateway.Datagram

-- The segment's length once it is in place, or why it cannot stay there.
structure Placement where
  buffer : Bytes
  length : Except Drop Nat
  calls : List Dns64.Call

def maxLength : Nat := 65535

-- The UDP datagram starts at `start` and is `length` bytes long.
def editMessage (hook : Dns64.Hook) (direction : Dns64.Direction) (buffer : Bytes)
    (start length : Nat) : Placement :=
  let room := buffer.drop (start + 8)
  let (changed, newLength) := hook.edit direction room (length - 8)
  let buffer := buffer.take (start + 8) ++ changed
  let calls := [Dns64.Call.of direction room (length - 8)]
  if room.length < newLength then ⟨buffer, .error .editedExceedsBuffer, calls⟩
  else if maxLength < 8 + newLength then ⟨buffer, .error .editedExceedsLength, calls⟩
  else
    let field := Wire.encode 2 (8 + newLength)
    ⟨Wire.overwrite buffer (start + 4) field, .ok (8 + newLength), calls⟩

-- A segment that carries no DNS message has no direction.
def place (hook : Dns64.Hook) (direction? : Option Dns64.Direction) (buffer : Bytes) (start : Nat)
    (segment : Bytes) : Placement :=
  let buffer := Wire.overwrite buffer start segment
  match direction? with
  | none => ⟨buffer, .ok segment.length, []⟩
  | some direction => editMessage hook direction buffer start segment.length

theorem length_editMessage {hook : Dns64.Hook} {direction : Dns64.Direction} {buffer : Bytes}
    {start length : Nat} (room : start + 8 ≤ buffer.length) :
    (editMessage hook direction buffer start length).buffer.length = buffer.length := by
  have kept := hook.length_edit direction (buffer.drop (start + 8)) (length - 8)
  have whole : (buffer.take (start + 8) ++
      (hook.edit direction (buffer.drop (start + 8)) (length - 8)).1).length = buffer.length := by
    rw [List.length_append, kept, List.length_take, List.length_drop]
    omega
  unfold editMessage
  dsimp only
  split
  · exact whole
  · split
    · exact whole
    · exact (Wire.length_overwrite (by rw [whole, Wire.length_encode]; omega)).trans whole

theorem length_place {hook : Dns64.Hook} {direction? : Option Dns64.Direction}
    {buffer segment : Bytes} {start : Nat} (fits : start + segment.length ≤ buffer.length)
    (header : direction?.isSome → 8 ≤ segment.length) :
    (place hook direction? buffer start segment).buffer.length = buffer.length := by
  have placed := Wire.length_overwrite fits
  unfold place
  cases direction? with
  | none => exact placed
  | some direction =>
    have enough := header rfl
    exact (length_editMessage (by omega)).trans placed

end Nat64Gateway.Datagram
