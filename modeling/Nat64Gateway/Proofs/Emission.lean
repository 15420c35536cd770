import Nat64Gateway.Nat64.Translation
import Nat64Gateway.Proofs.Datagram
import Nat64Gateway.Proofs.Packet.Reading

namespace Nat64Gateway

namespace Outcome

variable {outcome : Outcome} {front : Bytes} {n : Nat}

theorem packet_of_front {rest : Bytes} (verdict : outcome.verdict = .emitted n)
    (buffer_eq : outcome.buffer = front ++ rest) (total : front.length = n) :
    outcome.packet = front := by
  unfold packet length
  rw [verdict, buffer_eq]
  exact List.take_left' total

theorem length_le_of_front {rest : Bytes} (verdict : outcome.verdict = .emitted n)
    (buffer_eq : outcome.buffer = front ++ rest) (total : front.length = n) :
    outcome.length ≤ outcome.buffer.length := by
  unfold length
  rw [verdict, buffer_eq, List.length_append, total]
  exact Nat.le_add_right ..

theorem length_of_front {old : Bytes} (buffer_eq : outcome.buffer = front ++ old.drop n)
    (total : front.length = n) (inside : n ≤ old.length) :
    outcome.buffer.length = old.length := by
  rw [buffer_eq, List.length_append, total, List.length_drop, Nat.add_sub_cancel' inside]

end Outcome

namespace Nat64

variable {target : Family}

theorem identify_fst (target : Family) (nextId : UInt16) : (identify target nextId).1 = nextId := by
  cases target <;> rfl

namespace Plan

structure Ready (plan : Plan target) (kind : Segment.Kind) (capacity : Nat) : Prop where
  named : kind.protocol = plan.protocol
  sound : Segment.Sound ⟨kind, plan.segment⟩
  carrier : plan.message.isSome → kind = .udp
  long : 8 ≤ plan.segment.length
  short : plan.segment.length ≤ Datagram.maxLength
  room : target.headerLength + plan.segment.length ≤ capacity

def taken (plan : Plan target) (hook : Dns64.Hook) (buffer : Bytes) (length : Nat) : Bytes :=
  (plan.place hook buffer).taken target.headerLength length

-- How long the segment is in the end, if it may stay where it was placed.
def size (plan : Plan target) (hook : Dns64.Hook) (buffer : Bytes) : Except Drop Nat :=
  match (plan.place hook buffer).length with
  | .error cause => .error cause
  | .ok length =>
    if Datagram.maxLength < target.counted + length then .error (exceedsLength target)
    else .ok length

-- A packet as it stands at the front of the output buffer.
structure Emission (plan : Plan target) (kind : Segment.Kind) (hook : Dns64.Hook)
    (nextId : UInt16) (buffer : Bytes) (outcome : Outcome) (length : Nat) : Prop where
  placed : Datagram.Placed kind plan.message buffer plan.segment target.headerLength
    (plan.place hook buffer) length
  carries : (plan.header nextId length).Carries kind (plan.taken hook buffer length)
  verdict : outcome.verdict = .emitted (target.headerLength + length)
  buffer_eq : outcome.buffer
    = (plan.header nextId length).written kind (plan.taken hook buffer length)
      ++ (plan.place hook buffer).buffer.drop (target.headerLength + length)
  nextId_eq : outcome.nextId = (identify target nextId).2

variable {plan : Plan target} {kind : Segment.Kind} {hook : Dns64.Hook} {nextId : UInt16}
  {buffer : Bytes} {outcome : Outcome} {length n : Nat}

theorem size_eq_ok : plan.size hook buffer = .ok length ↔
    (plan.place hook buffer).length = .ok length ∧
      target.counted + length ≤ Datagram.maxLength := by
  unfold size
  cases (plan.place hook buffer).length with
  | error cause => simp
  | ok found =>
    dsimp only
    rw [passed_iff, Except.ok.injEq, Nat.not_lt]
    constructor
    · rintro ⟨fits, rfl⟩
      exact ⟨rfl, fits⟩
    · rintro ⟨rfl, fits⟩
      exact ⟨fits, rfl⟩

theorem header_carries {segment : Bytes} (identification : UInt16)
    (named : kind.protocol = plan.protocol) (sound : Segment.Sound ⟨kind, segment⟩)
    (size : segment.length = length) (fits : target.counted + length ≤ Datagram.maxLength) :
    (plan.header identification length).Carries kind segment := by
  cases target with
  | v4 => exact ⟨sound, named, congrArg (20 + ·) size.symm, fits⟩
  | v6 =>
    rw [Family.counted, Nat.zero_add] at fits
    exact ⟨sound, named, size.symm, fits⟩

-- What was placed and is given up stays where it is, and uses up no identification.
theorem emit_refused {cause : Drop} (nextId : UInt16)
    (refused : plan.size hook buffer = .error cause) :
    plan.emit hook nextId buffer
      = { Outcome.refuse (plan.place hook buffer).buffer nextId cause with
          calls := (plan.place hook buffer).calls } := by
  unfold size at refused
  unfold emit finish
  cases placed : (plan.place hook buffer).length with
  | error reason =>
    rw [placed] at refused
    cases refused
    rfl
  | ok length =>
    rw [placed] at refused
    dsimp only at refused ⊢
    split at refused
    · rename_i long
      cases refused
      rw [if_pos long]
    · cases refused

theorem emission (nextId : UInt16) (ready : plan.Ready kind buffer.length)
    (sized : plan.size hook buffer = .ok length) :
    plan.Emission kind hook nextId buffer (plan.emit hook nextId buffer) length := by
  obtain ⟨placed, fits⟩ := size_eq_ok.mp sized
  have stands : Datagram.Placed kind plan.message buffer plan.segment target.headerLength
      (plan.place hook buffer) length :=
    Datagram.place_eq_ok ready.sound ready.carrier ready.short ready.room placed
  have carries : (plan.header nextId length).Carries kind (plan.taken hook buffer length) :=
    header_carries nextId ready.named stands.sound stands.length_taken fits
  unfold emit finish
  simp only [placed, if_neg (Nat.not_lt.mpr fits), identify_fst]
  exact ⟨stands, carries, rfl, congrArg (· ++ _) carries.assemble_eq, rfl⟩

theorem emit_verdict_iff : (plan.emit hook nextId buffer).verdict = .emitted n ↔
    ∃ length, plan.size hook buffer = .ok length ∧ n = target.headerLength + length := by
  cases sized : plan.size hook buffer with
  | error cause =>
    rw [emit_refused nextId sized]
    exact ⟨nofun, nofun⟩
  | ok length =>
    obtain ⟨placed, fits⟩ := size_eq_ok.mp sized
    unfold emit finish
    simp only [placed, if_neg (Nat.not_lt.mpr fits)]
    constructor
    · intro emitted
      cases emitted
      exact ⟨length, rfl, rfl⟩
    · rintro ⟨_, same, rfl⟩
      cases same
      rfl

theorem emit_emitted (ready : plan.Ready kind buffer.length)
    (emitted : (plan.emit hook nextId buffer).verdict = .emitted n) :
    ∃ length, n = target.headerLength + length ∧
      plan.Emission kind hook nextId buffer (plan.emit hook nextId buffer) length := by
  obtain ⟨length, sized, total⟩ := emit_verdict_iff.mp emitted
  exact ⟨length, total, emission nextId ready sized⟩

theorem emit_calls : (plan.emit hook nextId buffer).calls = (plan.place hook buffer).calls := by
  cases sized : plan.size hook buffer with
  | error cause => rw [emit_refused nextId sized]
  | ok length =>
    obtain ⟨placed, fits⟩ := size_eq_ok.mp sized
    unfold emit finish
    simp only [placed, if_neg (Nat.not_lt.mpr fits)]

theorem Ready.length_place (ready : plan.Ready kind buffer.length) :
    (plan.place hook buffer).buffer.length = buffer.length :=
  Datagram.length_place ready.room fun _ => ready.long

namespace Emission

theorem relog (emission : plan.Emission kind hook nextId buffer outcome length)
    (log : List Log.Line) :
    plan.Emission kind hook nextId buffer { outcome with log } length :=
  ⟨emission.placed, emission.carries, emission.verdict, emission.buffer_eq, emission.nextId_eq⟩

theorem length_front (emission : plan.Emission kind hook nextId buffer outcome length) :
    ((plan.header nextId length).written kind (plan.taken hook buffer length)).length
      = target.headerLength + length :=
  emission.carries.length_written.trans
    (congrArg (target.headerLength + ·) emission.placed.length_taken)

theorem packet_eq (emission : plan.Emission kind hook nextId buffer outcome length) :
    outcome.packet = (plan.header nextId length).written kind (plan.taken hook buffer length) :=
  Outcome.packet_of_front emission.verdict emission.buffer_eq emission.length_front

theorem packet_eq_v4 {plan : Plan .v4}
    (emission : plan.Emission kind hook nextId buffer outcome length) :
    outcome.packet
      = ((plan.header nextId length).packet kind (plan.taken hook buffer length)).bytes :=
  emission.packet_eq

theorem packet_eq_v6 {plan : Plan .v6}
    (emission : plan.Emission kind hook nextId buffer outcome length) :
    outcome.packet
      = ((plan.header nextId length).packet kind (plan.taken hook buffer length)).bytes :=
  emission.packet_eq

theorem read_v4 {plan : Plan .v4}
    (emission : plan.Emission kind hook nextId buffer outcome length) :
    Packet.V4.read outcome.packet
      = .ok ((plan.header nextId length).packet kind (plan.taken hook buffer length)) := by
  rw [emission.packet_eq_v4]
  exact emission.carries.read_packet

theorem read_v6 {plan : Plan .v6}
    (emission : plan.Emission kind hook nextId buffer outcome length) :
    Packet.V6.read outcome.packet
      = .ok ((plan.header nextId length).packet kind (plan.taken hook buffer length)) := by
  rw [emission.packet_eq_v6]
  exact emission.carries.read_packet

theorem length_le (emission : plan.Emission kind hook nextId buffer outcome length) :
    outcome.length ≤ outcome.buffer.length :=
  Outcome.length_le_of_front emission.verdict emission.buffer_eq emission.length_front

-- The rest of the buffer is the rest of what the segment was placed in.
theorem length_buffer (emission : plan.Emission kind hook nextId buffer outcome length)
    (kept : (plan.place hook buffer).buffer.length = buffer.length) :
    outcome.buffer.length = buffer.length := by
  have inside := emission.placed.inside
  rw [← kept] at inside ⊢
  exact Outcome.length_of_front emission.buffer_eq emission.length_front inside

end Emission

theorem emit_length_buffer (nextId : UInt16) (ready : plan.Ready kind buffer.length) :
    (plan.emit hook nextId buffer).buffer.length = buffer.length := by
  cases sized : plan.size hook buffer with
  | error cause =>
    rw [emit_refused nextId sized]
    exact ready.length_place
  | ok length => exact (emission nextId ready sized).length_buffer ready.length_place

theorem length_emit_le (nextId : UInt16) (ready : plan.Ready kind buffer.length) :
    (plan.emit hook nextId buffer).length ≤ (plan.emit hook nextId buffer).buffer.length := by
  cases sized : plan.size hook buffer with
  | error cause =>
    rw [emit_refused nextId sized]
    exact Nat.zero_le _
  | ok length => exact (emission nextId ready sized).length_le

section Passthrough

variable (ready : plan.Ready kind buffer.length)
include ready

theorem length_passthrough :
    (plan.place Dns64.passthrough buffer).length = .ok plan.segment.length :=
  (Datagram.place_passthrough ready.sound ready.carrier ready.room).1

theorem taken_passthrough :
    plan.taken Dns64.passthrough buffer plan.segment.length = plan.segment :=
  Datagram.taken_passthrough ready.sound ready.carrier ready.room

theorem emit_passthrough_iff : (plan.emit Dns64.passthrough nextId buffer).verdict = .emitted n ↔
    n = target.headerLength + plan.segment.length ∧
      target.counted + plan.segment.length ≤ Datagram.maxLength := by
  simp only [emit_verdict_iff, size_eq_ok, length_passthrough ready, Except.ok.injEq]
  constructor
  · rintro ⟨_, ⟨rfl, fits⟩, total⟩
    exact ⟨total, fits⟩
  · rintro ⟨total, fits⟩
    exact ⟨_, ⟨rfl, fits⟩, total⟩

theorem packet_passthrough (nextId : UInt16)
    (fits : target.counted + plan.segment.length ≤ Datagram.maxLength) :
    (plan.emit Dns64.passthrough nextId buffer).packet
      = (plan.header nextId plan.segment.length).written kind plan.segment := by
  have packet_eq := (emission nextId ready
    (size_eq_ok.mpr ⟨length_passthrough ready, fits⟩)).packet_eq
  rwa [taken_passthrough ready] at packet_eq

end Passthrough
end Plan
end Nat64
end Nat64Gateway
