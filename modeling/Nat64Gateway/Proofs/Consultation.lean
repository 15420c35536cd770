import Nat64Gateway.Proofs.Nat64.Translation
import Nat64Gateway.Proofs.Packet.Ends

namespace Nat64Gateway

namespace Dns64

-- What a hook finds: the message, and behind it what the buffer held before.
def roomOf (buffer message : Bytes) (start : Nat) : Bytes :=
  message ++ buffer.drop (start + message.length)

def Hook.answer (hook : Hook) (direction : Direction) (buffer message : Bytes) (start : Nat) :
    Bytes × Nat :=
  hook.edit direction (roomOf buffer message start) message.length

namespace Direction

def into : Family → Direction
  | .v4 => .query
  | .v6 => .response

def headerLength : Direction → Nat
  | .query => 20
  | .response => 40

def start (direction : Direction) : Nat :=
  direction.headerLength + 8

-- The longest packet whose length can be stated: it counts from the first byte in IPv4, and from
-- behind the header in IPv6.
def most : Direction → Nat
  | .query => 65535
  | .response => 40 + 65535

-- The length fields of a packet with a UDP header in front of its message, and the rest of it.
def Restated : Direction → Bytes → Prop
  | .query, packet =>
    Wire.number packet 2 2 = packet.length ∧ Wire.number packet 24 2 = packet.length - 20 ∧
      ∃ sent, Packet.V4.WellFormed packet sent
  | .response, packet =>
    Wire.number packet 4 2 = packet.length - 40 ∧ Wire.number packet 44 2 = packet.length - 40 ∧
      ∃ restored, Packet.V6.WellFormed packet restored

end Direction

structure Message where
  front : Nat
  bytes : Bytes

end Dns64

namespace Datagram

section Place

variable {hook other : Dns64.Hook} {direction : Dns64.Direction} {buffer segment : Bytes}
  {start length : Nat}

theorem drop_placed (header : 8 ≤ segment.length) (fits : start + segment.length ≤ buffer.length) :
    (Wire.overwrite buffer start segment).drop (start + 8)
      = Dns64.roomOf buffer (segment.drop 8) (start + 8) := by
  have front : (buffer.take start).length = start := List.length_take_of_le (by omega)
  have message : start + 8 + (segment.drop 8).length = start + segment.length := by
    rw [List.length_drop]
    omega
  unfold Wire.overwrite Dns64.roomOf
  rw [message, List.append_assoc, Wire.drop_behind front,
    List.drop_append_of_le_length header]

theorem edited_placed (header : 8 ≤ segment.length)
    (fits : start + segment.length ≤ buffer.length) :
    edited hook direction (Wire.overwrite buffer start segment) start segment.length
      = hook.answer direction buffer (segment.drop 8) (start + 8) := by
  unfold edited Dns64.Hook.answer
  rw [drop_placed header fits, List.length_drop]

theorem place_calls (header : 8 ≤ segment.length)
    (fits : start + segment.length ≤ buffer.length) :
    (place hook (some direction) buffer start segment).calls
      = [⟨direction, (segment.drop 8).length, buffer.length - (start + 8), segment.drop 8⟩] := by
  have room : ((Wire.overwrite buffer start segment).drop (start + 8)).length
      = buffer.length - (start + 8) := by
    rw [List.length_drop, Wire.length_overwrite fits]
  unfold place
  rw [editMessage_calls]
  unfold Dns64.Call.of
  rw [room, drop_placed header fits, ← List.length_drop]
  unfold Dns64.roomOf
  rw [List.take_left]

-- The answer is taken if there is room for it, in the buffer and in the length field.
theorem place_length_iff (header : 8 ≤ segment.length)
    (fits : start + segment.length ≤ buffer.length) :
    (place hook (some direction) buffer start segment).length = .ok length ↔
      length = 8 + (hook.answer direction buffer (segment.drop 8) (start + 8)).2 ∧
        start + length ≤ buffer.length ∧ length ≤ maxLength := by
  unfold place
  rw [editMessage_length, edited_placed header fits, passed_iff, passed_iff, Except.ok.injEq,
    List.length_drop, Wire.length_overwrite fits]
  constructor
  · rintro ⟨room, short, rfl⟩
    exact ⟨rfl, by omega, Nat.not_lt.mp short⟩
  · rintro ⟨rfl, room, short⟩
    exact ⟨by omega, Nat.not_lt.mpr short, rfl⟩

theorem place_message (header : 8 ≤ segment.length)
    (fits : start + segment.length ≤ buffer.length)
    (placed : (place hook (some direction) buffer start segment).length = .ok length) :
    ((place hook (some direction) buffer start segment).taken start length).drop 8
      = (hook.answer direction buffer (segment.drop 8) (start + 8)).1.take
          (hook.answer direction buffer (segment.drop 8) (start + 8)).2 := by
  have stands : Wire.field (Wire.overwrite buffer start segment) start segment.length = segment :=
    Wire.field_overwrite_self rfl (by omega)
  have message := congrArg (List.drop 8) (taken_editMessage header stands placed)
  rwa [drop_withMessage header, edited_placed header fits] at message

-- A writer that has not asked the hook has put the segment where it belongs, and that is all.
theorem place_unasked {direction? : Option Dns64.Direction}
    (unasked : (place hook direction? buffer start segment).calls = []) :
    direction? = none ∧ place hook direction? buffer start segment
      = ⟨Wire.overwrite buffer start segment, .ok segment.length, []⟩ := by
  cases direction? with
  | none => exact ⟨rfl, rfl⟩
  | some direction =>
    unfold place at unasked
    rw [editMessage_calls] at unasked
    cases unasked

theorem place_congr (header : 8 ≤ segment.length)
    (fits : start + segment.length ≤ buffer.length)
    (same : other.answer direction buffer (segment.drop 8) (start + 8)
      = hook.answer direction buffer (segment.drop 8) (start + 8)) :
    place other (some direction) buffer start segment
      = place hook (some direction) buffer start segment := by
  rw [← edited_placed header fits, ← edited_placed header fits] at same
  unfold place
  generalize answered : edited hook direction (Wire.overwrite buffer start segment) start
    segment.length = result at same
  simp only [editMessage_of_edited answered, editMessage_of_edited same]

end Place
end Datagram

-- How a packet and a hook go together, where `handle` deals with the packet by means of the hook.
inductive Consults (direction : Dns64.Direction) (carried? : Option Dns64.Message)
    (buffer : Bytes) (handle : Dns64.Hook → Outcome) (hook : Dns64.Hook) : Prop where
  | unasked (calls : (handle hook).calls = [])
      (idle : carried? = none ∨ ∃ cause, (handle hook).verdict = .dropped cause)
      (same : ∀ other, handle other = handle hook)
  | asked (message : Dns64.Message) (carried : carried? = some message)
      (room : direction.start + message.bytes.length ≤ buffer.length)
      (calls : (handle hook).calls = [⟨direction, message.bytes.length,
        buffer.length - direction.start, message.bytes⟩])
      (accepted : ∀ n, (handle hook).verdict = .emitted n ↔
        n = message.front + (hook.answer direction buffer message.bytes direction.start).2 ∧
          n ≤ min buffer.length direction.most)
      (result : ∀ n, (handle hook).verdict = .emitted n →
        (handle hook).packet.length = n ∧ direction.Restated (handle hook).packet ∧
          (handle hook).packet.drop message.front
            = (hook.answer direction buffer message.bytes direction.start).1.take
                (hook.answer direction buffer message.bytes direction.start).2)
      (same : ∀ other : Dns64.Hook, other.answer direction buffer message.bytes direction.start
          = hook.answer direction buffer message.bytes direction.start →
        handle other = handle hook)

-- A packet that is dropped whatever the hook would do.
theorem Consults.of_dropped {direction : Dns64.Direction} {carried? : Option Dns64.Message}
    {buffer : Bytes} {handle : Dns64.Hook → Outcome} {hook : Dns64.Hook} {outcome : Outcome}
    {cause : Drop} (same : ∀ hook, handle hook = outcome) (calls : outcome.calls = [])
    (verdict : outcome.verdict = .dropped cause) :
    Consults direction carried? buffer handle hook := by
  refine .unasked ?_ (.inr ⟨cause, ?_⟩) ?_
  · rw [same, calls]
  · rw [same, verdict]
  · intro other
    rw [same, same]

-- Where a writer puts a segment, of which it knows whether there is a message in it.
def placing (direction : Dns64.Direction) (carries : Prop) [Decidable carries]
    (buffer segment : Bytes) (hook : Dns64.Hook) : Datagram.Placement :=
  Datagram.place hook (if carries then some direction else none) buffer direction.headerLength
    segment

structure Writes (direction : Dns64.Direction) (carries : Prop) [Decidable carries]
    (buffer segment : Bytes) (handle : Dns64.Hook → Outcome) : Prop where
  header : 8 ≤ segment.length
  fits : direction.headerLength + segment.length ≤ buffer.length
  calls : ∀ hook, (handle hook).calls = (placing direction carries buffer segment hook).calls
  same : ∀ hook other, placing direction carries buffer segment other
    = placing direction carries buffer segment hook → handle other = handle hook
  verdict : ∀ hook n, (handle hook).verdict = .emitted n ↔
    ∃ length, (placing direction carries buffer segment hook).length = .ok length ∧
      n = direction.headerLength + length ∧ n ≤ direction.most
  result : carries → ∀ hook length,
    (placing direction carries buffer segment hook).length = .ok length →
      (handle hook).verdict = .emitted (direction.headerLength + length) →
        (handle hook).packet.length = direction.headerLength + length ∧
          direction.Restated (handle hook).packet ∧
          (handle hook).packet.drop direction.start
            = ((placing direction carries buffer segment hook).taken direction.headerLength
                length).drop 8

theorem Dns64.Direction.most_le (direction : Dns64.Direction) :
    direction.most ≤ direction.headerLength + Datagram.maxLength := by
  cases direction <;> decide

theorem place_accepted_iff {hook : Dns64.Hook} {direction : Dns64.Direction}
    {buffer segment : Bytes} {n : Nat} (header : 8 ≤ segment.length)
    (fits : direction.headerLength + segment.length ≤ buffer.length) :
    (∃ length, (Datagram.place hook (some direction) buffer direction.headerLength segment).length
        = .ok length ∧ n = direction.headerLength + length ∧ n ≤ direction.most) ↔
      n = direction.start + (hook.answer direction buffer (segment.drop 8) direction.start).2 ∧
        n ≤ min buffer.length direction.most := by
  have most := direction.most_le
  simp only [Datagram.place_length_iff header fits, Nat.le_min]
  unfold Dns64.Direction.start
  generalize (hook.answer direction buffer (segment.drop 8) (direction.headerLength + 8)).2 = size
  constructor
  · rintro ⟨length, ⟨rfl, room, _⟩, rfl, short⟩
    exact ⟨(Nat.add_assoc ..).symm, room, short⟩
  · rintro ⟨rfl, room, short⟩
    exact ⟨8 + size, ⟨rfl, by omega, by omega⟩, Nat.add_assoc .., short⟩

section Writes

variable {direction : Dns64.Direction} {carries : Prop} [Decidable carries]
  {buffer segment : Bytes} {handle : Dns64.Hook → Outcome}

theorem Writes.consults (writes : Writes direction carries buffer segment handle)
    (hook : Dns64.Hook) :
    Consults direction (if carries then some ⟨direction.start, segment.drop 8⟩ else none) buffer
      handle hook := by
  obtain ⟨header, fits, calls, same, verdict, result⟩ := writes
  unfold placing at calls same verdict result
  by_cases carried : carries
  · simp only [if_pos carried] at calls same verdict result ⊢
    refine .asked ⟨direction.start, segment.drop 8⟩ rfl ?_ ?_ ?_ ?_ ?_
    · unfold Dns64.Direction.start
      rw [List.length_drop]
      omega
    · exact (calls hook).trans (Datagram.place_calls header fits)
    · intro n
      rw [verdict]
      exact place_accepted_iff header fits
    · intro n emitted
      obtain ⟨length, placed, rfl, _⟩ := (verdict hook n).mp emitted
      obtain ⟨size, restated, message⟩ := result carried hook length placed emitted
      exact ⟨size, restated, message.trans (Datagram.place_message header fits placed)⟩
    · intro other answers
      exact same hook other (Datagram.place_congr header fits answers)
  · simp only [if_neg carried] at calls same ⊢
    refine .unasked (calls hook) (.inl rfl) ?_
    intro other
    exact same hook other rfl

theorem Writes.relog (writes : Writes direction carries buffer segment handle)
    (log : Outcome → List Log.Line) :
    Writes direction carries buffer segment
      fun hook => { handle hook with log := log (handle hook) } := by
  refine ⟨writes.header, writes.fits, writes.calls, ?_, writes.verdict, writes.result⟩
  intro hook other same
  rw [writes.same hook other same]

end Writes

section Packet

variable {segment : Bytes}

theorem restated_of_carries4 {header : Packet.Header4} (carries : header.Carries .udp segment) :
    Dns64.Direction.query.Restated (header.packet .udp segment).bytes := by
  have wellFormed := Packet.Header4.wellFormed_packet carries
  have stated := carries.number_packet []
  rw [List.append_nil] at stated
  exact ⟨stated.trans carries.length_packet.symm, wellFormed.udpLength rfl, _, wellFormed⟩

theorem restated_of_carries6 {header : Packet.Header6} (carries : header.Carries .udp segment) :
    Dns64.Direction.response.Restated (header.packet .udp segment).bytes := by
  have wellFormed := Packet.Header6.wellFormed_packet carries
  have stated := carries.number_packet []
  rw [List.append_nil] at stated
  have length := carries.length_packet
  exact ⟨by omega, wellFormed.udpLength rfl, _, wellFormed⟩

end Packet

namespace Packet.Header.Carries

variable {family : Family} {header : Header family} {segment : Bytes}

theorem restated (carries : header.Carries .udp segment) :
    (Dns64.Direction.into family).Restated (header.written .udp segment) := by
  cases family with
  | v4 => exact restated_of_carries4 carries
  | v6 => exact restated_of_carries6 carries

theorem drop_written (carries : header.Carries .udp segment) :
    (header.written .udp segment).drop (Dns64.Direction.into family).start = segment.drop 8 := by
  cases family with
  | v4 => exact Header4.Carries.drop_packet carries
  | v6 => exact Header6.Carries.drop_packet carries

end Packet.Header.Carries

namespace Nat64

variable {target : Family}

theorem headerLength_into (target : Family) :
    (Dns64.Direction.into target).headerLength = target.headerLength := by
  cases target <;> rfl

theorem le_most_iff {length : Nat} :
    target.headerLength + length ≤ (Dns64.Direction.into target).most ↔
      target.counted + length ≤ Datagram.maxLength := by
  cases target with
  | v4 => rfl
  | v6 =>
    change 40 + length ≤ 40 + 65535 ↔ 0 + length ≤ 65535
    omega

section Emit

variable {plan : Plan target} {kind : Segment.Kind} {carries : Prop} [Decidable carries]
  {buffer : Bytes}

theorem Plan.placing_eq (message : plan.message = if carries then some (.into target) else none)
    (hook : Dns64.Hook) :
    placing (.into target) carries buffer plan.segment hook = plan.place hook buffer := by
  unfold placing place
  rw [message, headerLength_into]

theorem Plan.emit_congr {hook other : Dns64.Hook} (nextId : UInt16)
    (same : plan.place other buffer = plan.place hook buffer) :
    plan.emit other nextId buffer = plan.emit hook nextId buffer := by
  unfold emit
  rw [same]

theorem Plan.writes_emit (nextId : UInt16) (ready : plan.Ready kind buffer.length)
    (message : plan.message = if carries then some (.into target) else none) :
    Writes (.into target) carries buffer plan.segment fun hook => plan.emit hook nextId buffer := by
  refine ⟨ready.long, ?_, ?_, ?_, ?_, ?_⟩
  · rw [headerLength_into]
    exact ready.room
  · intro hook
    rw [placing_eq message, emit_calls]
  · intro hook other same
    rw [placing_eq message, placing_eq message] at same
    exact emit_congr nextId same
  · intro hook n
    rw [placing_eq message, emit_verdict_iff, headerLength_into]
    simp only [size_eq_ok, and_assoc]
    refine exists_congr fun length => and_congr_right fun _ => ?_
    constructor
    · rintro ⟨fits, rfl⟩
      exact ⟨rfl, le_most_iff.mpr fits⟩
    · rintro ⟨rfl, fits⟩
      exact ⟨le_most_iff.mp fits, rfl⟩
  · intro carried hook length _ emitted
    obtain ⟨same, total, emission⟩ := emit_emitted ready emitted
    rw [headerLength_into] at total
    cases Nat.add_left_cancel total
    cases ready.carrier (by rw [message, if_pos carried]; rfl)
    rw [placing_eq message, headerLength_into, emission.packet_eq]
    exact ⟨emission.length_front, emission.carries.restated, emission.carries.drop_written⟩

end Emit

-- Where the plan carries a message, it is the one of the packet.
theorem translate_consults {planned : Except Drop (Plan target)}
    {known : Plan target → Segment.Kind → Prop} {carries : Prop} [Decidable carries]
    {buffer message : Bytes} (nextId : UInt16) (warnings : List Log.Line) (text : String)
    (prepared : Prepared planned known buffer.length)
    (asks : ∀ plan kind, known plan kind →
      plan.message = if carries then some (.into target) else none)
    (shown : ∀ plan kind, known plan kind → carries → plan.segment.drop 8 = message)
    (hook : Dns64.Hook) :
    Consults (.into target)
      (if carries then some ⟨(Dns64.Direction.into target).start, message⟩ else none) buffer
      (fun hook => translate hook nextId warnings text planned buffer) hook := by
  cases planned with
  | error cause => exact .unasked rfl (.inr ⟨cause, rfl⟩) fun _ => rfl
  | ok plan =>
    obtain ⟨kind, decided, ready⟩ := prepared plan rfl
    have writes := Plan.writes_emit nextId ready (asks plan kind decided)
    have carried : (if carries then
          some (⟨(Dns64.Direction.into target).start, plan.segment.drop 8⟩ : Dns64.Message)
        else none) = if carries then some ⟨(Dns64.Direction.into target).start, message⟩ else none :=
      ite_congr rfl (fun asked => by rw [shown plan kind decided asked]) fun _ => rfl
    rw [← carried]
    exact (writes.relog fun outcome =>
      warnings ++ (outcome.log ++ report target text outcome)).consults hook

end Nat64
end Nat64Gateway
