import Nat64Gateway.Proofs.Tunnel.Identification

namespace Nat64Gateway

-- The answer and the bytes that it counts depend on the message and on how much room there is. An
-- answer for which there is no room counts no bytes.
structure Dns64.Hook.Local (hook : Dns64.Hook) : Prop where
  size : ∀ direction (room other : Bytes) (length : Nat), room.length = other.length →
    room.take length = other.take length →
      (hook.edit direction room length).2 = (hook.edit direction other length).2
  front : ∀ direction (room other : Bytes) (length : Nat), room.length = other.length →
    room.take length = other.take length → (hook.edit direction room length).2 ≤ room.length →
      (hook.edit direction room length).1.take (hook.edit direction room length).2
        = (hook.edit direction other length).1.take (hook.edit direction other length).2

theorem Dns64.passthrough_local : Dns64.passthrough.Local := by
  refine ⟨?_, ?_⟩
  · intro _ _ _ _ _ _
    rfl
  · intro _ _ _ _ _ same _
    exact same

namespace Datagram

-- Two placements of one segment, as far as anyone is shown them.
structure Placement.Agrees (start : Nat) (first second : Placement) : Prop where
  length : first.length = second.length
  taken : ∀ length, first.length = .ok length →
    first.taken start length = second.taken start length

section Edit

variable {hook : Dns64.Hook} {direction : Dns64.Direction} {buffer other segment : Bytes}
  {start : Nat}

-- The hook is shown the message, wherever it was put.
theorem message_of_field (stands : Wire.field buffer start segment.length = segment) :
    (buffer.drop (start + 8)).take (segment.length - 8) = segment.drop 8 := by
  have behind := congrArg (List.drop 8) stands
  unfold Wire.field at behind
  rwa [List.drop_take, List.drop_drop] at behind

theorem editMessage_agrees (faithful : hook.Local) (header : 8 ≤ segment.length)
    (stands : Wire.field buffer start segment.length = segment)
    (stands_other : Wire.field other start segment.length = segment)
    (same : buffer.length = other.length) :
    (editMessage hook direction buffer start segment.length).Agrees start
      (editMessage hook direction other start segment.length) := by
  have room : (buffer.drop (start + 8)).length = (other.drop (start + 8)).length := by
    rw [List.length_drop, List.length_drop, same]
  have message : (buffer.drop (start + 8)).take (segment.length - 8)
      = (other.drop (start + 8)).take (segment.length - 8) :=
    (message_of_field stands).trans (message_of_field stands_other).symm
  have size : (edited hook direction buffer start segment.length).2
      = (edited hook direction other start segment.length).2 :=
    faithful.size direction _ _ _ room message
  have length : (editMessage hook direction buffer start segment.length).length
      = (editMessage hook direction other start segment.length).length := by
    rw [editMessage_length, editMessage_length, room, size]
  refine ⟨length, ?_⟩
  intro total placed
  obtain ⟨_, _, fits, _⟩ := editMessage_eq_ok placed
  have front : (edited hook direction buffer start segment.length).1.take
        (edited hook direction buffer start segment.length).2
      = (edited hook direction other start segment.length).1.take
        (edited hook direction other start segment.length).2 :=
    faithful.front direction _ _ _ room message fits
  rw [taken_editMessage header stands placed,
    taken_editMessage header stands_other (length.symm.trans placed), front]

end Edit

theorem place_agrees {hook : Dns64.Hook} {direction? : Option Dns64.Direction}
    {buffer other segment : Bytes} {start : Nat} (faithful : hook.Local)
    (header : direction?.isSome → 8 ≤ segment.length)
    (fits : start + segment.length ≤ buffer.length) (same : buffer.length = other.length) :
    (place hook direction? buffer start segment).Agrees start
      (place hook direction? other start segment) := by
  have fits_other : start + segment.length ≤ other.length := same ▸ fits
  have stands : Wire.field (Wire.overwrite buffer start segment) start segment.length = segment :=
    Wire.field_overwrite_self rfl (by omega)
  have stands_other :
      Wire.field (Wire.overwrite other start segment) start segment.length = segment :=
    Wire.field_overwrite_self rfl (by omega)
  cases direction? with
  | none =>
    refine ⟨rfl, ?_⟩
    intro length placed
    cases placed
    exact stands.trans stands_other.symm
  | some direction =>
    have written := Wire.length_overwrite fits
    have written_other := Wire.length_overwrite fits_other
    exact editMessage_agrees faithful (header rfl) stands stands_other
      (written.trans (same.trans written_other.symm))

end Datagram

structure Outcome.Agrees (first second : Outcome) : Prop where
  verdict : first.verdict = second.verdict
  packet : first.packet = second.packet
  nextId : first.nextId = second.nextId

theorem Outcome.agrees_of_dropped {first second : Outcome} {cause : Drop}
    (dropped : first.verdict = .dropped cause) (dropped_too : second.verdict = .dropped cause)
    (nextId : first.nextId = second.nextId) : first.Agrees second := by
  refine ⟨dropped.trans dropped_too.symm, ?_, nextId⟩
  unfold packet length
  rw [dropped, dropped_too]
  rfl

namespace Nat64

variable {target : Family} {hook : Dns64.Hook} {buffer other : Bytes}

section Emit

variable {plan : Plan target} {kind : Segment.Kind} (nextId : UInt16)

theorem Plan.size_congr {same_plan : Plan target} {same_hook : Dns64.Hook}
    (same : (same_plan.place same_hook other).length = (plan.place hook buffer).length) :
    same_plan.size same_hook other = plan.size hook buffer := by
  unfold size
  rw [same]

theorem Plan.emit_agrees (faithful : hook.Local) (ready : plan.Ready kind buffer.length)
    (same : buffer.length = other.length) :
    (plan.emit hook nextId buffer).Agrees (plan.emit hook nextId other) := by
  have placed : (plan.place hook buffer).Agrees target.headerLength (plan.place hook other) :=
    Datagram.place_agrees faithful (fun _ => ready.long) ready.room same
  have sizes := size_congr placed.length
  cases sized : plan.size hook other with
  | error cause =>
    rw [emit_refused nextId sized, emit_refused nextId (sizes.trans sized)]
    exact Outcome.agrees_of_dropped rfl rfl rfl
  | ok length =>
    have emission := Plan.emission nextId ready (sizes.trans sized)
    have repeated := Plan.emission nextId (same ▸ ready) sized
    have taken : plan.taken hook buffer length = plan.taken hook other length :=
      placed.taken length emission.placed.answer
    refine ⟨emission.verdict.trans repeated.verdict.symm, ?_,
      emission.nextId_eq.trans repeated.nextId_eq.symm⟩
    rw [emission.packet_eq, repeated.packet_eq, taken]

end Emit

section Translate

variable {nextId : UInt16} {warnings : List Log.Line} {text : String}
  {planned : Except Drop (Plan target)} {known : Plan target → Segment.Kind → Prop}

theorem translate_agrees (faithful : hook.Local) (prepared : Prepared planned known buffer.length)
    (same : buffer.length = other.length) :
    (translate hook nextId warnings text planned buffer).Agrees
      (translate hook nextId warnings text planned other) := by
  cases planned with
  | error cause => exact Outcome.agrees_of_dropped rfl rfl rfl
  | ok plan =>
    obtain ⟨_, _, ready⟩ := prepared plan rfl
    have agrees := plan.emit_agrees nextId faithful ready same
    exact ⟨agrees.verdict, agrees.packet, agrees.nextId⟩

theorem translate_length_buffer (prepared : Prepared planned known buffer.length) :
    (translate hook nextId warnings text planned buffer).buffer.length = buffer.length := by
  cases planned with
  | error cause => rfl
  | ok plan =>
    obtain ⟨_, _, ready⟩ := prepared plan rfl
    exact Plan.emit_length_buffer nextId ready

end Translate

theorem ToV4.run_agrees {context : Context} (nextId : UInt16) {packet : Packet.V6}
    (faithful : hook.Local) (whole : packet.segment.Sound)
    (short : packet.segment.bytes.length ≤ Datagram.maxLength)
    (same : buffer.length = other.length) :
    (run context hook nextId packet buffer).Agrees (run context hook nextId packet other) := by
  unfold run
  rw [← same]
  exact translate_agrees faithful (prepared whole short) same

theorem ToV6.run_agrees {context : Context} (nextId : UInt16) {packet : Packet.V4}
    (faithful : hook.Local) (whole : packet.segment.Sound)
    (short : packet.segment.bytes.length ≤ Datagram.maxLength)
    (same : buffer.length = other.length) :
    (run context hook nextId packet buffer).Agrees (run context hook nextId packet other) := by
  unfold run
  rw [← same]
  exact translate_agrees faithful (prepared whole short) same

end Nat64

namespace Tunnel

section Decapsulate

variable {tunnel : Tunnel} {data buffer other : Bytes} {packet : Packet.V4}

theorem unframe_agrees (faithful : tunnel.hook.Local) (read : Packet.V4.read data = .ok packet)
    (same : buffer.length = other.length) :
    (tunnel.unframe packet buffer).Agrees (tunnel.unframe packet other) := by
  unfold unframe
  rw [← same]
  cases checkPeer tunnel.context packet with
  | error cause => exact Outcome.agrees_of_dropped rfl rfl rfl
  | ok passed =>
    cases found : flowOf tunnel.context packet buffer.length with
    | error cause => exact Outcome.agrees_of_dropped rfl rfl rfl
    | ok flow =>
      obtain ⟨kind, unframed⟩ := flowOf_eq_ok.mp found
      have agrees := Nat64.Plan.emit_agrees tunnel.nextId faithful (unframed.ready read) same
      exact ⟨agrees.verdict, agrees.packet, agrees.nextId⟩

theorem unframe_length_buffer (read : Packet.V4.read data = .ok packet) :
    (tunnel.unframe packet buffer).buffer.length = buffer.length := by
  unfold unframe
  cases checkPeer tunnel.context packet with
  | error cause => rfl
  | ok passed =>
    cases found : flowOf tunnel.context packet buffer.length with
    | error cause => rfl
    | ok flow =>
      obtain ⟨kind, unframed⟩ := flowOf_eq_ok.mp found
      exact Nat64.Plan.emit_length_buffer tunnel.nextId (unframed.ready read)

theorem decapsulate_agrees (faithful : tunnel.hook.Local) (data : Bytes)
    (same : buffer.length = other.length) :
    (tunnel.decapsulate data buffer).Agrees (tunnel.decapsulate data other) := by
  unfold decapsulate
  cases read : Packet.V4.read data with
  | error fault => exact Outcome.agrees_of_dropped rfl rfl rfl
  | ok packet =>
    obtain ⟨_, whole, short⟩ := Packet.V4.segment_of_read read
    dsimp only
    split
    · exact unframe_agrees faithful read same
    · exact Nat64.ToV6.run_agrees tunnel.nextId faithful whole short same

theorem decapsulate_length_buffer (tunnel : Tunnel) (data buffer : Bytes) :
    (tunnel.decapsulate data buffer).buffer.length = buffer.length := by
  unfold decapsulate
  cases read : Packet.V4.read data with
  | error fault => rfl
  | ok packet =>
    obtain ⟨_, whole, short⟩ := Packet.V4.segment_of_read read
    dsimp only
    split
    · exact unframe_length_buffer read
    · exact Nat64.translate_length_buffer (Nat64.ToV6.prepared whole short)

end Decapsulate

section Encapsulate

variable {tunnel : Tunnel} {data buffer other : Bytes} {packet : Packet.V6}

theorem plainOut_length_buffer (tunnel : Tunnel) (buffer : Bytes)
    (read : Packet.V6.read data = .ok packet) :
    (tunnel.plainOut packet buffer).buffer.length = buffer.length := by
  obtain ⟨_, whole, short, _⟩ := Packet.V6.segment_of_read read
  exact Nat64.translate_length_buffer (Nat64.ToV4.prepared whole short)

theorem plainOut_agrees (faithful : tunnel.hook.Local) (read : Packet.V6.read data = .ok packet)
    (same : buffer.length = other.length) :
    (tunnel.plainOut packet buffer).Agrees (tunnel.plainOut packet other) := by
  obtain ⟨_, whole, short, _⟩ := Packet.V6.segment_of_read read
  exact Nat64.ToV4.run_agrees tunnel.nextId faithful whole short same

-- A frame is made of the plain packet, not of what stands behind it.
theorem frame_agrees (host : Address.V4) {plain second : Outcome} (agrees : plain.Agrees second)
    (same : plain.buffer.length = second.buffer.length)
    (complete : ∀ length, plain.verdict = .emitted length →
      innerStart packet.segment.protocol ≤ length ∧ plain.packet.length = length) :
    (tunnel.frame host packet plain).Agrees (tunnel.frame host packet second) := by
  cases verdict : plain.verdict with
  | dropped cause =>
    have again := agrees.verdict.symm.trans verdict
    unfold frame
    simp only [verdict, again]
    exact agrees
  | emitted length =>
    have again := agrees.verdict.symm.trans verdict
    by_cases long : plain.buffer.length < length + framing packet.segment.protocol ∨
        Datagram.maxLength < length + framing packet.segment.protocol
    · have long_too := same ▸ long
      unfold frame
      simp only [verdict, again, if_pos long, if_pos long_too]
      exact Outcome.agrees_of_dropped rfl rfl agrees.nextId
    · have short_too := same ▸ long
      have emitted : (tunnel.frame host packet plain).verdict
          = .emitted (length + framing packet.segment.protocol) := by
        unfold frame
        simp only [verdict, if_neg long]
        rfl
      have repeated : (tunnel.frame host packet second).verdict
          = .emitted (length + framing packet.segment.protocol) := by
        unfold frame
        simp only [again, if_neg short_too]
        rfl
      obtain ⟨_, framed⟩ := frame_emitted complete emitted
      obtain ⟨_, framed_too⟩ := frame_emitted (agrees.verdict ▸ agrees.packet ▸ complete) repeated
      refine ⟨emitted.trans repeated.symm, ?_,
        framed.nextId_eq.trans (agrees.nextId.trans framed_too.nextId_eq.symm)⟩
      rw [framed.packet_eq, framed_too.packet_eq, agrees.packet]

theorem frame_length_buffer {host : Address.V4} {plain : Outcome}
    (complete : ∀ length, plain.verdict = .emitted length →
      innerStart packet.segment.protocol ≤ length ∧ plain.packet.length = length) :
    (tunnel.frame host packet plain).buffer.length = plain.buffer.length := by
  cases verdict : (tunnel.frame host packet plain).verdict with
  | emitted n =>
    obtain ⟨_, framed⟩ := frame_emitted complete verdict
    exact framed.length_buffer
  | dropped cause =>
    unfold frame at verdict ⊢
    cases form : plain.verdict with
    | dropped reason => rfl
    | emitted length =>
      simp only [form] at verdict ⊢
      split at verdict
      · rename_i long
        rw [if_pos long]
      · cases verdict

theorem encapsulate_agrees (faithful : tunnel.hook.Local) (data : Bytes)
    (same : buffer.length = other.length) :
    (tunnel.encapsulate data buffer).Agrees (tunnel.encapsulate data other) := by
  unfold encapsulate
  cases read : Packet.V6.read data with
  | error fault => exact Outcome.agrees_of_dropped rfl rfl rfl
  | ok packet =>
    have plain := plainOut_agrees faithful read same
    have kept := plainOut_length_buffer tunnel buffer read
    have kept_other := plainOut_length_buffer tunnel other read
    dsimp only
    rw [← same]
    split
    · exact plain
    · cases tunnel.context.host with
      | none => exact Outcome.agrees_of_dropped rfl rfl rfl
      | some host =>
        dsimp only
        split
        · exact Outcome.agrees_of_dropped rfl rfl rfl
        · exact frame_agrees host plain (kept.trans (same.trans kept_other.symm))
            fun _ verdict => plainOut_complete read verdict

theorem encapsulate_length_buffer (tunnel : Tunnel) (data buffer : Bytes) :
    (tunnel.encapsulate data buffer).buffer.length = buffer.length := by
  unfold encapsulate
  cases read : Packet.V6.read data with
  | error fault => rfl
  | ok packet =>
    have kept := plainOut_length_buffer tunnel buffer read
    dsimp only
    split
    · exact kept
    · cases tunnel.context.host with
      | none => rfl
      | some host =>
        dsimp only
        split
        · rfl
        · exact (frame_length_buffer fun _ verdict => plainOut_complete read verdict).trans kept

end Encapsulate
end Tunnel
end Nat64Gateway
