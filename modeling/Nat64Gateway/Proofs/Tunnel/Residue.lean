import Nat64Gateway.Proofs.Tunnel.Consultation
import Nat64Gateway.Proofs.Tunnel.Entry

namespace Nat64Gateway

namespace Nat64

-- Without the hook the length field is all that can still refuse the segment.
theorem Plan.emitted_of_unasked {target : Family} {plan : Plan target} {hook : Dns64.Hook}
    {nextId : UInt16} {buffer : Bytes}
    (fits : target.counted + plan.segment.length ≤ Datagram.maxLength)
    (unasked : (plan.emit hook nextId buffer).calls = []) :
    (plan.emit hook nextId buffer).verdict
      = .emitted (target.headerLength + plan.segment.length) := by
  rw [emit_calls] at unasked
  obtain ⟨_, placed⟩ := Datagram.place_unasked unasked
  exact emit_verdict_iff.mpr ⟨_, size_eq_ok.mpr ⟨congrArg Datagram.Placement.length placed, fits⟩, rfl⟩

-- What fits into a packet of the one family fits into one of the other, so that nothing is found
-- out after the first byte was written.
theorem ToV6.run_untouched {context : Context} {hook : Dns64.Hook} {nextId : UInt16}
    {packet : Packet.V4} {buffer : Bytes} {cause : Drop} (whole : packet.segment.Sound)
    (short : packet.segment.bytes.length ≤ Datagram.maxLength)
    (dropped : (run context hook nextId packet buffer).verdict = .dropped cause)
    (unasked : (run context hook nextId packet buffer).calls = []) :
    (run context hook nextId packet buffer).buffer = buffer := by
  unfold run at dropped unasked ⊢
  cases decided : plan context packet buffer.length with
  | error reason => rfl
  | ok plan =>
    obtain ⟨kind, planned⟩ := plan_eq_ok decided
    rw [decided] at dropped unasked
    have fits : 0 + plan.segment.length ≤ Datagram.maxLength :=
      (Nat.zero_add _).symm ▸ (planned.ready whole short).short
    cases dropped.symm.trans (Plan.emitted_of_unasked fits unasked)

theorem toV6_untouched {context : Context} {hook : Dns64.Hook} {nextId : UInt16}
    {data buffer : Bytes} {cause : Drop}
    (dropped : (toV6 context hook nextId data buffer).verdict = .dropped cause)
    (unasked : (toV6 context hook nextId data buffer).calls = []) :
    (toV6 context hook nextId data buffer).buffer = buffer := by
  unfold toV6 at dropped unasked ⊢
  cases read : Packet.V4.read data with
  | error fault => rfl
  | ok packet =>
    obtain ⟨_, whole, short⟩ := Packet.V4.segment_of_read read
    rw [read] at dropped unasked
    exact ToV6.run_untouched whole short dropped unasked

theorem toV6_nextId (context : Context) (hook : Dns64.Hook) (nextId : UInt16)
    (data buffer : Bytes) : (toV6 context hook nextId data buffer).nextId = nextId := by
  unfold toV6
  cases Packet.V4.read data with
  | error fault => rfl
  | ok packet => exact ToV6.run_nextId ..

end Nat64

namespace Tunnel

section Decapsulate

variable {tunnel : Tunnel} {data buffer : Bytes} {packet : Packet.V4} {cause : Drop}

theorem unframe_untouched (read : Packet.V4.read data = .ok packet)
    (dropped : (tunnel.unframe packet buffer).verdict = .dropped cause)
    (unasked : (tunnel.unframe packet buffer).calls = []) :
    (tunnel.unframe packet buffer).buffer = buffer := by
  unfold unframe at dropped unasked ⊢
  cases peer : checkPeer tunnel.context packet with
  | error reason => rfl
  | ok passed =>
    rw [peer] at dropped unasked
    cases found : flowOf tunnel.context packet buffer.length with
    | error reason => rfl
    | ok flow =>
      obtain ⟨kind, unframed⟩ := flowOf_eq_ok.mp found
      rw [found] at dropped unasked
      have fits : 0 + flow.segment.length ≤ Datagram.maxLength :=
        (Nat.zero_add _).symm ▸ (unframed.ready read).short
      cases dropped.symm.trans (Nat64.Plan.emitted_of_unasked fits unasked)

theorem decapsulate_untouched
    (dropped : (tunnel.decapsulate data buffer).verdict = .dropped cause)
    (unasked : (tunnel.decapsulate data buffer).calls = []) :
    (tunnel.decapsulate data buffer).buffer = buffer := by
  cases read : Packet.V4.read data with
  | error fault =>
    unfold decapsulate
    rw [read]
    rfl
  | ok packet =>
    obtain ⟨_, whole, short⟩ := Packet.V4.segment_of_read read
    cases framed : isFramed tunnel.context packet.segment with
    | true =>
      rw [decapsulate_framed read framed] at dropped unasked ⊢
      exact unframe_untouched read dropped unasked
    | false =>
      rw [decapsulate_plain read framed] at dropped unasked ⊢
      exact Nat64.ToV6.run_untouched whole short dropped unasked

theorem after_decapsulate (tunnel : Tunnel) (data buffer : Bytes) :
    tunnel.after (tunnel.decapsulate data buffer) = tunnel := by
  unfold after
  rw [decapsulate_nextId]

end Decapsulate

theorem inbound_untouched (tunnel : Tunnel) (data buffer : Bytes) :
    (∀ cause, (Nat64.toV6 tunnel.context tunnel.hook tunnel.nextId data buffer).verdict
          = .dropped cause →
        (Nat64.toV6 tunnel.context tunnel.hook tunnel.nextId data buffer).calls = [] →
          (Nat64.toV6 tunnel.context tunnel.hook tunnel.nextId data buffer).buffer = buffer) ∧
      (∀ cause, (tunnel.decapsulate data buffer).verdict = .dropped cause →
        (tunnel.decapsulate data buffer).calls = [] →
          (tunnel.decapsulate data buffer).buffer = buffer) ∧
      (Nat64.toV6 tunnel.context tunnel.hook tunnel.nextId data buffer).nextId = tunnel.nextId ∧
      tunnel.after (tunnel.decapsulate data buffer) = tunnel :=
  ⟨fun _ => Nat64.toV6_untouched, fun _ => decapsulate_untouched, Nat64.toV6_nextId ..,
    tunnel.after_decapsulate data buffer⟩

-- The reply with a code that echoes do not have, and a buffer in which it would be seen.
theorem inbound_untouched_reply :
    (loop.decapsulate (framedReply.set 69 1) (List.replicate 48 9)).verdict
        = .dropped .innerIcmpNotEcho ∧
      (loop.decapsulate (framedReply.set 69 1) (List.replicate 48 9)).buffer
        = List.replicate 48 9 := by
  have dropped : (loop.decapsulate (framedReply.set 69 1) (List.replicate 48 9)).verdict
      = .dropped .innerIcmpNotEcho := by rfl
  obtain ⟨_, untouched, _⟩ :=
    inbound_untouched loop (framedReply.set 69 1) (List.replicate 48 9)
  exact ⟨dropped, untouched _ dropped (by rfl)⟩

end Tunnel

namespace Nat64

-- What a plan has made of the buffer by the time that its packet turns out to be too long: the
-- segment is in its place if the packet is too long by itself, and all of the packet is if its
-- frame is.
def Plan.leftover (plan : Plan .v4) (kind : Segment.Kind) (nextId : UInt16) (buffer : Bytes) : Bytes :=
  if 65535 < 20 + plan.segment.length then Wire.overwrite buffer 20 plan.segment
  else ((plan.header nextId plan.segment.length).packet kind plan.segment).bytes
    ++ buffer.drop (20 + plan.segment.length)

namespace ToV4

-- A packet that is planned, and has room in the buffer together with what is added to it, but is
-- longer than the length field can say.
structure Overlong (context : Context) (original : Packet.V6) (added capacity : Nat)
    (plan : Plan .v4) (kind : Segment.Kind) : Prop where
  planned : Planned context original capacity plan kind
  room : 20 + plan.segment.length + added ≤ capacity
  long : 65535 < 20 + plan.segment.length + added

section Run

variable {context : Context} {hook : Dns64.Hook} {nextId : UInt16} {packet : Packet.V6}
  {buffer : Bytes} {plan : Plan .v4} {kind : Segment.Kind}

-- A plan that is carried out without the hook: its length alone decides.
theorem emit_unasked (planned : Planned context packet buffer.length plan kind)
    (whole : packet.segment.Sound) (short : packet.segment.bytes.length ≤ Datagram.maxLength)
    (unasked : (plan.emit hook nextId buffer).calls = []) :
    (plan.emit hook nextId buffer).buffer = plan.leftover kind nextId buffer ∧
      (plan.emit hook nextId buffer).verdict
        = if 65535 < 20 + plan.segment.length then .dropped .v4ExceedsLength
          else .emitted (20 + plan.segment.length) := by
  rw [Plan.emit_calls] at unasked
  obtain ⟨silent, placed⟩ := Datagram.place_unasked unasked
  have answer : (plan.place hook buffer).length = .ok plan.segment.length :=
    congrArg Datagram.Placement.length placed
  unfold Plan.leftover
  by_cases long : 65535 < 20 + plan.segment.length
  · have refused : plan.size hook buffer = .error .v4ExceedsLength := by
      unfold Plan.size
      rw [answer]
      exact if_pos long
    rw [if_pos long, if_pos long, Plan.emit_refused nextId refused]
    exact ⟨congrArg Datagram.Placement.buffer placed, rfl⟩
  · rw [if_neg long, if_neg long]
    have emission := Plan.emission nextId (planned.ready whole short)
      (Plan.size_eq_ok.mpr ⟨answer, Nat.not_lt.mp long⟩)
    have taken : plan.taken hook buffer plan.segment.length = plan.segment :=
      emission.placed.unedited silent
    have behind : (plan.place hook buffer).buffer.drop (20 + plan.segment.length)
        = buffer.drop (20 + plan.segment.length) := by
      rw [Plan.place, placed]
      exact Wire.drop_overwrite_of_ge (Nat.le_refl _) planned.room
    have written := emission.buffer_eq
    rw [taken] at written
    exact ⟨written.trans (congrArg (_ ++ ·) behind), emission.verdict⟩

theorem run_unasked (whole : packet.segment.Sound)
    (short : packet.segment.bytes.length ≤ Datagram.maxLength)
    (unasked : (run context hook nextId packet buffer).calls = []) :
    (∃ cause, (run context hook nextId packet buffer).verdict = .dropped cause ∧
      (run context hook nextId packet buffer).buffer = buffer) ∨
    ∃ plan kind, Planned context packet buffer.length plan kind ∧
      (run context hook nextId packet buffer).buffer = plan.leftover kind nextId buffer ∧
      (run context hook nextId packet buffer).verdict
        = if 65535 < 20 + plan.segment.length then .dropped .v4ExceedsLength
          else .emitted (20 + plan.segment.length) := by
  unfold run at unasked ⊢
  cases decided : plan context packet buffer.length with
  | error cause => exact .inl ⟨cause, rfl, rfl⟩
  | ok plan =>
    obtain ⟨kind, planned⟩ := plan_eq_ok decided
    rw [decided] at unasked
    exact .inr ⟨plan, kind, planned, emit_unasked planned whole short unasked⟩

-- Whoever is planned and carries no query does without the hook.
theorem run_silent (planned : Planned context packet buffer.length plan kind)
    (whole : packet.segment.Sound) (short : packet.segment.bytes.length ≤ Datagram.maxLength)
    (silent : isQuery packet.segment = false) :
    (run context hook nextId packet buffer).calls = [] ∧
      (run context hook nextId packet buffer).buffer = plan.leftover kind nextId buffer ∧
      (run context hook nextId packet buffer).verdict
        = if 65535 < 20 + plan.segment.length then .dropped .v4ExceedsLength
          else .emitted (20 + plan.segment.length) := by
  have unasked : (plan.emit hook nextId buffer).calls = [] := by
    rw [Plan.emit_calls, Plan.place, planned.message, silent]
    rfl
  unfold run
  rw [planned.plan_ok]
  exact ⟨unasked, emit_unasked planned whole short unasked⟩

theorem run_left {cause : Drop} (whole : packet.segment.Sound)
    (short : packet.segment.bytes.length ≤ Datagram.maxLength)
    (dropped : (run context hook nextId packet buffer).verdict = .dropped cause)
    (unasked : (run context hook nextId packet buffer).calls = []) :
    (run context hook nextId packet buffer).buffer = buffer ∨
      ∃ plan kind, Overlong context packet 0 buffer.length plan kind ∧
        (run context hook nextId packet buffer).buffer = plan.leftover kind nextId buffer := by
  obtain ⟨_, _, same⟩ | ⟨plan, kind, planned, written, verdict⟩ := run_unasked whole short unasked
  · exact .inl same
  · have long : 65535 < 20 + plan.segment.length := by
      by_contra fits
      rw [if_neg fits, dropped] at verdict
      cases verdict
    exact .inr ⟨plan, kind, ⟨planned, planned.room, long⟩, written⟩

end Run
end ToV4

def Left (context : Context) (nextId : UInt16) (data buffer : Bytes)
    (added : Packet.V6 → Nat) (after : Bytes) : Prop :=
  after = buffer ∨ ∃ original plan kind, Packet.V6.read data = .ok original ∧
    ToV4.Overlong context original (added original) buffer.length plan kind ∧
    after = plan.leftover kind nextId buffer

-- A buffer that is no longer than a packet may be is left alone.
theorem Left.untouched {context : Context} {nextId : UInt16} {data buffer after : Bytes}
    {added : Packet.V6 → Nat} (left : Left context nextId data buffer added after)
    (small : buffer.length ≤ 65535) : after = buffer := by
  obtain same | ⟨_, plan, _, _, overlong, _⟩ := left
  · exact same
  · have room := overlong.room
    have long := overlong.long
    omega

theorem toV4_left {context : Context} {hook : Dns64.Hook} {nextId : UInt16}
    {data buffer : Bytes} {cause : Drop}
    (dropped : (toV4 context hook nextId data buffer).verdict = .dropped cause)
    (unasked : (toV4 context hook nextId data buffer).calls = []) :
    Left context nextId data buffer (fun _ => 0) (toV4 context hook nextId data buffer).buffer := by
  unfold toV4 at dropped unasked ⊢
  cases read : Packet.V6.read data with
  | error fault => exact .inl rfl
  | ok original =>
    obtain ⟨_, whole, short, _⟩ := Packet.V6.segment_of_read read
    rw [read] at dropped unasked
    obtain same | ⟨plan, kind, overlong, written⟩ := ToV4.run_left whole short dropped unasked
    · exact .inl same
    · exact .inr ⟨original, plan, kind, read, overlong, written⟩

end Nat64

namespace Tunnel

def added (context : Context) (original : Packet.V6) : Nat :=
  if bypasses context original.segment then 0 else framing original.segment.protocol

section Encapsulate

variable {tunnel : Tunnel} {host : Address.V4} {original : Packet.V6} {data buffer : Bytes}
  {cause : Drop}

theorem frame_left {plain : Outcome}
    (dropped : (tunnel.frame host original plain).verdict = .dropped cause) :
    (tunnel.frame host original plain).buffer = plain.buffer ∧
      ∀ length, plain.verdict = .emitted length →
        plain.buffer.length < length + framing original.segment.protocol ∨
          Datagram.maxLength < length + framing original.segment.protocol := by
  unfold frame at dropped ⊢
  cases verdict : plain.verdict with
  | dropped reason => exact ⟨rfl, nofun⟩
  | emitted length =>
    simp only [verdict] at dropped ⊢
    split at dropped
    · rename_i exceeds
      rw [if_pos exceeds]
      refine ⟨rfl, ?_⟩
      intro same_length same
      cases same
      exact exceeds
    · cases dropped

theorem frame_over {plain : Outcome} {length : Nat} (verdict : plain.verdict = .emitted length)
    (long : Datagram.maxLength < length + framing original.segment.protocol) :
    tunnel.frame host original plain
      = { plain with verdict := .dropped .framedExceedsBuffer } := by
  unfold frame
  simp only [verdict]
  exact if_pos (.inr long)

theorem encapsulate_left
    (dropped : (tunnel.encapsulate data buffer).verdict = .dropped cause)
    (unasked : (tunnel.encapsulate data buffer).calls = []) :
    Nat64.Left tunnel.context tunnel.nextId data buffer (added tunnel.context)
      (tunnel.encapsulate data buffer).buffer := by
  cases read : Packet.V6.read data with
  | error fault =>
    unfold encapsulate
    rw [read]
    exact .inl rfl
  | ok original =>
    obtain ⟨_, whole, short, _⟩ := Packet.V6.segment_of_read read
    cases bypass : bypasses tunnel.context original.segment with
    | true =>
      rw [encapsulate_plain read bypass] at dropped unasked ⊢
      obtain same | ⟨plan, kind, overlong, written⟩ :=
        Nat64.ToV4.run_left whole short dropped unasked
      · exact .inl same
      · refine .inr ⟨original, plan, kind, read, ?_, written⟩
        rwa [added, if_pos bypass]
    | false =>
      cases known : tunnel.context.host with
      | none =>
        unfold encapsulate
        simp only [read, bypass, known, Bool.false_eq_true, if_false]
        exact .inl rfl
      | some host =>
        rw [encapsulate_tunneled buffer read bypass known] at dropped unasked ⊢
        by_cases narrow : buffer.length < 20 + original.segment.bytes.length
            + framing original.segment.protocol
        · rw [if_pos narrow]
          exact .inl rfl
        · rw [if_neg narrow] at dropped unasked ⊢
          obtain ⟨same, exceeds⟩ := frame_left dropped
          rw [frame_calls] at unasked
          rw [same]
          obtain ⟨_, _, clean⟩ | ⟨plan, kind, planned, written, verdict⟩ :=
            Nat64.ToV4.run_unasked whole short unasked
          · exact .inl clean
          · have size := planned.converted.length_eq
            refine .inr ⟨original, plan, kind, read, ?_, written⟩
            rw [added, bypass, if_neg Bool.false_ne_true]
            refine ⟨planned, by omega, ?_⟩
            -- A plain packet that was accepted can only be dropped for the length of its frame.
            by_contra fits
            rw [if_neg (by omega)] at verdict
            have exceeded := exceeds _ verdict
            rw [plainOut_length_buffer tunnel buffer read] at exceeded
            unfold Datagram.maxLength at exceeded
            omega

theorem encapsulate_overlong {plan : Nat64.Plan .v4} {kind : Segment.Kind}
    (read : Packet.V6.read data = .ok original) (known : tunnel.context.host = some host)
    (silent : Nat64.ToV4.isQuery original.segment = false)
    (overlong : Nat64.ToV4.Overlong tunnel.context original (added tunnel.context original)
      buffer.length plan kind) :
    (∃ cause, (tunnel.encapsulate data buffer).verdict = .dropped cause) ∧
      (tunnel.encapsulate data buffer).calls = [] ∧
      (tunnel.encapsulate data buffer).buffer = plan.leftover kind tunnel.nextId buffer := by
  obtain ⟨_, whole, short, _⟩ := Packet.V6.segment_of_read read
  obtain ⟨planned, room, long⟩ := overlong
  have size := planned.converted.length_eq
  obtain ⟨unasked, written, verdict⟩ : (tunnel.plainOut original buffer).calls = [] ∧ _ ∧ _ :=
    Nat64.ToV4.run_silent planned whole short silent
  cases bypass : bypasses tunnel.context original.segment with
  | true =>
    rw [added, if_pos bypass, Nat.add_zero] at long
    rw [if_pos long] at verdict
    rw [encapsulate_plain read bypass]
    exact ⟨⟨_, verdict⟩, unasked, written⟩
  | false =>
    rw [added, bypass, if_neg Bool.false_ne_true] at long room
    rw [encapsulate_tunneled buffer read bypass known, if_neg (by omega)]
    by_cases plain_long : 65535 < 20 + plan.segment.length
    · rw [if_pos plain_long] at verdict
      have same : tunnel.frame host original (tunnel.plainOut original buffer) = _ :=
        frame_dropped verdict
      rw [same]
      exact ⟨⟨_, verdict⟩, unasked, written⟩
    · rw [if_neg plain_long] at verdict
      have same : tunnel.frame host original (tunnel.plainOut original buffer) = _ :=
        frame_over verdict long
      rw [same]
      exact ⟨⟨_, rfl⟩, unasked, written⟩

end Encapsulate

-- A stream segment that has just room in an IPv4 packet, but not together with its frame.
def longFront : Bytes :=
  [0x60, 0, 0, 0, 0xff, 0xdc, 6, 64] ++ Address.V6.octets ⟨0xfd000000000000000000000000000001#128⟩
    ++ Address.V6.octets ⟨0xffffc0000207#128⟩
    ++ [0x13, 0x88, 0x17, 0x70, 0, 0, 0, 0, 0, 0, 0, 0, 0x50, 0, 0, 0, 0xc6, 0x1a, 0, 0]

def longPacket : Bytes :=
  longFront ++ List.replicate 65480 0

def spacious : Bytes := List.replicate 70000 0

def longRead : Packet.V6 := ⟨longPacket, ⟨.tcp, longPacket.drop 40⟩⟩

theorem length_longPacket : longPacket.length = 65540 := by
  unfold longPacket
  rw [List.length_append, List.length_replicate]
  rfl

theorem length_segment_longPacket : (longPacket.drop 40).length = 65500 := by
  rw [List.length_drop, length_longPacket]

theorem read_longPacket : Packet.V6.read longPacket = .ok longRead := by
  have length := length_longPacket
  have number : Wire.number longPacket 4 2 = 65500 := by decide
  have payload : Packet.V6.payload longPacket = longPacket.drop 40 := by
    unfold Packet.V6.payload
    rw [number]
    exact List.take_of_length_le (Nat.le_of_eq length_segment_longPacket)
  have whole : Segment.Sound ⟨.tcp, longPacket.drop 40⟩ := by
    rw [Segment.sound_tcp_iff, length_segment_longPacket]
    exact ⟨by decide, by decide⟩
  refine Packet.V6.read_iff.mpr ⟨⟨by decide, ?_⟩, ?_, ?_⟩
  · rw [number, length]
  · rw [number]
    exact (List.take_of_length_le (Nat.le_of_eq length)).symm
  · rw [payload]
    exact Segment.readTcp_iff.mpr ⟨whole, rfl⟩

-- The packet is given up, and yet the front of a zeroed buffer is an IPv4 header then.
theorem encapsulate_longPacket :
    (∃ cause, (loop.encapsulate longPacket spacious).verdict = .dropped cause) ∧
      (loop.encapsulate longPacket spacious).calls = [] ∧
      Checksum.headerLength4 (loop.encapsulate longPacket spacious).buffer = 20 := by
  have capacity : spacious.length = 70000 := List.length_replicate
  have size : longRead.segment.bytes.length = 65500 := length_segment_longPacket
  have known : loop.context.host = some ⟨0xc0000202#32⟩ := rfl
  have covered : loop.context.nat64.covers longRead.destination = true := by decide
  have converts : ∃ kind bytes, Nat64.Converted .v6 longRead.segment kind bytes :=
    ⟨_, _, .tcp _⟩
  obtain ⟨plan, kind, planned⟩ := Nat64.ToV4.exists_planned_iff.mpr
    ⟨converts, covered, .inl (by rw [known]; rfl), (by omega :
      20 + longRead.segment.bytes.length ≤ spacious.length)⟩
  have length := planned.converted.length_eq
  have framed : added loop.context longRead = 44 := by decide
  have overlong : Nat64.ToV4.Overlong loop.context longRead (added loop.context longRead)
      spacious.length plan kind := ⟨planned, by omega, by omega⟩
  obtain ⟨dropped, unasked, written⟩ := encapsulate_overlong read_longPacket known rfl overlong
  refine ⟨dropped, unasked, ?_⟩
  rw [written, Nat64.Plan.leftover, if_neg (by omega)]
  exact Packet.Header4.Carries.headerLength_packet ..

theorem outbound_left (tunnel : Tunnel) (data buffer : Bytes) (cause : Drop) :
    ((Nat64.toV4 tunnel.context tunnel.hook tunnel.nextId data buffer).verdict = .dropped cause →
      (Nat64.toV4 tunnel.context tunnel.hook tunnel.nextId data buffer).calls = [] →
        Nat64.Left tunnel.context tunnel.nextId data buffer (fun _ => 0)
          (Nat64.toV4 tunnel.context tunnel.hook tunnel.nextId data buffer).buffer) ∧
      ((tunnel.encapsulate data buffer).verdict = .dropped cause →
        (tunnel.encapsulate data buffer).calls = [] →
          Nat64.Left tunnel.context tunnel.nextId data buffer (added tunnel.context)
            (tunnel.encapsulate data buffer).buffer) :=
  ⟨Nat64.toV4_left, encapsulate_left⟩

theorem outbound_left_long :
    ∃ original plan kind, Packet.V6.read longPacket = .ok original ∧
      Nat64.ToV4.Overlong loop.context original (added loop.context original) spacious.length plan
        kind ∧
      (loop.encapsulate longPacket spacious).buffer = plan.leftover kind loop.nextId spacious := by
  obtain ⟨⟨cause, dropped⟩, unasked, header⟩ := encapsulate_longPacket
  have left := (outbound_left loop longPacket spacious cause).2 dropped unasked
  refine left.resolve_left fun same => ?_
  rw [same] at header
  exact absurd header (by decide)

theorem longPacket_left :
    (∃ cause, (loop.encapsulate longPacket spacious).verdict = .dropped cause) ∧
      (loop.encapsulate longPacket spacious).calls = [] ∧
      (loop.encapsulate longPacket spacious).buffer ≠ spacious := by
  obtain ⟨dropped, unasked, header⟩ := encapsulate_longPacket
  refine ⟨dropped, unasked, fun same => ?_⟩
  rw [same] at header
  exact absurd header (by decide)

end Tunnel
end Nat64Gateway
