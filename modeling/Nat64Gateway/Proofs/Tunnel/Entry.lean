import Nat64Gateway.Proofs.Tunnel.Admission
import Nat64Gateway.Proofs.Tunnel.Provenance

namespace Nat64Gateway

theorem Icmp.Kind.exists_request_iff {type code : UInt8} :
    (∃ kind, (ofHeader .v4 type code).request? = some kind) ↔ type = 8 ∧ code = 0 := by
  unfold ofHeader
  by_cases request : type = requestType .v4 ∧ code = 0
  · rw [if_pos request]
    exact ⟨fun _ => request, fun _ => ⟨.echoRequest, rfl⟩⟩
  · rw [if_neg request]
    constructor
    · rintro ⟨kind, asks⟩
      split at asks <;> cases asks
    · intro asks
      exact absurd asks request

namespace Segment

section Read

variable {next : UInt8} {payload : Bytes} {segment : Segment}

theorem form_of_ports (found : read ⟨next⟩ payload = .ok segment)
    (ports : segment.kind = .udp ∨ segment.kind = .tcp) :
    Form next payload segment.kind segment.bytes.length := by
  obtain ⟨kind, bytes⟩ := segment
  rcases ports with rfl | rfl
  · exact form_of_read found (.udp bytes)
  · exact form_of_read found (.tcp bytes)

theorem of_form (found : read ⟨next⟩ payload = .ok segment) {kind : Kind} {length : Nat}
    (form : Form next payload kind length) :
    segment.kind = kind ∧ segment.bytes.length = length := by
  obtain ⟨other, found_too, _, named, size⟩ := form_iff.mp form
  cases Except.ok.inj (found.symm.trans found_too)
  exact ⟨named, size⟩

theorem message_of_read (found : read ⟨next⟩ payload = .ok segment) (named : next = 1) :
    segment = ⟨.icmp .v4, payload⟩ := by
  cases named
  exact (readIcmp_eq_ok found).1

-- What may come in as it is: all that has ports, and requests.
theorem converts_iff (found : read ⟨next⟩ payload = .ok segment) :
    (∃ kind bytes, Nat64.Converted .v4 segment kind bytes) ↔
      (segment.kind = .udp ∨ segment.kind = .tcp) ∨
        next = 1 ∧ 8 ≤ payload.length ∧ Wire.byte payload 0 = 8 ∧ Wire.byte payload 1 = 0 := by
  have named := next_of_read found
  constructor
  · rintro ⟨kind, bytes, converted⟩
    cases converted with
    | udp => exact .inl (.inl rfl)
    | tcp => exact .inl (.inr rfl)
    | echo whole kind long asks =>
      cases message_of_read found named.symm
      exact .inr ⟨named.symm, long, Icmp.Kind.exists_request_iff.mp ⟨kind, asks⟩⟩
  · rintro (ports | ⟨named, long, type, code⟩)
    · obtain ⟨kind, bytes⟩ := segment
      rcases ports with rfl | rfl
      · exact ⟨_, _, .udp bytes⟩
      · exact ⟨_, _, .tcp bytes⟩
    · cases message_of_read found named
      obtain ⟨kind, asks⟩ := Icmp.Kind.exists_request_iff.mpr ⟨type, code⟩
      exact ⟨_, _, .echo payload kind long asks⟩

end Read
end Segment

namespace Packet.V4

-- One packet that is all there, at the front of the bytes, and no fragment of another.
structure Whole (data : Bytes) : Prop where
  header : 20 ≤ data.length
  version : (Wire.byte data 0).toNat / 16 = 4
  words : 5 ≤ (Wire.byte data 0).toNat % 16
  payload : 4 * ((Wire.byte data 0).toNat % 16) < Wire.number data 2 2
  total : Wire.number data 2 2 ≤ data.length
  last : Wire.number data 6 2 / 0x2000 % 2 = 0
  first : Wire.number data 6 2 % 0x2000 = 0

theorem isFragment_eq_false_iff {data : Bytes} : isFragment data = false ↔
    Wire.number data 6 2 / 0x2000 % 2 = 0 ∧ Wire.number data 6 2 % 0x2000 = 0 := by
  unfold isFragment
  rw [decide_eq_false_iff_not]
  omega

theorem headerSound_iff {data : Bytes} : HeaderSound data ↔ Whole data := by
  have length : Checksum.headerLength4 data = (Wire.byte data 0).toNat % 16 * 4 := rfl
  constructor
  · rintro ⟨header, payload, total, version, whole⟩
    obtain ⟨last, first⟩ := isFragment_eq_false_iff.mp whole
    exact ⟨by omega, version, by omega, by omega, total, last, first⟩
  · rintro ⟨_, version, words, payload, total, last, first⟩
    exact ⟨by omega, by omega, total, version, isFragment_eq_false_iff.mpr ⟨last, first⟩⟩

-- The header's fields, where they stand in the bytes that were received.

section Read

variable {data : Bytes} {packet : V4}

theorem field_of_read (read : V4.read data = .ok packet) {offset width : Nat}
    (inside : offset + width ≤ 20) :
    Wire.field packet.bytes offset width = Wire.field data offset width := by
  obtain ⟨⟨header, payload, _⟩, cut, _⟩ := read_iff.mp read
  rw [cut, Wire.field_take (by omega)]

theorem dscp_of_read (read : V4.read data = .ok packet) :
    packet.dscp.toNat = (Wire.byte data 1).toNat / 4 := by
  unfold dscp
  rw [Wire.byte_eq_field, field_of_read read (by decide), ← Wire.byte_eq_field,
    UInt8.toNat_shiftRight]
  exact Nat.shiftRight_eq_div_pow ..

theorem source_of_read (read : V4.read data = .ok packet) :
    packet.source = .ofOctets (Wire.field data 12 4) :=
  congrArg Address.V4.ofOctets (field_of_read read (by decide))

theorem destination_of_read (read : V4.read data = .ok packet) :
    packet.destination = .ofOctets (Wire.field data 16 4) :=
  congrArg Address.V4.ofOctets (field_of_read read (by decide))

end Read
end Packet.V4

namespace Tunnel

def Receives (context : Context) (destination : Address.V4) : Prop :=
  context.isBroadcast destination = true ∨
    context.host = some destination ∧ context.localV6.isSome

-- What may travel behind the endpoint block, by the marker in front of it, and how long the segment
-- is that it is restored to.
inductive Cargo (marker : Nat) (inner : Bytes) : Nat → Prop where
  | datagram (marked : marker = 0) : Cargo marker inner (8 + inner.length)
  | stream (marked : marker = 6) (least : 20 ≤ 4 * ((Wire.byte inner 12).toNat / 16))
      (most : 4 * ((Wire.byte inner 12).toNat / 16) ≤ inner.length) :
      Cargo marker inner inner.length
  | echo (marked : marker = 58) (least : 8 ≤ inner.length)
      (type : Wire.byte inner 0 = 8 ∨ Wire.byte inner 0 = 0) (code : Wire.byte inner 1 = 0) :
      Cargo marker inner inner.length

section Framed

variable {context : Context} {packet : Packet.V4} {inner : Bytes}
  {capacity length : Nat}

-- A segment is restored exactly if its marker and its bytes fit together.
theorem cargo_iff (block : Endpoint.Block) {dscp : UInt8} : Cargo dscp.toNat inner length ↔
    ∃ kind segment, Marker.protocol? dscp = some kind.protocol ∧
      Restored block inner kind segment ∧ segment.length = length := by
  constructor
  · intro cargo
    cases cargo with
    | datagram marked =>
      have restored : Restored block inner .udp _ := .udp
      exact ⟨.udp, _, protocol?_iff.mpr (.inl ⟨marked, rfl⟩), restored, restored.length_eq⟩
    | stream marked least most =>
      have restored : Restored block inner .tcp _ :=
        .tcp (Segment.sound_tcp_iff.mpr ⟨least, most⟩)
      exact ⟨.tcp, _, protocol?_iff.mpr (.inr (.inl ⟨marked, rfl⟩)), restored, restored.length_eq⟩
    | echo marked least type code =>
      obtain ⟨kind, echoes⟩ := (Icmp.Kind.exists_echo_iff .v4).mpr ⟨type, code⟩
      have restored : Restored block inner (.icmp .v6) _ := .echo kind least echoes
      exact ⟨.icmp .v6, _, protocol?_iff.mpr (.inr (.inr ⟨marked, rfl⟩)), restored,
        restored.length_eq⟩
  · rintro ⟨kind, segment, marked, restored, rfl⟩
    rw [restored.length_eq]
    cases restored with
    | udp =>
      obtain ⟨zero, _⟩ | ⟨_, other⟩ | ⟨_, other⟩ := protocol?_iff.mp marked
      · exact .datagram zero
      · cases other
      · cases other
    | tcp whole =>
      obtain ⟨_, other⟩ | ⟨six, _⟩ | ⟨_, other⟩ := protocol?_iff.mp marked
      · cases other
      · obtain ⟨least, most⟩ := Segment.sound_tcp_iff.mp whole
        exact .stream six least most
      · cases other
    | echo kind long echoes =>
      obtain ⟨_, other⟩ | ⟨_, other⟩ | ⟨named, _⟩ := protocol?_iff.mp marked
      · cases other
      · cases other
      · obtain ⟨type, code⟩ := (Icmp.Kind.exists_echo_iff .v4).mp ⟨kind, echoes⟩
        exact .echo named long type code

theorem exists_unframed_iff :
    (∃ flow kind, Unframed context packet capacity flow kind ∧ flow.segment.length = length) ↔
      Endpoint.Block.length ≤ (carried packet).length ∧
        Cargo packet.dscp.toNat (innerOf packet) length ∧ 40 + length ≤ capacity := by
  constructor
  · rintro ⟨flow, kind, unframed, rfl⟩
    refine ⟨Endpoint.Block.read_eq_ok unframed.block, (cargo_iff flow.block).mpr ?_, unframed.fits⟩
    exact ⟨kind, flow.segment, unframed.named ▸ unframed.marker, unframed.restored, rfl⟩
  · rintro ⟨long, cargo, room⟩
    obtain ⟨block, read⟩ : ∃ block,
        Endpoint.Block.read context.portOrder (carried packet) = .ok block :=
      ⟨_, if_neg (Nat.not_lt.mpr long)⟩
    obtain ⟨kind, segment, marked, restored, rfl⟩ := (cargo_iff block).mp cargo
    refine ⟨⟨kind.protocol, block, segment⟩, kind, ⟨marked, read, ?_, rfl, restored⟩, rfl⟩
    rw [← restored.length_eq]
    exact room

end Framed

inductive Arrives (context : Context) (packet : Packet.V4) : Nat → Prop where
  | plain (unframed : isFramed context packet.segment = false)
      (converts : ∃ kind bytes, Nat64.Converted .v4 packet.segment kind bytes)
      (receiver : Receives context packet.destination) :
      Arrives context packet packet.segment.bytes.length
  | framed (framed : isFramed context packet.segment = true)
      (peer : checkPeer context packet = .ok ())
      (block : Endpoint.Block.length ≤ (carried packet).length) (length : Nat)
      (cargo : Cargo packet.dscp.toNat (innerOf packet) length) : Arrives context packet length

section Decapsulate

variable {tunnel : Tunnel} {data buffer : Bytes} {packet : Packet.V4} {n : Nat}

theorem decapsulate_plain_iff (quiet : tunnel.hook = Dns64.passthrough)
    (read : Packet.V4.read data = .ok packet)
    (unframed : isFramed tunnel.context packet.segment = false) :
    (tunnel.decapsulate data buffer).verdict = .emitted n ↔
      (∃ kind bytes, Nat64.Converted .v4 packet.segment kind bytes) ∧
        Receives tunnel.context packet.destination ∧
        n = 40 + packet.segment.bytes.length ∧ n ≤ buffer.length := by
  obtain ⟨_, sound, short⟩ := Packet.V4.segment_of_read read
  rw [decapsulate_plain read unframed, plainIn, quiet,
    Nat64.ToV6.run_passthrough_iff sound short, Nat64.ToV6.exists_planned_iff,
    Nat64.ToV6.destinationFor_iff unframed]
  constructor
  · rintro ⟨⟨converts, room, receiver⟩, rfl⟩
    exact ⟨converts, receiver, rfl, room⟩
  · rintro ⟨converts, receiver, rfl, room⟩
    exact ⟨⟨converts, room, receiver⟩, rfl⟩

theorem decapsulate_framed_iff (quiet : tunnel.hook = Dns64.passthrough)
    (read : Packet.V4.read data = .ok packet)
    (framed : isFramed tunnel.context packet.segment = true) :
    (tunnel.decapsulate data buffer).verdict = .emitted n ↔
      checkPeer tunnel.context packet = .ok () ∧
        ∃ flow kind, Unframed tunnel.context packet buffer.length flow kind ∧
          n = 40 + flow.segment.length := by
  constructor
  · intro emitted
    obtain ⟨same_packet, same_read, form⟩ := decapsulate_emitted emitted
    cases Except.ok.inj (read.symm.trans same_read)
    cases form with
    | plain unframed =>
      rw [framed] at unframed
      cases unframed
    | framed framed peer flow kind length unframed =>
      obtain ⟨verdict, _⟩ := decapsulate_unframed quiet read framed peer unframed
      exact ⟨peer, flow, kind, unframed, Verdict.emitted.inj (emitted.symm.trans verdict)⟩
  · rintro ⟨peer, flow, kind, unframed, rfl⟩
    exact (decapsulate_unframed quiet read framed peer unframed).1

theorem decapsulate_iff (quiet : tunnel.hook = Dns64.passthrough)
    (read : Packet.V4.read data = .ok packet) :
    (tunnel.decapsulate data buffer).verdict = .emitted n ↔
      ∃ length, Arrives tunnel.context packet length ∧ n = 40 + length ∧ n ≤ buffer.length := by
  cases framed : isFramed tunnel.context packet.segment with
  | false =>
    rw [decapsulate_plain_iff quiet read framed]
    constructor
    · rintro ⟨converts, receiver, size, room⟩
      exact ⟨_, .plain framed converts receiver, size, room⟩
    · rintro ⟨length, arrives, size, room⟩
      cases arrives with
      | plain _ converts receiver => exact ⟨converts, receiver, size, room⟩
      | framed other =>
        rw [framed] at other
        cases other
  | true =>
    rw [decapsulate_framed_iff quiet read framed]
    constructor
    · rintro ⟨peer, flow, kind, unframed, rfl⟩
      obtain ⟨block, cargo, room⟩ := exists_unframed_iff.mp ⟨flow, kind, unframed, rfl⟩
      exact ⟨_, .framed framed peer block _ cargo, rfl, room⟩
    · rintro ⟨length, arrives, rfl, room⟩
      cases arrives with
      | plain other =>
        rw [framed] at other
        cases other
      | framed _ peer block _ cargo =>
        obtain ⟨flow, kind, unframed, rfl⟩ := exists_unframed_iff.mpr ⟨block, cargo, room⟩
        exact ⟨peer, flow, kind, unframed, rfl⟩

end Decapsulate

-- The forms in which a packet comes in, in terms of its own bytes, and how long the segment is that
-- comes out. A framed packet's own length is that of its carrier.
inductive Enters (context : Context) (data : Bytes) : Nat → Prop where
  | plain (kind : Segment.Kind) (ports : kind = .udp ∨ kind = .tcp) (length : Nat)
      (form : Segment.Form (Wire.byte data 9) (Packet.V4.payload data) kind length)
      (exempt : Wire.word (Packet.V4.payload data) 2 < context.threshold)
      (receiver : Receives context (.ofOctets (Wire.field data 16 4))) : Enters context data length
  | request (named : Wire.byte data 9 = 1) (least : 8 ≤ (Packet.V4.payload data).length)
      (type : Wire.byte (Packet.V4.payload data) 0 = 8)
      (code : Wire.byte (Packet.V4.payload data) 1 = 0)
      (receiver : Receives context (.ofOctets (Wire.field data 16 4))) :
      Enters context data (Packet.V4.payload data).length
  | framed (carrier : Nat)
      (form : Segment.Form (Wire.byte data 9) (Packet.V4.payload data) .udp carrier)
      (relayed : context.threshold ≤ Wire.word (Packet.V4.payload data) 2)
      (source : Address.V4.ofOctets (Wire.field data 12 4) = context.remote.address)
      (sourcePort : Wire.word (Packet.V4.payload data) 0 = context.remote.port)
      (block : 44 ≤ carrier) (length : Nat)
      (cargo : Cargo ((Wire.byte data 1).toNat / 4)
        (((Packet.V4.payload data).take carrier).drop 44) length) : Enters context data length

theorem isFramed_read {context : Context} {next : UInt8} {payload : Bytes} {segment : Segment}
    (found : Segment.read ⟨next⟩ payload = .ok segment)
    (ports : segment.kind = .udp ∨ segment.kind = .tcp) :
    isFramed context segment = decide (context.threshold ≤ Wire.word payload 2) := by
  have port : segment.destinationPort? = some (Wire.word payload 2) := by
    rw [← Segment.word_of_read found ports (by decide)]
    obtain ⟨kind, bytes⟩ := segment
    rcases ports with rfl | rfl <;> rfl
  rw [isFramed_of_port port]
  unfold Context.exempts
  rw [← decide_not]
  exact decide_eq_decide.mpr UInt16.not_lt

section Read

variable {context : Context} {data : Bytes} {packet : Packet.V4} {length : Nat}

-- Where the peer's datagram carries its block, and what comes behind it.
theorem carried_of_read
    (found : Segment.read ⟨Wire.byte data 9⟩ (Packet.V4.payload data) = .ok packet.segment) :
    (carried packet).length = packet.segment.bytes.length - 8 ∧
      innerOf packet
        = ((Packet.V4.payload data).take packet.segment.bytes.length).drop 44 := by
  obtain ⟨_, _, cut, _⟩ := Segment.read_eq_ok found
  refine ⟨List.length_drop, ?_⟩
  unfold innerOf carried
  rw [List.drop_drop, ← cut]
  rfl

theorem peer_iff
    (found : Segment.read ⟨Wire.byte data 9⟩ (Packet.V4.payload data) = .ok packet.segment)
    (read : Packet.V4.read data = .ok packet) :
    checkPeer context packet = .ok () ↔ packet.segment.kind = .udp ∧
      Address.V4.ofOctets (Wire.field data 12 4) = context.remote.address ∧
      Wire.word (Packet.V4.payload data) 0 = context.remote.port := by
  rw [checkPeer_eq_ok, Packet.V4.source_of_read read]
  refine and_congr_right fun kind => and_congr_right fun _ => ?_
  rw [← Segment.word_of_read found (.inl kind) (by decide)]
  unfold Segment.sourcePort?
  rw [kind]
  exact Option.some_inj

theorem enters_iff (read : Packet.V4.read data = .ok packet) :
    Arrives context packet length ↔ Enters context data length := by
  obtain ⟨_, _, found⟩ := Packet.V4.read_iff.mp read
  constructor
  · intro arrives
    cases arrives with
    | plain unframed converts receiver =>
      rw [Packet.V4.destination_of_read read] at receiver
      obtain ports | ⟨named, long, type, code⟩ := (Segment.converts_iff found).mp converts
      · rw [isFramed_read found ports] at unframed
        exact .plain _ ports _ (Segment.form_of_ports found ports)
          (UInt16.not_le.mp (of_decide_eq_false unframed)) receiver
      · rw [Segment.message_of_read found named]
        exact .request named long type code receiver
    | framed framed peer block _ cargo =>
      obtain ⟨kind, source, port⟩ := (peer_iff found read).mp peer
      obtain ⟨size, inner⟩ := carried_of_read found
      rw [isFramed_read found (.inl kind)] at framed
      rw [Packet.V4.dscp_of_read read, inner] at cargo
      have form := Segment.form_of_ports found (.inl kind)
      rw [kind] at form
      unfold Endpoint.Block.length at block
      exact .framed _ form (of_decide_eq_true framed) source port (by omega) _ cargo
  · intro enters
    cases enters with
    | plain kind ports length form exempt receiver =>
      obtain ⟨rfl, rfl⟩ := Segment.of_form found form
      rw [← Packet.V4.destination_of_read read] at receiver
      refine .plain ?_ ((Segment.converts_iff found).mpr (.inl ports)) receiver
      rw [isFramed_read found ports]
      exact decide_eq_false (UInt16.not_le.mpr exempt)
    | request named least type code receiver =>
      have message := Segment.message_of_read found named
      rw [← Packet.V4.destination_of_read read] at receiver
      have unframed : isFramed context packet.segment = false := by
        rw [message]
        rfl
      have converts := (Segment.converts_iff found).mpr (.inr ⟨named, least, type, code⟩)
      have arrives := Arrives.plain unframed converts receiver
      rwa [message] at arrives
    | framed carrier form relayed source sourcePort block _ cargo =>
      obtain ⟨kind, rfl⟩ := Segment.of_form found form
      obtain ⟨size, inner⟩ := carried_of_read found
      rw [← inner, ← Packet.V4.dscp_of_read read] at cargo
      refine .framed ?_ ((peer_iff found read).mpr ⟨kind, source, sourcePort⟩) ?_ _ cargo
      · rw [isFramed_read found (.inl kind)]
        exact decide_eq_true relayed
      · unfold Endpoint.Block.length
        omega

theorem Enters.segment (enters : Enters context data length) : ∃ segment,
    Segment.read ⟨Wire.byte data 9⟩ (Packet.V4.payload data) = .ok segment := by
  cases enters with
  | plain kind _ _ form =>
    obtain ⟨segment, found, _⟩ := Segment.form_iff.mp form
    exact ⟨segment, found⟩
  | request named least =>
    rw [named]
    exact ⟨_, Segment.readIcmp_of_sound (Nat.le_trans (by decide : 4 ≤ 8) least)⟩
  | framed _ form =>
    obtain ⟨segment, found, _⟩ := Segment.form_iff.mp form
    exact ⟨segment, found⟩

end Read

theorem decapsulate_emitted_iff {tunnel : Tunnel} (quiet : tunnel.hook = Dns64.passthrough)
    (data buffer : Bytes) (n : Nat) :
    (tunnel.decapsulate data buffer).verdict = .emitted n ↔ Packet.V4.Whole data ∧
      ∃ length, Enters tunnel.context data length ∧ n = 40 + length ∧ n ≤ buffer.length := by
  constructor
  · intro emitted
    obtain ⟨packet, read, _⟩ := decapsulate_emitted emitted
    obtain ⟨length, arrives, size, room⟩ := (decapsulate_iff quiet read).mp emitted
    obtain ⟨sound, _⟩ := Packet.V4.read_iff.mp read
    exact ⟨Packet.V4.headerSound_iff.mp sound, length, (enters_iff read).mp arrives, size, room⟩
  · rintro ⟨whole, length, enters, size, room⟩
    obtain ⟨segment, found⟩ := enters.segment
    have read : Packet.V4.read data = .ok ⟨data.take (Wire.number data 2 2), segment⟩ :=
      Packet.V4.read_iff.mpr ⟨Packet.V4.headerSound_iff.mpr whole, rfl, found⟩
    exact (decapsulate_iff quiet read).mpr ⟨length, (enters_iff read).mpr enters, size, room⟩

-- An echo reply from the peer, behind a header with an option and in front of two bytes that are
-- none of its own.
def framedReply : Bytes :=
  [0x46, 58 * 4, 0, 76, 0, 0, 0, 0, 64, 17, 0, 0, 192, 0, 2, 2, 192, 0, 2, 2, 1, 1, 1, 0]
    ++ [0x23, 0x28, 0x23, 0x28, 0, 52, 0, 0] ++ List.replicate 36 0
    ++ [0, 0, 0, 0, 0, 1, 0, 1] ++ [7, 7]

theorem decapsulate_emitted_iff_reply :
    (loop.decapsulate framedReply (List.replicate 48 0)).verdict = .emitted 48 := by
  have quiet : loop.hook = Dns64.passthrough := rfl
  have whole : Packet.V4.Whole framedReply :=
    ⟨by decide, by decide, by decide, by decide, by decide, by decide, by decide⟩
  have form : Segment.Form (Wire.byte framedReply 9) (Packet.V4.payload framedReply) .udp 52 :=
    .udp (by decide) (by decide) (by decide)
  have enters : Enters loop.context framedReply 8 :=
    .framed 52 form (by decide) (by decide) (by decide) (by decide) _
      (.echo (by decide) (by decide) (.inr (by decide)) (by decide))
  exact (decapsulate_emitted_iff quiet framedReply (List.replicate 48 0) 48).mpr
    ⟨whole, 8, enters, rfl, by decide⟩

end Tunnel
end Nat64Gateway
