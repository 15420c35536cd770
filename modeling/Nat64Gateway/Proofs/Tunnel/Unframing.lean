import Nat64Gateway.Proofs.Endpoint
import Nat64Gateway.Proofs.Nat64.ToV6
import Nat64Gateway.Tunnel.Decapsulation

namespace Nat64Gateway.Tunnel

-- The kind and the bytes of the segment that a block and what follows it stand for.
inductive Restored (block : Endpoint.Block) (inner : Bytes) : Segment.Kind → Bytes → Prop where
  | udp : Restored block inner .udp
      (withPorts block ([0, 0, 0, 0] ++ Wire.encode 2 (8 + inner.length) ++ [0, 0] ++ inner))
  | tcp (whole : Segment.Sound ⟨.tcp, inner⟩) : Restored block inner .tcp (withPorts block inner)
  | echo (kind : Icmp.Kind) (long : 8 ≤ inner.length)
      (echoes : (Icmp.Kind.ofHeader .v4 (Wire.byte inner 0) (Wire.byte inner 1)).echo? = some kind) :
      Restored block inner (.icmp .v6) (Wire.overwrite inner 0 [kind.type .v6])

section Restore

variable {block : Endpoint.Block} {inner segment : Bytes}

theorem restore_tcp_eq_ok : restore .tcp block inner = .ok segment ↔
    Segment.Sound ⟨.tcp, inner⟩ ∧ withPorts block inner = segment := by
  unfold restore
  rw [if_neg (by decide), if_pos rfl]
  constructor
  · intro restored
    cases read : Segment.readTcp inner with
    | error fault =>
      rw [read] at restored
      cases restored
    | ok found =>
      rw [read] at restored
      cases restored
      obtain ⟨rfl, sound⟩ := Segment.readTcp_eq_ok read
      exact ⟨sound, rfl⟩
  · rintro ⟨sound, rfl⟩
    rw [Segment.readTcp_of_sound sound]

theorem restore_icmp_eq_ok : restore .icmp6 block inner = .ok segment ↔
    8 ≤ inner.length ∧ ∃ echo,
      (Icmp.Kind.ofHeader .v4 (Wire.byte inner 0) (Wire.byte inner 1)).echo? = some echo ∧
        Wire.overwrite inner 0 [echo.type .v6] = segment := by
  unfold restore
  rw [if_neg (by decide), if_neg (by decide)]
  constructor
  · intro restored
    cases read : Icmp.Message.read .v4 inner with
    | error fault => simp [read] at restored
    | ok message =>
      obtain ⟨long, rfl⟩ := Icmp.Message.read_eq_ok read
      cases found : (Icmp.Message.kind ⟨.v4, inner⟩).echo? with
      | none => simp [read, found] at restored
      | some echo =>
        simp only [read, found] at restored
        exact ⟨long, echo, found, Except.ok.inj restored⟩
  · rintro ⟨long, echo, found, rfl⟩
    simp only [Icmp.Message.read_of_long long, Icmp.Message.kind, found]

theorem restore_eq_ok {protocol : Protocol}
    (marked : protocol = .udp ∨ protocol = .tcp ∨ protocol = .icmp6) :
    restore protocol block inner = .ok segment ↔
      ∃ kind, Segment.Kind.protocol kind = protocol ∧ Restored block inner kind segment := by
  constructor
  · intro restored
    rcases marked with rfl | rfl | rfl
    · cases restored
      exact ⟨.udp, rfl, .udp⟩
    · obtain ⟨sound, rfl⟩ := restore_tcp_eq_ok.mp restored
      exact ⟨.tcp, rfl, .tcp sound⟩
    · obtain ⟨long, echo, echoes, rfl⟩ := restore_icmp_eq_ok.mp restored
      exact ⟨.icmp .v6, rfl, .echo echo long echoes⟩
  · rintro ⟨kind, rfl, restored⟩
    cases restored with
    | udp => rfl
    | tcp whole => exact restore_tcp_eq_ok.mpr ⟨whole, rfl⟩
    | echo echo long echoes => exact restore_icmp_eq_ok.mpr ⟨long, echo, echoes, rfl⟩

end Restore

-- The ports, the length and the blank checksum, as one header in front of the message.
theorem withPorts_blank (block : Endpoint.Block) (inner : Bytes) :
    withPorts block ([0, 0, 0, 0] ++ Wire.encode 2 (8 + inner.length) ++ [0, 0] ++ inner)
      = Wire.encodeWord block.sourcePort ++ Wire.encodeWord block.destinationPort
        ++ (Wire.encode 2 (8 + inner.length) ++ ([0, 0] ++ inner)) := by
  unfold withPorts
  simp only [List.append_assoc]
  rw [Wire.overwrite_append_left (by simp), Wire.overwrite_whole (by simp), List.append_assoc]

theorem length_ports (block : Endpoint.Block) :
    (Wire.encodeWord block.sourcePort ++ Wire.encodeWord block.destinationPort).length = 4 := by
  simp

namespace Restored

variable {block : Endpoint.Block} {inner segment : Bytes} {kind : Segment.Kind}

theorem length_eq (restored : Restored block inner kind segment) :
    segment.length = restoredLength kind.protocol inner := by
  cases restored with
  | udp =>
    rw [withPorts_blank]
    simp [restoredLength, Segment.Kind.protocol]
    omega
  | tcp whole =>
    have long : 20 ≤ inner.length := Nat.le_trans whole.1 whole.2
    exact Wire.length_overwrite (by rw [length_ports]; omega)
  | echo _ long => exact Wire.length_overwrite (Nat.le_trans (by decide : 0 + 1 ≤ 8) long)

theorem sound (restored : Restored block inner kind segment)
    (fits : 8 + inner.length ≤ Datagram.maxLength) : Segment.Sound ⟨kind, segment⟩ := by
  cases restored with
  | udp =>
    have length : (Wire.encodeWord block.sourcePort ++ Wire.encodeWord block.destinationPort
        ++ (Wire.encode 2 (8 + inner.length) ++ ([0, 0] ++ inner))).length = 8 + inner.length := by
      simp
      omega
    have field : Wire.field (Wire.encodeWord block.sourcePort
        ++ Wire.encodeWord block.destinationPort
        ++ (Wire.encode 2 (8 + inner.length) ++ ([0, 0] ++ inner))) 4 2
          = Wire.encode 2 (8 + inner.length) :=
      Wire.field_between (length_ports block) (Wire.length_encode ..)
    rw [withPorts_blank]
    refine ⟨Nat.le_trans (Nat.le_add_right ..) (Nat.le_of_eq length.symm), ?_⟩
    unfold Wire.number
    rw [field, length, Wire.decode_encode_two (Nat.lt_succ_of_le fits)]
  | tcp whole =>
    have long : 20 ≤ inner.length := Nat.le_trans whole.1 whole.2
    exact whole.overwrite (by rw [length_ports]; omega) (.inl (by rw [length_ports]; decide))
  | echo _ long =>
    have asked : Segment.Sound ⟨.icmp .v6, inner⟩ := Nat.le_trans (by decide : 4 ≤ 8) long
    exact asked.overwrite (Nat.le_trans (by decide : 0 + 1 ≤ 8) long) (.inr (Nat.le_refl _))

-- The block's ports go where the segment has its own; echoes have none.
theorem ports (restored : Restored block inner kind segment) (carries : kind = .udp ∨ kind = .tcp) :
    Wire.field segment 0 4
      = Wire.encodeWord block.sourcePort ++ Wire.encodeWord block.destinationPort := by
  cases restored with
  | udp => exact Wire.field_overwrite_self (length_ports block) (Nat.zero_le _)
  | tcp whole => exact Wire.field_overwrite_self (length_ports block) (Nat.zero_le _)
  | echo => rcases carries with udp | tcp <;> contradiction

theorem length_ge (restored : Restored block inner kind segment) : 8 ≤ segment.length := by
  rw [restored.length_eq]
  cases restored with
  | udp => exact Nat.le_add_right ..
  | tcp whole => exact whole.ports (.inr rfl)
  | echo _ long => exact long

end Restored

def carried (packet : Packet.V4) : Bytes :=
  packet.segment.bytes.drop 8

def innerOf (packet : Packet.V4) : Bytes :=
  (carried packet).drop Endpoint.Block.length

structure Unframed (context : Context) (packet : Packet.V4) (capacity : Nat) (flow : Flow)
    (kind : Segment.Kind) : Prop where
  marker : Marker.protocol? packet.dscp = some flow.protocol
  block : Endpoint.Block.read context.portOrder (carried packet) = .ok flow.block
  room : 40 + restoredLength flow.protocol (innerOf packet) ≤ capacity
  named : kind.protocol = flow.protocol
  restored : Restored flow.block (innerOf packet) kind flow.segment

theorem protocol?_iff {dscp : UInt8} {protocol : Protocol} :
    Marker.protocol? dscp = some protocol ↔
      dscp.toNat = 0 ∧ protocol = .udp ∨ dscp.toNat = 6 ∧ protocol = .tcp ∨
        dscp.toNat = 58 ∧ protocol = .icmp6 := by
  unfold Marker.protocol?
  constructor
  · intro marked
    rcases ite_eq_iff.mp marked with ⟨rfl, marked⟩ | ⟨_, marked⟩
    · exact .inl ⟨rfl, (Option.some.inj marked).symm⟩
    rcases ite_eq_iff.mp marked with ⟨rfl, marked⟩ | ⟨_, marked⟩
    · exact .inr (.inl ⟨rfl, (Option.some.inj marked).symm⟩)
    rcases ite_eq_iff.mp marked with ⟨rfl, marked⟩ | ⟨_, marked⟩
    · exact .inr (.inr ⟨rfl, (Option.some.inj marked).symm⟩)
    · cases marked
  · rintro (⟨number, rfl⟩ | ⟨number, rfl⟩ | ⟨number, rfl⟩)
    · rw [show dscp = 0 from UInt8.toNat_inj.mp number]
      rfl
    · rw [show dscp = 6 from UInt8.toNat_inj.mp number]
      rfl
    · rw [show dscp = 58 from UInt8.toNat_inj.mp number]
      rfl

theorem protocol?_eq_some {dscp : UInt8} {protocol : Protocol}
    (marked : Marker.protocol? dscp = some protocol) :
    protocol = .udp ∨ protocol = .tcp ∨ protocol = .icmp6 :=
  (protocol?_iff.mp marked).imp And.right (Or.imp And.right And.right)

theorem flowOf_eq_ok {context : Context} {packet : Packet.V4} {capacity : Nat} {flow : Flow} :
    flowOf context packet capacity = .ok flow ↔
      ∃ kind, Unframed context packet capacity flow kind := by
  unfold flowOf
  simp only [bind, Except.bind]
  constructor
  · intro accepted
    cases marker : Marker.protocol? packet.dscp with
    | none => simp [marker] at accepted
    | some protocol =>
      simp only [marker] at accepted
      cases block : Endpoint.Block.read context.portOrder (packet.segment.bytes.drop 8) with
      | error fault => simp [block] at accepted
      | ok found =>
        simp only [block] at accepted
        obtain ⟨room, accepted⟩ := passed_iff.mp accepted
        cases restored : restore protocol found
            ((packet.segment.bytes.drop 8).drop Endpoint.Block.length) with
        | error cause =>
          rw [restored] at accepted
          cases accepted
        | ok segment =>
          rw [restored] at accepted
          cases accepted
          obtain ⟨kind, named, shape⟩ := (restore_eq_ok (protocol?_eq_some marker)).mp restored
          exact ⟨kind, marker, block, Nat.not_lt.mp room, named, shape⟩
  · rintro ⟨kind, marker, block, room, named, shape⟩
    have restored := (restore_eq_ok (protocol?_eq_some marker)).mpr ⟨kind, named, shape⟩
    unfold innerOf at restored room
    unfold carried at block restored room
    simp only [marker, block]
    rw [if_neg (Nat.not_lt.mpr room)]
    simp only [restored]

theorem Flow.carrier {flow : Flow} {kind : Segment.Kind} (named : kind.protocol = flow.protocol) :
    flow.message.isSome → kind = .udp := by
  intro carries
  rw [Flow.message, Option.isSome_ite] at carries
  have found := Segment.Kind.ofProtocol?_protocol kind
  rw [named, carries.1] at found
  exact (Option.some.inj found).symm

def Names (block : Endpoint.Block) (packet : Packet.V6) : Prop :=
  packet.source = block.source ∧ packet.destination = block.destination ∧
    (packet.segment.kind = .udp ∨ packet.segment.kind = .tcp →
      packet.segment.sourcePort? = some block.sourcePort ∧
        packet.segment.destinationPort? = some block.destinationPort)

theorem names_packet {flow : Flow} {hopLimit : UInt8} {kind : Segment.Kind}
    {hook : Dns64.Hook} {nextId : UInt16} {inner buffer : Bytes} {outcome : Outcome} {length : Nat}
    (restored : Restored flow.block inner kind flow.segment)
    (emission : (flow.plan hopLimit).Emission kind hook nextId buffer outcome length) :
    Names flow.block (((flow.plan hopLimit).header nextId length).packet kind
      ((flow.plan hopLimit).taken hook buffer length)) := by
  refine ⟨Packet.Header6.source_packet .., Packet.Header6.destination_packet .., ?_⟩
  intro carries
  have ports := emission.placed.ports.trans (restored.ports carries)
  obtain ⟨source, destination⟩ := Wire.words_of_field ports
  refine ⟨emission.carries.sourcePort?_packet.trans ?_,
    emission.carries.destinationPort?_packet.trans ?_⟩
  · rcases carries with rfl | rfl <;> exact congrArg some source
  · rcases carries with rfl | rfl <;> exact congrArg some destination

theorem checkPeer_eq_ok {context : Context} {packet : Packet.V4} :
    checkPeer context packet = .ok () ↔
      packet.segment.kind = .udp ∧ packet.source = context.remote.address ∧
        packet.segment.sourcePort? = some context.remote.port := by
  unfold checkPeer
  rw [passed_iff, passed_iff, passed_iff]
  constructor
  · rintro ⟨kind, address, port, _⟩
    exact ⟨Decidable.not_not.mp kind, Decidable.not_not.mp address, Decidable.not_not.mp port⟩
  · rintro ⟨kind, address, port⟩
    exact ⟨not_not_intro kind, not_not_intro address, not_not_intro port, rfl⟩

inductive Received (tunnel : Tunnel) (packet : Packet.V4) (buffer : Bytes) (outcome : Outcome) :
    Prop where
  | plain (unframed : isFramed tunnel.context packet.segment = false)
      (same : outcome = tunnel.plainIn packet buffer)
  | framed (framed : isFramed tunnel.context packet.segment = true)
      (peer : checkPeer tunnel.context packet = .ok ()) (flow : Flow) (kind : Segment.Kind)
      (length : Nat) (unframed : Unframed tunnel.context packet buffer.length flow kind)
      (emission : (flow.plan packet.timeToLive).Emission kind tunnel.hook tunnel.nextId buffer
        outcome length)

theorem Unframed.fits {context : Context} {packet : Packet.V4} {capacity : Nat} {flow : Flow}
    {kind : Segment.Kind} (unframed : Unframed context packet capacity flow kind) :
    40 + flow.segment.length ≤ capacity := by
  have room := unframed.room
  rwa [← unframed.named, ← unframed.restored.length_eq] at room

-- The carrier's header and the block leave room for a UDP header.
theorem Unframed.length_le {context : Context} {packet : Packet.V4} {capacity : Nat} {flow : Flow}
    {kind : Segment.Kind} (unframed : Unframed context packet capacity flow kind) :
    flow.segment.length ≤ packet.segment.bytes.length ∧
      8 + (innerOf packet).length ≤ packet.segment.bytes.length := by
  have block := Endpoint.Block.read_eq_ok unframed.block
  have length := unframed.restored.length_eq
  have most : restoredLength kind.protocol (innerOf packet) ≤ 8 + (innerOf packet).length := by
    unfold restoredLength
    split <;> omega
  unfold innerOf carried Endpoint.Block.length at *
  simp only [List.length_drop] at *
  omega

-- A flow that was found fits into the buffer, and its segment is all there.
theorem Unframed.ready {context : Context} {data : Bytes} {packet : Packet.V4} {capacity : Nat}
    {flow : Flow} {kind : Segment.Kind} (read : Packet.V4.read data = .ok packet)
    (unframed : Unframed context packet capacity flow kind) :
    (flow.plan packet.timeToLive).Ready kind capacity := by
  obtain ⟨_, _, short⟩ := Packet.V4.segment_of_read read
  obtain ⟨segment_le, inner_le⟩ := unframed.length_le
  exact ⟨unframed.named, unframed.restored.sound (Nat.le_trans inner_le short),
    Flow.carrier unframed.named, unframed.restored.length_ge, Nat.le_trans segment_le short,
    unframed.fits⟩

theorem unframe_eq {tunnel : Tunnel} {packet : Packet.V4} {buffer : Bytes} {flow : Flow}
    (peer : checkPeer tunnel.context packet = .ok ())
    (found : flowOf tunnel.context packet buffer.length = .ok flow) :
    tunnel.unframe packet buffer
      = (flow.emit tunnel packet.timeToLive buffer).precededBy
          (Nat64.ToV6.checksumWarnings .tunnel "Decapsulating" packet) := by
  unfold unframe
  simp only [peer, found]

theorem unframe_emitted {tunnel : Tunnel} {packet : Packet.V4} {buffer : Bytes} {n : Nat}
    (emitted : (tunnel.unframe packet buffer).verdict = .emitted n) :
    checkPeer tunnel.context packet = .ok () ∧
      ∃ flow, flowOf tunnel.context packet buffer.length = .ok flow := by
  unfold unframe at emitted
  cases peer : checkPeer tunnel.context packet with
  | error cause =>
    rw [peer] at emitted
    cases emitted
  | ok passed =>
    rw [peer] at emitted
    cases found : flowOf tunnel.context packet buffer.length with
    | error cause =>
      rw [found] at emitted
      cases emitted
    | ok flow => exact ⟨rfl, flow, rfl⟩

theorem decapsulate_plain {tunnel : Tunnel} {data buffer : Bytes} {packet : Packet.V4}
    (read : Packet.V4.read data = .ok packet)
    (unframed : isFramed tunnel.context packet.segment = false) :
    tunnel.decapsulate data buffer = tunnel.plainIn packet buffer := by
  unfold decapsulate
  simp only [read, unframed, Bool.false_eq_true, if_false]

theorem decapsulate_framed {tunnel : Tunnel} {data buffer : Bytes} {packet : Packet.V4}
    (read : Packet.V4.read data = .ok packet)
    (framed : isFramed tunnel.context packet.segment = true) :
    tunnel.decapsulate data buffer = tunnel.unframe packet buffer := by
  unfold decapsulate
  simp only [read, framed, if_true]

-- The way in for a flow that is known, past a hook that changes nothing.
theorem decapsulate_unframed {tunnel : Tunnel} {data buffer : Bytes} {packet : Packet.V4}
    {flow : Flow} {kind : Segment.Kind} (quiet : tunnel.hook = Dns64.passthrough)
    (read : Packet.V4.read data = .ok packet)
    (framed : isFramed tunnel.context packet.segment = true)
    (peer : checkPeer tunnel.context packet = .ok ())
    (unframed : Unframed tunnel.context packet buffer.length flow kind) :
    (tunnel.decapsulate data buffer).verdict = .emitted (40 + flow.segment.length) ∧
      (tunnel.decapsulate data buffer).packet
        = (((flow.plan packet.timeToLive).header tunnel.nextId flow.segment.length).packet kind
            flow.segment).bytes := by
  have ready := unframed.ready read
  have fits : Family.v6.counted + flow.segment.length ≤ Datagram.maxLength :=
    (Nat.zero_add _).symm ▸ ready.short
  rw [decapsulate_framed read framed, unframe_eq peer (flowOf_eq_ok.mpr ⟨kind, unframed⟩)]
  unfold Flow.emit
  rw [quiet]
  exact ⟨(Nat64.Plan.emit_passthrough_iff ready).mpr ⟨rfl, fits⟩,
    Nat64.Plan.packet_passthrough ready tunnel.nextId fits⟩

theorem decapsulate_planned {tunnel : Tunnel} {data buffer : Bytes} {packet : Packet.V4}
    {plan : Nat64.Plan .v6} {kind : Segment.Kind} (quiet : tunnel.hook = Dns64.passthrough)
    (read : Packet.V4.read data = .ok packet)
    (unframed : isFramed tunnel.context packet.segment = false)
    (planned : Nat64.ToV6.Planned tunnel.context packet buffer.length plan kind) :
    (tunnel.decapsulate data buffer).verdict = .emitted (40 + plan.segment.length) ∧
      (tunnel.decapsulate data buffer).packet
        = ((plan.header tunnel.nextId plan.segment.length).packet kind plan.segment).bytes := by
  obtain ⟨_, sound, short⟩ := Packet.V4.segment_of_read read
  rw [decapsulate_plain read unframed, plainIn, quiet]
  exact Nat64.ToV6.run_planned tunnel.nextId sound short planned

theorem decapsulate_emitted {tunnel : Tunnel} {data buffer : Bytes} {n : Nat}
    (emitted : (tunnel.decapsulate data buffer).verdict = .emitted n) :
    ∃ packet, Packet.V4.read data = .ok packet ∧
      Received tunnel packet buffer (tunnel.decapsulate data buffer) := by
  unfold decapsulate at emitted ⊢
  cases read : Packet.V4.read data with
  | error fault =>
    rw [read] at emitted
    cases emitted
  | ok packet =>
    simp only [read] at emitted ⊢
    refine ⟨packet, rfl, ?_⟩
    cases framed : isFramed tunnel.context packet.segment with
    | false => exact .plain framed rfl
    | true =>
      rw [framed] at emitted
      obtain ⟨peer, flow, found⟩ := unframe_emitted emitted
      obtain ⟨kind, unframed⟩ := flowOf_eq_ok.mp found
      rw [if_pos rfl, unframe_eq peer found] at emitted ⊢
      obtain ⟨length, _, emission⟩ := Nat64.Plan.emit_emitted (unframed.ready read) emitted
      exact .framed framed peer flow kind length unframed (emission.relog _)

end Nat64Gateway.Tunnel
