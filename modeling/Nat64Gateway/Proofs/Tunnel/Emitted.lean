import Nat64Gateway.Proofs.Packet.Ends
import Nat64Gateway.Proofs.Tunnel.Framing
import Nat64Gateway.Proofs.Tunnel.Unframing

namespace Nat64Gateway.Tunnel

structure Departed (tunnel : Tunnel) (original : Packet.V6) (buffer : Bytes) (outcome : Outcome)
    (n : Nat) (sent : Packet.V4) : Prop where
  kept : outcome.buffer.length = buffer.length
  room : n ≤ buffer.length
  least : 28 ≤ n
  most : n ≤ 65535
  total : sent.totalLength = n
  wellFormed : Packet.V4.WellFormed (outcome.buffer.take n) sent
  timeToLive : sent.timeToLive = original.hopLimit
  source : sent.source = tunnel.context.host.getD .unspecified

-- A port where it stands behind the header of an IPv6 packet. Only TCP and UDP have ports.
def portBytes (data : Bytes) (offset : Nat) : Bytes :=
  if Wire.byte data 6 = 6 ∨ Wire.byte data 6 = 17 then Wire.field data offset 2 else [0, 0]

-- The outer form of the packet in `data`: between its own headers and the rest, `packet` repeats the
-- addresses and the ports of `data` byte by byte.
structure FramedAs (tunnel : Tunnel) (data packet : Bytes) (sent : Packet.V4) : Prop where
  kind : sent.segment.kind = .udp
  sourcePort : sent.segment.sourcePort? = some tunnel.context.localPort
  destination : sent.destination = tunnel.context.remote.address
  destinationPort : sent.segment.destinationPort? = some tunnel.context.remote.port
  blockSource : Wire.field packet 28 16 = Wire.field data 8 16
  blockSourcePort : Wire.field packet 44 2
    = tunnel.context.portOrder.arrange (portBytes data 40)
  blockDestination : Wire.field packet 46 16 = Wire.field data 24 16
  blockDestinationPort : Wire.field packet 62 2 = portBytes data 42

structure Arrived (outer : Packet.V4) (buffer : Bytes) (outcome : Outcome) (n : Nat)
    (restored : Packet.V6) : Prop where
  kept : outcome.buffer.length = buffer.length
  room : n ≤ buffer.length
  least : 48 ≤ n
  payload : restored.payloadLength = n - 40
  wellFormed : Packet.V6.WellFormed (outcome.buffer.take n) restored
  hopLimit : restored.hopLimit = outer.timeToLive

-- A restored packet has the addresses and the ports of the block that came with it.
structure Reinstates (order : Endpoint.PortOrder) (block packet : Bytes) (kind : Segment.Kind) :
    Prop where
  source : Wire.field packet 8 16 = Wire.field block 0 16
  destination : Wire.field packet 24 16 = Wire.field block 18 16
  sourcePort : kind = .udp ∨ kind = .tcp →
    Wire.field packet 40 2 = order.arrange (Wire.field block 16 2)
  destinationPort : kind = .udp ∨ kind = .tcp →
    Wire.field packet 42 2 = Wire.field block 34 2

theorem departed_of_carries {tunnel : Tunnel} {original : Packet.V6} {buffer segment rest : Bytes}
    {outcome : Outcome} {header : Packet.Header4} {kind : Segment.Kind}
    (carries : header.Carries kind segment)
    (buffer_eq : outcome.buffer = (header.packet kind segment).bytes ++ rest)
    (kept : outcome.buffer.length = buffer.length) (least : 28 ≤ header.totalLength)
    (timeToLive : header.timeToLive = original.hopLimit)
    (source : header.source = tunnel.context.host.getD .unspecified) :
    Departed tunnel original buffer outcome header.totalLength (header.packet kind segment) := by
  have total := carries.length_packet
  have front : outcome.buffer.take header.totalLength = (header.packet kind segment).bytes := by
    rw [buffer_eq, List.take_left' total]
  refine ⟨kept, ?_, least, carries.fits, total, ?_, ?_, ?_⟩
  · rw [← kept, buffer_eq, List.length_append, total]
    exact Nat.le_add_right ..
  · rw [front]
    exact Packet.Header4.wellFormed_packet carries
  · rw [Packet.Header4.timeToLive_packet, timeToLive]
  · rw [Packet.Header4.source_packet, source]

theorem plainOut_emitted {tunnel : Tunnel} {data buffer : Bytes} {original : Packet.V6} {n : Nat}
    (read : Packet.V6.read data = .ok original)
    (emitted : (tunnel.plainOut original buffer).verdict = .emitted n) :
    ∃ sent, Departed tunnel original buffer (tunnel.plainOut original buffer) n sent := by
  obtain ⟨_, sound, short, _⟩ := Packet.V6.segment_of_read read
  obtain ⟨plan, kind, length, planned, rfl, emission⟩ := Nat64.ToV4.run_emitted sound short emitted
  have ready := planned.ready sound short
  have kept := emission.length_buffer ready.length_place
  have least := emission.placed.length_ge ready.carrier ready.long
  have departed := departed_of_carries emission.carries emission.buffer_eq kept
    (Nat.add_le_add_left least 20) planned.hops (Nat64.ToV4.sourceFor_eq_ok planned.source)
  exact ⟨_, departed⟩

section Block

variable {data : Bytes} {original : Packet.V6}

theorem octets_of_read (read : Packet.V6.read data = .ok original) :
    original.source.octets = Wire.field data 8 16 ∧
      original.destination.octets = Wire.field data 24 16 := by
  obtain ⟨⟨_, total⟩, cut, _⟩ := Packet.V6.read_iff.mp read
  have address : ∀ offset, offset + 16 ≤ 40 →
      (Address.V6.ofOctets (Wire.field original.bytes offset 16)).octets
        = Wire.field data offset 16 := by
    intro offset inside
    rw [cut, Wire.field_take (by omega), Address.V6.octets_ofOctets (Wire.length_field (by omega))]
  exact ⟨address 8 (by decide), address 24 (by decide)⟩

theorem ports_of_read (read : Packet.V6.read data = .ok original) :
    Wire.encodeWord (blockOf original).sourcePort = portBytes data 40 ∧
      Wire.encodeWord (blockOf original).destinationPort = portBytes data 42 := by
  obtain ⟨protocol, sound, _, behind⟩ := Packet.V6.segment_of_read read
  have port : 8 ≤ original.segment.bytes.length → ∀ offset, offset + 2 ≤ 8 →
      Wire.encodeWord (Wire.word original.segment.bytes offset)
        = Wire.field data (40 + offset) 2 := by
    intro long offset inside
    rw [Wire.encodeWord_word (by omega), behind, Wire.field_take (by omega), Wire.field_drop]
  have byte : Wire.byte data 6 = original.segment.kind.protocol.number :=
    congrArg Protocol.number protocol.symm
  unfold blockOf portBytes Segment.sourcePort? Segment.destinationPort?
  rw [byte]
  cases kind : original.segment.kind with
  | udp =>
    have long := sound.ports (.inl kind)
    exact ⟨port long 0 (by decide), port long 2 (by decide)⟩
  | tcp =>
    have long := sound.ports (.inr kind)
    exact ⟨port long 0 (by decide), port long 2 (by decide)⟩
  | icmp family =>
    have portless : ¬((Segment.Kind.icmp family).protocol.number = 6 ∨
        (Segment.Kind.icmp family).protocol.number = 17) := by cases family <;> decide
    have zero : Wire.encodeWord 0 = [0, 0] := by decide
    rw [if_neg portless, if_neg portless]
    exact ⟨zero, zero⟩

theorem framedAs_packet {tunnel : Tunnel} {host : Address.V4} {inner : Bytes}
    (read : Packet.V6.read data = .ok original)
    (carries : (tunnel.outerHeader host original inner).Carries .udp
      (outerSegment tunnel.context original inner)) :
    FramedAs tunnel data
      ((tunnel.outerHeader host original inner).packet .udp
        (outerSegment tunnel.context original inner)).bytes
      ((tunnel.outerHeader host original inner).packet .udp
        (outerSegment tunnel.context original inner)) := by
  obtain ⟨source, destination⟩ := words_outerSegment tunnel.context original inner
  obtain ⟨source_octets, destination_octets⟩ := octets_of_read read
  obtain ⟨source_port, destination_port⟩ := ports_of_read read
  have block : ∀ offset width, Wire.field ((tunnel.outerHeader host original inner).packet .udp
        (outerSegment tunnel.context original inner)).bytes (28 + offset) width
      = Wire.field ((blockOf original).encode tunnel.context.portOrder ++ inner) offset width := by
    intro offset width
    rw [← Wire.field_drop, carries.drop_packet, drop_outerSegment]
  refine ⟨rfl, ?_, Packet.Header4.destination_packet .., ?_, ?_, ?_, ?_, ?_⟩
  · exact carries.sourcePort?_packet.trans (congrArg some source)
  · exact carries.destinationPort?_packet.trans (congrArg some destination)
  · rw [block 0, Endpoint.Block.field_source]
    exact source_octets
  · rw [block 16, Endpoint.Block.field_sourcePort, source_port]
  · rw [block 18, Endpoint.Block.field_destination]
    exact destination_octets
  · rw [block 34, Endpoint.Block.field_destinationPort, destination_port]

theorem reinstates_packet {flow : Flow} {hopLimit : UInt8} {kind : Segment.Kind}
    {hook : Dns64.Hook} {nextId : UInt16} {inner buffer block : Bytes}
    {order : Endpoint.PortOrder} {outcome : Outcome} {length : Nat}
    (stated : Endpoint.Block.read order block = .ok flow.block)
    (restored : Restored flow.block inner kind flow.segment)
    (emission : (flow.plan hopLimit).Emission kind hook nextId buffer outcome length) :
    Reinstates order block outcome.packet kind := by
  obtain ⟨source, source_port, destination, destination_port⟩ :=
    Endpoint.Block.fields_of_read stated
  rw [emission.packet_eq_v6]
  have ports : kind = .udp ∨ kind = .tcp →
      Wire.field (((flow.plan hopLimit).header nextId length).packet kind
          ((flow.plan hopLimit).taken hook buffer length)).bytes 40 4
        = Wire.encodeWord flow.block.sourcePort ++ Wire.encodeWord flow.block.destinationPort := by
    intro carries
    exact (emission.carries.field_ports carries).trans
      (emission.placed.ports.trans (restored.ports carries))
  refine ⟨?_, ?_, ?_, ?_⟩
  · rw [← source]
    exact Packet.Header6.field_source_packet ..
  · rw [← destination]
    exact Packet.Header6.field_destination_packet ..
  · intro carries
    rw [← source_port, ← Wire.field_field _ 40 (by decide : 0 + 2 ≤ 4), ports carries]
    exact Wire.field_prefix (Wire.length_encodeWord _)
  · intro carries
    rw [← destination_port, ← Wire.field_field _ 40 (by decide : 2 + 2 ≤ 4), ports carries]
    exact Wire.field_suffix (Wire.length_encodeWord _) (Wire.length_encodeWord _)

end Block

theorem plainOut_complete {tunnel : Tunnel} {data buffer : Bytes} {original : Packet.V6}
    {length : Nat} (read : Packet.V6.read data = .ok original)
    (emitted : (tunnel.plainOut original buffer).verdict = .emitted length) :
    innerStart original.segment.protocol ≤ length ∧
      (tunnel.plainOut original buffer).packet.length = length := by
  obtain ⟨sent, departed⟩ := plainOut_emitted read emitted
  have least := departed.least
  refine ⟨by unfold innerStart; split <;> omega, ?_⟩
  unfold Outcome.packet Outcome.length
  rw [emitted, List.length_take, departed.kept]
  exact Nat.min_eq_left departed.room

theorem encapsulate_framed {tunnel : Tunnel} {data buffer : Bytes} {original : Packet.V6} {n : Nat}
    (read : Packet.V6.read data = .ok original)
    (tunneled : bypasses tunnel.context original.segment = false)
    (emitted : (tunnel.encapsulate data buffer).verdict = .emitted n) :
    ∃ host length, tunnel.context.host = some host ∧
      (tunnel.plainOut original buffer).verdict = .emitted length ∧
      Framed tunnel host original ((tunnel.plainOut original buffer).packet.drop
          (innerStart original.segment.protocol)) (tunnel.plainOut original buffer)
        (tunnel.encapsulate data buffer) n := by
  obtain ⟨same_original, same_read, form⟩ := encapsulate_emitted emitted
  cases Except.ok.inj (read.symm.trans same_read)
  cases form with
  | plain bypass =>
    rw [tunneled] at bypass
    cases bypass
  | framed host known tunneled same =>
    rw [same] at emitted ⊢
    obtain ⟨⟨length, verdict⟩, framed⟩ :=
      frame_emitted (fun _ verdict => plainOut_complete read verdict) emitted
    exact ⟨host, length, known, verdict, framed⟩

theorem encapsulate_plain {tunnel : Tunnel} {data buffer : Bytes} {original : Packet.V6}
    (read : Packet.V6.read data = .ok original)
    (bypass : bypasses tunnel.context original.segment = true) :
    tunnel.encapsulate data buffer = tunnel.plainOut original buffer := by
  unfold encapsulate
  simp only [read, bypass, if_true]

theorem encapsulate_departed {tunnel : Tunnel} {data buffer : Bytes} {n : Nat}
    (emitted : (tunnel.encapsulate data buffer).verdict = .emitted n) :
    ∃ original sent, Packet.V6.read data = .ok original ∧
      Departed tunnel original buffer (tunnel.encapsulate data buffer) n sent ∧
      (bypasses tunnel.context original.segment = false →
        FramedAs tunnel data (tunnel.encapsulate data buffer).packet sent) := by
  obtain ⟨original, read, _⟩ := encapsulate_emitted emitted
  cases bypass : bypasses tunnel.context original.segment with
  | true =>
    rw [encapsulate_plain read bypass] at emitted ⊢
    obtain ⟨sent, departed⟩ := plainOut_emitted read emitted
    refine ⟨original, sent, read, departed, ?_⟩
    intro tunneled
    rw [bypass] at tunneled
    cases tunneled
  | false =>
    obtain ⟨host, length, known, verdict, framed⟩ := encapsulate_framed read bypass emitted
    obtain ⟨_, departed⟩ := plainOut_emitted read verdict
    have kept := framed.length_buffer.trans departed.kept
    have source : host = tunnel.context.host.getD .unspecified := by
      rw [known]
      rfl
    have least : 28 ≤ (tunnel.outerHeader host original
        ((tunnel.plainOut original buffer).packet.drop
          (innerStart original.segment.protocol))).totalLength := by
      simp only [outerHeader]
      omega
    refine ⟨original, _, read,
      framed.total ▸ departed_of_carries framed.carries framed.buffer_eq kept least rfl source, ?_⟩
    intro _
    rw [framed.packet_eq]
    exact framedAs_packet read framed.carries

theorem arrived_of_emission {outer : Packet.V4} {plan : Nat64.Plan .v6} {kind : Segment.Kind}
    {hook : Dns64.Hook} {nextId : UInt16} {buffer : Bytes} {outcome : Outcome} {length : Nat}
    (emission : plan.Emission kind hook nextId buffer outcome length)
    (ready : plan.Ready kind buffer.length) (hops : plan.hops = outer.timeToLive) :
    Arrived outer buffer outcome (40 + length)
      ((plan.header nextId length).packet kind (plan.taken hook buffer length)) := by
  have front : outcome.buffer.take (40 + length)
      = ((plan.header nextId length).packet kind (plan.taken hook buffer length)).bytes := by
    rw [emission.buffer_eq]
    exact List.take_left' emission.length_front
  refine ⟨emission.length_buffer ready.length_place, emission.placed.inside,
    Nat.add_le_add_left (emission.placed.length_ge ready.carrier ready.long) 40, ?_, ?_, ?_⟩
  · rw [emission.carries.payloadLength_packet, Nat.add_sub_cancel_left]
    rfl
  · rw [front]
    exact Packet.Header6.wellFormed_packet emission.carries
  · exact (Packet.Header6.hopLimit_packet ..).trans hops

theorem decapsulate_arrived {tunnel : Tunnel} {data buffer : Bytes} {n : Nat}
    (emitted : (tunnel.decapsulate data buffer).verdict = .emitted n) :
    ∃ outer restored, Packet.V4.read data = .ok outer ∧
      Arrived outer buffer (tunnel.decapsulate data buffer) n restored ∧
      (isFramed tunnel.context outer.segment = true →
        (∃ block, Endpoint.Block.read tunnel.context.portOrder (carried outer) = .ok block ∧
          Names block restored) ∧
        Reinstates tunnel.context.portOrder (carried outer)
          (tunnel.decapsulate data buffer).packet restored.segment.kind) := by
  obtain ⟨outer, read, form⟩ := decapsulate_emitted emitted
  obtain ⟨_, sound, short⟩ := Packet.V4.segment_of_read read
  cases form with
  | plain unframed same =>
    rw [same] at emitted ⊢
    obtain ⟨plan, kind, length, planned, rfl, emission⟩ :=
      Nat64.ToV6.run_emitted sound short emitted
    refine ⟨outer, _, read,
      arrived_of_emission emission (planned.ready sound short) planned.hops, ?_⟩
    intro framed
    rw [unframed] at framed
    cases framed
  | framed framed peer flow kind length unframed emission =>
    have total : n = 40 + length := by
      have same := emitted.symm.trans emission.verdict
      cases same
      rfl
    subst total
    refine ⟨outer, _, read, arrived_of_emission emission (unframed.ready read) rfl, ?_⟩
    intro _
    exact ⟨⟨flow.block, unframed.block, names_packet unframed.restored emission⟩,
      reinstates_packet unframed.block unframed.restored emission⟩

theorem emitted_wellFormed (tunnel : Tunnel) (data buffer : Bytes) (n : Nat) :
    ((tunnel.encapsulate data buffer).verdict = .emitted n →
      ∃ original sent, Packet.V6.read data = .ok original ∧
        Departed tunnel original buffer (tunnel.encapsulate data buffer) n sent ∧
        (bypasses tunnel.context original.segment = false →
          FramedAs tunnel data (tunnel.encapsulate data buffer).packet sent)) ∧
    ((tunnel.decapsulate data buffer).verdict = .emitted n →
      ∃ outer restored, Packet.V4.read data = .ok outer ∧
        Arrived outer buffer (tunnel.decapsulate data buffer) n restored ∧
        (isFramed tunnel.context outer.segment = true →
          (∃ block, Endpoint.Block.read tunnel.context.portOrder (carried outer) = .ok block ∧
            Names block restored) ∧
          Reinstates tunnel.context.portOrder (carried outer)
            (tunnel.decapsulate data buffer).packet restored.segment.kind)) :=
  ⟨encapsulate_departed, decapsulate_arrived⟩

-- A tunnel whose remote end is its own, and a datagram of one byte to the mapped block.
def loop : Tunnel where
  context := { host := some ⟨0xc0000202#32⟩, remote := ⟨⟨0xc0000202#32⟩, 9000⟩ }

def datagram : Bytes :=
  [0x60, 0, 0, 0, 0, 9, 17, 64] ++ Address.V6.octets ⟨0xfd000000000000000000000000000001#128⟩
    ++ Address.V6.octets ⟨0xffffc0000207#128⟩ ++ [0x13, 0x88, 0x17, 0x70, 0, 9, 0x0e, 0xdb, 7]

def blank : Bytes := List.replicate 80 0

def datagramRead : Packet.V6 :=
  ⟨datagram, ⟨.udp, datagram.drop 40⟩⟩

def datagramSent : Bytes :=
  (loop.encapsulate datagram blank).packet

def sentRead : Packet.V4 :=
  ⟨datagramSent, ⟨.udp, datagramSent.drop 20⟩⟩

theorem emitted_wellFormed_loop :
    (∃ sent, Departed loop datagramRead blank (loop.encapsulate datagram blank) 65 sent ∧
      FramedAs loop datagram datagramSent sent) ∧
    Wire.field datagramSent 28 36
      = Address.V6.octets ⟨0xfd000000000000000000000000000001#128⟩ ++ [0x88, 0x13]
        ++ Address.V6.octets ⟨0xffffc0000207#128⟩ ++ [0x17, 0x70] ∧
    ∃ block restored, Arrived sentRead blank (loop.decapsulate datagramSent blank) 49 restored ∧
      Names block restored ∧
      Reinstates .reversed (Wire.field datagramSent 28 37)
        (loop.decapsulate datagramSent blank).packet restored.segment.kind := by
  obtain ⟨original, sent, read, departed, framed⟩ :=
    (emitted_wellFormed loop datagram blank 65).1 (by rfl)
  obtain ⟨outer, restored, read_outer, arrived, reinstated⟩ :=
    (emitted_wellFormed loop datagramSent blank 49).2 (by rfl)
  have same : Packet.V6.read datagram = .ok datagramRead := by rfl
  have same_outer : Packet.V4.read datagramSent = .ok sentRead := by rfl
  cases Except.ok.inj (same.symm.trans read)
  cases Except.ok.inj (same_outer.symm.trans read_outer)
  have framedAs := framed (by rfl)
  obtain ⟨⟨block, _, names⟩, reinstates⟩ := reinstated (by rfl)
  exact ⟨⟨sent, departed, framedAs⟩, by rfl, block, restored, arrived, names, reinstates⟩

end Nat64Gateway.Tunnel
