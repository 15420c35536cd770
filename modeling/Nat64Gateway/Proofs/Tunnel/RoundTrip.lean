import Nat64Gateway.Proofs.Packet.Canonical
import Nat64Gateway.Proofs.Tunnel.Emitted

namespace Nat64Gateway.Icmp.Kind

theorem ofHeader_eq_echo {family : Family} {type code : UInt8} {echo : Kind}
    (echoes : (ofHeader family type code).echo? = some echo) :
    type = echo.type family ∧ code = 0 ∧ echo.echo? = some echo := by
  unfold ofHeader at echoes
  split at echoes
  · rename_i asks
    cases echoes
    exact ⟨asks.1, asks.2, rfl⟩
  · split at echoes
    · rename_i answers
      cases echoes
      exact ⟨answers.1, answers.2, rfl⟩
    · cases echoes

end Nat64Gateway.Icmp.Kind

namespace Nat64Gateway.Tunnel

-- The header's ports and length are put back; its checksum is left open.
theorem withPorts_udp {bytes : Bytes} {block : Endpoint.Block}
    (sound : Segment.Sound ⟨.udp, bytes⟩) (source : block.sourcePort = Wire.word bytes 0)
    (destination : block.destinationPort = Wire.word bytes 2) :
    withPorts block
        ([0, 0, 0, 0] ++ Wire.encode 2 (8 + (bytes.drop 8).length) ++ [0, 0] ++ bytes.drop 8)
      = Wire.overwrite bytes 6 [0, 0] := by
  obtain ⟨header, stated⟩ := sound
  simp only at header stated
  have whole : 8 + (bytes.drop 8).length = bytes.length := by
    rw [List.length_drop]
    omega
  have length : Wire.encode 2 bytes.length = Wire.field bytes 4 2 := by
    rw [← stated, Wire.encode_number (by omega)]
  have front : bytes.take 6
      = Wire.field bytes 0 2 ++ Wire.field bytes 2 2 ++ Wire.field bytes 4 2 := by
    rw [show 6 = 2 + 2 + 2 from rfl, List.take_add, List.take_add]
    rfl
  rw [withPorts_blank, source, destination, Wire.encodeWord_word (by omega),
    Wire.encodeWord_word (by omega), whole, length]
  unfold Wire.overwrite
  rw [front]
  simp only [List.append_assoc]
  rfl

theorem withPorts_self {bytes : Bytes} {block : Endpoint.Block} (long : 4 ≤ bytes.length)
    (source : block.sourcePort = Wire.word bytes 0)
    (destination : block.destinationPort = Wire.word bytes 2) : withPorts block bytes = bytes := by
  have ports : Wire.field bytes 0 4 = Wire.field bytes 0 2 ++ Wire.field bytes 2 2 := by
    unfold Wire.field
    rw [show 4 = 2 + 2 from rfl, List.take_add]
    simp
  apply Wire.overwrite_field
  rw [length_ports, ports, source, destination, Wire.encodeWord_word (by omega),
    Wire.encodeWord_word (by omega)]

-- The type is put back; the code was zero all along.
theorem overwrite_type {bytes field : Bytes} {type other : UInt8} (long : 4 ≤ bytes.length)
    (stands : Wire.byte bytes 0 = type) :
    Wire.overwrite (Wire.overwrite (Wire.overwrite bytes 0 [other]) 2 field) 0 [type]
      = Wire.overwrite bytes 2 field := by
  have one : ∀ byte : UInt8, [byte].length = 1 := fun _ => rfl
  have written : (Wire.overwrite bytes 0 [other]).length = bytes.length :=
    Wire.length_overwrite (by rw [one]; omega)
  have back : Wire.overwrite bytes 0 [type] = bytes := by
    apply Wire.overwrite_field
    obtain _ | ⟨first, rest⟩ := bytes
    · simp at long
    · rw [← stands]
      rfl
  rw [← Wire.overwrite_comm (by rw [one]; omega) (by omega),
    Wire.overwrite_overwrite (by rw [one, one]) (by rw [one]; omega), back]

theorem cargo_eq (header : Packet.Header4) (kind : Segment.Kind) (bytes : Bytes) (start : Nat) :
    (header.packet kind bytes).bytes.drop (20 + start)
      = (Checksum.sealedSegment .v4 header.closed header.protocol bytes).drop start :=
  Wire.drop_behind header.length_closed start

-- What is read off the bytes behind the block, for each of the three transports.

theorem restored_udp {bytes : Bytes} {block : Endpoint.Block} (header : Bytes)
    (sound : Segment.Sound ⟨.udp, bytes⟩) (source : block.sourcePort = Wire.word bytes 0)
    (destination : block.destinationPort = Wire.word bytes 2) :
    Restored block ((Checksum.sealedSegment .v4 header .udp bytes).drop 8) .udp
      (Wire.overwrite bytes 6 [0, 0]) := by
  have room : Protocol.udp.checksumOffset + 2 ≤ bytes.length := sound.1
  rw [Checksum.drop_sealedSegment room (by decide), ← withPorts_udp sound source destination]
  exact .udp

theorem restored_tcp {bytes : Bytes} {block : Endpoint.Block} (header : Bytes)
    (sound : Segment.Sound ⟨.tcp, bytes⟩) (source : block.sourcePort = Wire.word bytes 0)
    (destination : block.destinationPort = Wire.word bytes 2) :
    Restored block (Checksum.sealedSegment .v4 header .tcp bytes) .tcp
      (Checksum.sealedSegment .v4 header .tcp bytes) := by
  have sealed_sound : Segment.Sound ⟨.tcp, Checksum.sealedSegment .v4 header .tcp bytes⟩ :=
    sound.sealedSegment .v4 header
  have long : 8 ≤ bytes.length := sound.ports (.inr rfl)
  have room : 16 + 2 ≤ bytes.length := sound.length_ge
  have length : (Checksum.sealedSegment .v4 header .tcp bytes).length = bytes.length :=
    Checksum.length_sealedSegment room
  have ports : Wire.field (Checksum.sealedSegment .v4 header .tcp bytes) 0 4
      = Wire.field bytes 0 4 := Segment.ports_sealedSegment sound (.inr rfl) .v4 header
  have first : Wire.word (Checksum.sealedSegment .v4 header .tcp bytes) 0 = Wire.word bytes 0 :=
    Wire.word_of_field ports (by decide : 0 + 2 ≤ 4)
  have second : Wire.word (Checksum.sealedSegment .v4 header .tcp bytes) 2 = Wire.word bytes 2 :=
    Wire.word_of_field ports (by decide : 2 + 2 ≤ 4)
  have restored : Restored block _ _ _ := .tcp sealed_sound
  rwa [withPorts_self (by omega) (source.trans first.symm) (destination.trans second.symm)]
    at restored

theorem restored_echo {bytes field : Bytes} {block : Endpoint.Block} {echo : Icmp.Kind}
    (long : 8 ≤ bytes.length) (width : field.length = 2)
    (echoes : (Icmp.Kind.ofHeader .v6 (Wire.byte bytes 0) (Wire.byte bytes 1)).echo? = some echo) :
    Restored block (Wire.overwrite (Wire.overwrite bytes 0 [echo.type .v4]) 2 field) (.icmp .v6)
      (Wire.overwrite bytes 2 field) := by
  obtain ⟨type, code, same⟩ := Icmp.Kind.ofHeader_eq_echo echoes
  have one : [echo.type .v4].length = 1 := rfl
  have typed : (Wire.overwrite bytes 0 [echo.type .v4]).length = bytes.length :=
    Wire.length_overwrite (by rw [one]; omega)
  have inside : 2 + field.length ≤ (Wire.overwrite bytes 0 [echo.type .v4]).length := by omega
  have length := Wire.length_overwrite inside
  have first : Wire.byte (Wire.overwrite (Wire.overwrite bytes 0 [echo.type .v4]) 2 field) 0
      = echo.type .v4 := by
    rw [Wire.byte_overwrite_of_disjoint (.inl (by decide)) inside]
    rfl
  have behind : Wire.byte (Wire.overwrite bytes 0 [echo.type .v4]) 1 = Wire.byte bytes 1 :=
    Wire.byte_overwrite_of_disjoint (.inr (Nat.le_refl 1)) (by rw [one]; omega)
  have second : Wire.byte (Wire.overwrite (Wire.overwrite bytes 0 [echo.type .v4]) 2 field) 1
      = 0 := by
    rw [Wire.byte_overwrite_of_disjoint (.inl (by decide)) inside, behind, code]
  rw [← overwrite_type (by omega : 4 ≤ bytes.length) type]
  refine .echo echo (by omega) ?_
  rw [first, second, Icmp.Kind.ofHeader_type same, same]

-- Behind the block travels what stands for the original segment, its checksum field aside.
theorem restored_cargo {segment : Segment} {kind : Segment.Kind} {bytes : Bytes}
    {block : Endpoint.Block} {header : Packet.Header4} (sound : segment.Sound)
    (converted : Nat64.Converted .v6 segment kind bytes) (named : kind.protocol = header.protocol)
    (source : block.sourcePort = segment.sourcePort?.getD 0)
    (destination : block.destinationPort = segment.destinationPort?.getD 0) :
    ∃ field, field.length = 2 ∧
      Restored block ((header.packet kind bytes).bytes.drop (innerStart segment.protocol))
        segment.kind (Wire.overwrite segment.bytes segment.protocol.checksumOffset field) := by
  cases converted with
  | udp bytes =>
    refine ⟨[0, 0], rfl, ?_⟩
    change Restored block ((header.packet .udp bytes).bytes.drop (20 + 8)) .udp _
    rw [cargo_eq, ← named]
    exact restored_udp header.closed sound source destination
  | tcp bytes =>
    refine ⟨Wire.encode 2 (Checksum.complement
      (Checksum.uncheckedSum .v4 header.closed .tcp bytes)), Wire.length_encode .., ?_⟩
    change Restored block ((header.packet .tcp bytes).bytes.drop (20 + 0)) .tcp _
    rw [cargo_eq, ← named]
    exact restored_tcp header.closed sound source destination
  | echo bytes echo long echoes =>
    refine ⟨Wire.encode 2 (Checksum.complement (Checksum.uncheckedSum .v4 header.closed .icmp4
      (Wire.overwrite bytes 0 [echo.type .v4]))), Wire.length_encode .., ?_⟩
    change Restored block ((header.packet (.icmp .v4) _).bytes.drop (20 + 0)) (.icmp .v6) _
    rw [cargo_eq, ← named]
    exact restored_echo long (Wire.length_encode ..) echoes

theorem plainOut_passthrough {tunnel : Tunnel} {data buffer : Bytes} {original : Packet.V6}
    {n : Nat} (quiet : tunnel.hook = Dns64.passthrough)
    (read : Packet.V6.read data = .ok original)
    (emitted : (tunnel.plainOut original buffer).verdict = .emitted n) :
    ∃ plan kind, Nat64.ToV4.Planned tunnel.context original buffer.length plan kind ∧
      n = 20 + original.segment.bytes.length ∧
      (plan.header tunnel.nextId plan.segment.length).Carries kind plan.segment ∧
      (tunnel.plainOut original buffer).packet
        = ((plan.header tunnel.nextId plan.segment.length).packet kind plan.segment).bytes := by
  obtain ⟨_, sound, short, _⟩ := Packet.V6.segment_of_read read
  unfold plainOut at emitted ⊢
  rw [quiet] at emitted ⊢
  obtain ⟨plan, kind, planned, total, carries, packet⟩ :=
    Nat64.ToV4.run_passthrough sound short emitted
  exact ⟨plan, kind, planned, planned.converted.length_eq ▸ total, carries, packet⟩

theorem carried_outer (tunnel : Tunnel) (host : Address.V4) (original : Packet.V6) (inner : Bytes) :
    carried ((tunnel.outerHeader host original inner).packet .udp
        (outerSegment tunnel.context original inner))
      = (blockOf original).encode tunnel.context.portOrder ++ inner := by
  have length := length_outerSegment tunnel.context original inner
  have room : Protocol.udp.checksumOffset + 2
      ≤ (outerSegment tunnel.context original inner).length := by
    rw [length]
    exact Nat.le_trans (by decide : 6 + 2 ≤ 8 + Endpoint.Block.length) (Nat.le_add_right ..)
  exact (Checksum.drop_sealedSegment room (by decide)).trans (drop_outerSegment ..)

theorem innerOf_outer (tunnel : Tunnel) (host : Address.V4) (original : Packet.V6)
    (inner : Bytes) :
    innerOf ((tunnel.outerHeader host original inner).packet .udp
        (outerSegment tunnel.context original inner)) = inner := by
  unfold innerOf
  rw [carried_outer, ← Endpoint.Block.length_encode tunnel.context.portOrder (blockOf original),
    List.drop_left]

-- The far end's view of the outer packet: one of its own flows, from the peer it knows.
structure Paired (near far : Tunnel) (host : Address.V4) : Prop where
  remote : far.context.remote = ⟨host, near.context.localPort⟩
  relayed : far.context.threshold ≤ near.context.remote.port
  portOrder : far.context.portOrder = near.context.portOrder

theorem accepted_outer {near far : Tunnel} {host : Address.V4} {original : Packet.V6}
    {inner : Bytes} (paired : Paired near far host)
    (carries : (near.outerHeader host original inner).Carries .udp
      (outerSegment near.context original inner)) :
    isFramed far.context ((near.outerHeader host original inner).packet .udp
        (outerSegment near.context original inner)).segment = true ∧
      checkPeer far.context ((near.outerHeader host original inner).packet .udp
        (outerSegment near.context original inner)) = .ok () := by
  obtain ⟨first, second⟩ := words_outerSegment near.context original inner
  have source := carries.sourcePort?_packet.trans (congrArg some first)
  have destination := carries.destinationPort?_packet.trans (congrArg some second)
  refine ⟨?_, checkPeer_eq_ok.mpr ⟨rfl, ?_, ?_⟩⟩
  · have relayed : far.context.exempts near.context.remote.port = false :=
      decide_eq_false (UInt16.not_lt.mpr paired.relayed)
    unfold isFramed
    refine (congrArg (Option.any _) destination).trans ?_
    simp [relayed]
  · rw [paired.remote]
    exact Packet.Header4.source_packet ..
  · rw [paired.remote]
    exact source

-- The flow that the outer packet stands for. Its segment is the original one, its checksum aside.
theorem unframed_outer {near far : Tunnel} {host : Address.V4} {original : Packet.V6}
    {kind : Segment.Kind} {bytes : Bytes} {header : Packet.Header4} {capacity : Nat}
    (paired : Paired near far host) (sound : original.segment.Sound)
    (converted : Nat64.Converted .v6 original.segment kind bytes)
    (named : kind.protocol = header.protocol)
    (room : 40 + original.segment.bytes.length ≤ capacity) :
    ∃ field, field.length = 2 ∧
      Unframed far.context ((near.outerHeader host original ((header.packet kind bytes).bytes.drop
          (innerStart original.segment.protocol))).packet .udp
          (outerSegment near.context original ((header.packet kind bytes).bytes.drop
            (innerStart original.segment.protocol))))
        capacity
        { protocol := original.segment.protocol
          block := blockOf original
          segment := Wire.overwrite original.segment.bytes
            original.segment.protocol.checksumOffset field } original.segment.kind := by
  have source : (blockOf original).sourcePort = original.segment.sourcePort?.getD 0 := rfl
  have destination : (blockOf original).destinationPort
      = original.segment.destinationPort?.getD 0 := rfl
  obtain ⟨field, width, restored⟩ := restored_cargo sound converted named source destination
  generalize (header.packet kind bytes).bytes.drop (innerStart original.segment.protocol) = inner
    at restored
  have length : (Wire.overwrite original.segment.bytes original.segment.protocol.checksumOffset
      field).length = original.segment.bytes.length :=
    Wire.length_overwrite (by rw [width]; exact sound.length_ge)
  refine ⟨field, width, ?_, ?_, ?_, rfl, ?_⟩
  · rw [Packet.Header4.dscp_packet]
    exact Marker.protocol?_typeOfService converted.protocol_eq
  · rw [carried_outer, paired.portOrder]
    exact Endpoint.Block.read_encode_append ..
  · have whole := restored.length_eq
    rw [length] at whole
    rw [innerOf_outer, ← show Segment.Kind.protocol original.segment.kind
      = original.segment.protocol from rfl, ← whole]
    exact room
  · rw [innerOf_outer]
    exact restored

theorem framed_roundTrip {near far : Tunnel} {host : Address.V4} {data buffer room : Bytes}
    {original : Packet.V6} {n : Nat} (known : near.context.host = some host)
    (paired : Paired near far host) (quiet : near.hook = Dns64.passthrough)
    (quiet_far : far.hook = Dns64.passthrough) (read : Packet.V6.read data = .ok original)
    (tunneled : bypasses near.context original.segment = false)
    (emitted : (near.encapsulate data buffer).verdict = .emitted n)
    (enough : 40 + original.segment.bytes.length ≤ room.length) :
    (far.decapsulate (near.encapsulate data buffer).packet room).verdict
        = .emitted (40 + original.segment.bytes.length) ∧
      (far.decapsulate (near.encapsulate data buffer).packet room).packet = original.canonical := by
  obtain ⟨_, sound, _, _⟩ := Packet.V6.segment_of_read read
  obtain ⟨address, length, same_host, verdict, framed⟩ := encapsulate_framed read tunneled emitted
  cases Option.some.inj (known.symm.trans same_host)
  obtain ⟨plan, kind, planned, _, _, plain⟩ := plainOut_passthrough quiet read verdict
  rw [plain] at framed
  have named : kind.protocol = (plan.header near.nextId plan.segment.length).protocol :=
    planned.named
  obtain ⟨field, width, unframed⟩ := unframed_outer paired sound planned.converted named enough
  obtain ⟨is_framed, peer⟩ := accepted_outer paired framed.carries
  have read_outer := framed.carries.read_packet
  rw [← framed.packet_eq] at read_outer
  obtain ⟨restored, packet⟩ := decapsulate_unframed quiet_far read_outer is_framed peer unframed
  have size : (Wire.overwrite original.segment.bytes original.segment.protocol.checksumOffset
      field).length = original.segment.bytes.length :=
    Wire.length_overwrite (by rw [width]; exact sound.length_ge)
  rw [size] at restored packet
  refine ⟨restored, packet.trans ?_⟩
  rw [Packet.Header4.timeToLive_packet, Packet.V6.canonical_eq read]
  exact congrArg (original.canonicalHeader.encode ++ ·)
    (Checksum.sealedSegment_overwrite width sound.length_ge)

-- Ports at or above the threshold, and messages without ports, take the tunnel.
theorem bypasses_eq_false {context : Context} {segment : Segment}
    (tunneled : ∀ port, segment.sourcePort? = some port → context.threshold ≤ port) :
    bypasses context segment = false := by
  unfold bypasses
  cases found : segment.sourcePort? with
  | none => rfl
  | some port => exact decide_eq_false (UInt16.not_lt.mpr (tunneled port found))

-- Every field of the far end that the pairing does not mention may differ.
theorem decapsulate_encapsulate {near far : Tunnel} {host : Address.V4} {data buffer room : Bytes}
    {original : Packet.V6} {n : Nat} (known : near.context.host = some host)
    (paired : Paired near far host) (quiet : near.hook = Dns64.passthrough)
    (quiet_far : far.hook = Dns64.passthrough) (read : Packet.V6.read data = .ok original)
    (tunneled : ∀ port, original.segment.sourcePort? = some port → near.context.threshold ≤ port)
    (emitted : (near.encapsulate data buffer).verdict = .emitted n)
    (enough : 40 + original.segment.bytes.length ≤ room.length) :
    (far.decapsulate (near.encapsulate data buffer).packet room).verdict
        = .emitted (40 + original.segment.bytes.length) ∧
      (far.decapsulate (near.encapsulate data buffer).packet room).packet = original.canonical ∧
      (Packet.V6.Plain data original →
        (far.decapsulate (near.encapsulate data buffer).packet room).packet = data) := by
  obtain ⟨restored, packet⟩ := framed_roundTrip known paired quiet quiet_far read
    (bypasses_eq_false tunneled) emitted enough
  refine ⟨restored, packet, ?_⟩
  intro plain
  exact packet.trans (Packet.V6.canonical_of_plain read plain)

theorem decapsulate_encapsulate_loop :
    (loop.decapsulate (loop.encapsulate datagram blank).packet blank).verdict
        = .emitted (40 + datagramRead.segment.bytes.length) ∧
      (loop.decapsulate (loop.encapsulate datagram blank).packet blank).packet = datagram := by
  have known : loop.context.host = some ⟨0xc0000202#32⟩ := rfl
  have paired : Paired loop loop ⟨0xc0000202#32⟩ := ⟨rfl, by decide, rfl⟩
  have quiet : loop.hook = Dns64.passthrough := rfl
  have read : Packet.V6.read datagram = .ok datagramRead := by rfl
  have tunneled : ∀ port, datagramRead.segment.sourcePort? = some port →
      loop.context.threshold ≤ port := by
    intro port found
    cases found
    decide
  have emitted : (loop.encapsulate datagram blank).verdict = .emitted 65 := by rfl
  have enough : 40 + datagramRead.segment.bytes.length ≤ blank.length := by decide
  have plain : Packet.V6.Plain datagram datagramRead :=
    ⟨by rfl, by rfl, by rfl, by decide⟩
  obtain ⟨verdict, _, unchanged⟩ :=
    decapsulate_encapsulate known paired quiet quiet read tunneled emitted enough
  exact ⟨verdict, unchanged plain⟩

end Nat64Gateway.Tunnel
