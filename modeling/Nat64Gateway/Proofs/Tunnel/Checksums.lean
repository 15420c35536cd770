import Nat64Gateway.Proofs.Nat64.SameOff
import Nat64Gateway.Proofs.Tunnel.Entry

namespace Nat64Gateway.Tunnel

open Wire (onField)

section Encapsulate

variable {tunnel : Tunnel} {left right : Packet.V6} {spots : Nat → Prop}

theorem bypasses_sameOff (context : Context) {left right : Segment}
    (same : left.SameOff spots right) (checksums : left.kind.Checksums spots) :
    bypasses context left = bypasses context right := by
  unfold bypasses
  rw [(same.ports checksums).1]

-- A frame takes no more from the original packet than its ends, its protocol and its hop limit.
theorem frame_sameOff (host : Address.V4) (plain : Outcome) (same : left.SameOff spots right)
    (checksums : left.segment.kind.Checksums spots) :
    tunnel.frame host left plain = tunnel.frame host right plain := by
  obtain ⟨source, destination⟩ := same.segment.ports checksums
  have block : blockOf left = blockOf right := by
    unfold blockOf
    rw [same.source, same.destination, source, destination]
  unfold frame framed
  rw [block, same.segment.protocol, same.hopLimit]

theorem encapsulate_alike {data other : Bytes} (tunnel : Tunnel) (buffer : Bytes)
    (same : Wire.SameOff (Packet.V6.checksum data) data other) :
    (tunnel.encapsulate data buffer).Alike (tunnel.encapsulate other buffer) := by
  unfold encapsulate
  cases Packet.V6.read_likewise same with
  | refused fault refused refused_too =>
    rw [refused, refused_too]
    exact .refl _
  | accepted left right read read_too packets =>
    obtain ⟨protocol, whole, short, _⟩ := Packet.V6.segment_of_read read
    obtain ⟨_, whole_too, _⟩ := Packet.V6.segment_of_read read_too
    unfold Packet.ownChecksum at packets
    rw [← protocol] at packets
    have own := left.segment.kind.checksums_own
    have plain : (tunnel.plainOut left buffer).Alike (tunnel.plainOut right buffer) :=
      Nat64.ToV4.run_alike tunnel.nextId buffer whole whole_too short packets
    rw [read, read_too]
    dsimp only
    rw [← bypasses_sameOff tunnel.context packets.segment own]
    split
    · exact plain
    · cases tunnel.context.host with
      | none => exact .refl _
      | some host =>
        dsimp only
        rw [← packets.segment.bytes.length, ← packets.segment.protocol]
        split
        · exact .refl _
        · have kept := plainOut_length_buffer tunnel buffer read
          have kept_too := plainOut_length_buffer tunnel buffer read_too
          rw [← frame_sameOff host _ packets own]
          refine ⟨frame_agrees host plain.toAgrees (kept.trans kept_too.symm)
            fun _ verdict => plainOut_complete read verdict, ?_⟩
          rw [frame_calls, frame_calls, plain.calls]

end Encapsulate

section Decapsulate

variable {tunnel : Tunnel} {context : Context} {left right : Packet.V4} {spots : Nat → Prop}

theorem isFramed_sameOff (context : Context) {left right : Segment}
    (same : left.SameOff spots right) (checksums : left.kind.Checksums spots) :
    isFramed context left = isFramed context right := by
  unfold isFramed
  rw [(same.ports checksums).2]

theorem checkPeer_sameOff (context : Context) (same : left.SameOff spots right)
    (checksums : left.segment.kind.Checksums spots) :
    checkPeer context left = checkPeer context right := by
  obtain ⟨port, _⟩ := same.segment.ports checksums
  unfold checkPeer
  rw [same.segment.kind, same.source, port]

-- A tunneled segment without a header of its own has no checksum either.
def innerField (protocol : Protocol) (i : Nat) : Prop :=
  protocol ≠ .udp ∧ onField protocol.checksumOffset i

theorem restore_likewise {protocol : Protocol} (block : Endpoint.Block) {left right : Bytes}
    (marked : protocol = .udp ∨ protocol = .tcp ∨ protocol = .icmp6)
    (same : Wire.SameOff (innerField protocol) left right) :
    Likewise (Wire.SameOff (onField protocol.checksumOffset)) (restore protocol block left)
      (restore protocol block right) := by
  have own := same.mono fun _ => And.right
  rcases marked with rfl | rfl | rfl
  · cases same.eq fun _ _ spotted => spotted.1 rfl
    exact .accepted _ _ rfl rfl (.refl _ _)
  · have read := Segment.readTcp_likewise own (by unfold onField; decide)
    unfold restore
    rw [if_neg (by decide), if_pos rfl, if_neg (by decide), if_pos rfl]
    cases read with
    | refused fault refused refused_too =>
      rw [refused, refused_too]
      exact .refused _ rfl rfl
    | accepted first second read read_too _ =>
      obtain ⟨rfl, sound⟩ := Segment.readTcp_eq_ok read
      have long : 20 ≤ left.length := Nat.le_trans sound.1 sound.2
      rw [read, read_too]
      exact .accepted _ _ rfl rfl (own.overwrite (by rw [length_ports]; omega))
  · unfold restore
    rw [if_neg (by decide), if_neg (by decide), if_neg (by decide), if_neg (by decide)]
    cases Icmp.Message.read_likewise .v4 own with
    | refused fault refused refused_too =>
      rw [refused, refused_too]
      exact .refused _ rfl rfl
    | accepted first second read read_too found =>
      obtain ⟨meant, long⟩ := found
      simp only [read, read_too, ← meant]
      cases first.kind.echo? with
      | none => exact .refused _ rfl rfl
      | some echo => exact .accepted _ _ rfl rfl (own.overwrite long)

structure Flow.SameOff (left right : Flow) : Prop where
  protocol : left.protocol = right.protocol
  block : left.block = right.block
  segment : Wire.SameOff (onField left.protocol.checksumOffset) left.segment right.segment

-- Where the segment of a framed packet may differ: in its own checksum, and in that of the segment
-- behind the block.
def FramedSpots (outer : Packet.V4) (spots : Nat → Prop) : Prop :=
  ∀ i, spots i → onField 6 i ∨ ∃ protocol inner, Marker.protocol? outer.dscp = some protocol ∧
    i = 8 + (Endpoint.Block.length + inner) ∧ innerField protocol inner

theorem flowOf_likewise (context : Context) (capacity : Nat) (same : left.SameOff spots right)
    (framed : FramedSpots left spots) :
    Likewise Flow.SameOff (flowOf context left capacity) (flowOf context right capacity) := by
  have carried := same.segment.bytes.drop 8
  have behind : ∀ i, spots (8 + i) → Endpoint.Block.length ≤ i := by
    intro i spotted
    obtain own | ⟨_, inner, _, place, _⟩ := framed (8 + i) spotted
    · unfold onField at own
      omega
    · omega
  unfold flowOf
  simp only [bind, Except.bind]
  rw [← same.dscp, ← Endpoint.Block.read_sameOff carried behind]
  cases marker : Marker.protocol? left.dscp with
  | none => exact .refused _ rfl rfl
  | some protocol =>
    have inner : Wire.SameOff (innerField protocol)
        ((left.segment.bytes.drop 8).drop Endpoint.Block.length)
        ((right.segment.bytes.drop 8).drop Endpoint.Block.length) := by
      refine (carried.drop Endpoint.Block.length).mono ?_
      intro i spotted
      obtain own | ⟨named, _, found, place, apart⟩ := framed _ spotted
      · unfold onField at own
        omega
      · cases marker.symm.trans found
        cases Nat.add_left_cancel (Nat.add_left_cancel place)
        exact apart
    dsimp only
    cases Endpoint.Block.read context.portOrder (left.segment.bytes.drop 8) with
    | error fault => exact .refused _ rfl rfl
    | ok block =>
      dsimp only
      have size : restoredLength protocol ((right.segment.bytes.drop 8).drop Endpoint.Block.length)
          = restoredLength protocol ((left.segment.bytes.drop 8).drop Endpoint.Block.length) := by
        unfold restoredLength
        rw [inner.length]
      rw [size]
      refine .check _ _ fun _ => ?_
      cases restore_likewise block (protocol?_eq_some marker) inner with
      | refused cause refused refused_too =>
        rw [refused, refused_too]
        exact .refused _ rfl rfl
      | accepted first second restored restored_too segments =>
        rw [restored, restored_too]
        exact .accepted _ _ rfl rfl ⟨rfl, rfl, segments⟩

theorem Flow.SameOff.plan {first second : Flow} (same : first.SameOff second) {hops other : UInt8}
    (kept : hops = other) : (first.plan hops).SameOff (second.plan other) := by
  have message : first.message = second.message := by
    unfold Flow.message
    rw [same.protocol, same.block]
  exact ⟨same.protocol, message, kept, congrArg Endpoint.Block.source same.block,
    congrArg Endpoint.Block.destination same.block, same.segment⟩

theorem unframe_alike {data other : Bytes} (buffer : Bytes)
    (read : Packet.V4.read data = .ok left) (read_too : Packet.V4.read other = .ok right)
    (same : left.SameOff spots right) (checksums : left.segment.kind.Checksums spots)
    (framed : left.segment.kind = .udp → FramedSpots left spots) :
    (tunnel.unframe left buffer).Alike (tunnel.unframe right buffer) := by
  unfold unframe
  rw [← checkPeer_sameOff tunnel.context same checksums]
  cases peer : checkPeer tunnel.context left with
  | error cause => exact .refl _
  | ok passed =>
    obtain ⟨udp, _⟩ := checkPeer_eq_ok.mp peer
    dsimp only
    cases flowOf_likewise tunnel.context buffer.length same (framed udp) with
    | refused cause refused refused_too =>
      rw [refused, refused_too]
      exact Outcome.Refused.alike ⟨rfl, rfl, rfl⟩ ⟨rfl, rfl, rfl⟩
    | accepted first second found found_too flows =>
      obtain ⟨kind, unframed⟩ := flowOf_eq_ok.mp found
      obtain ⟨_, unframed_too⟩ := flowOf_eq_ok.mp found_too
      have alike : ((first.plan left.timeToLive).emit tunnel.hook tunnel.nextId buffer).Alike
          ((second.plan right.timeToLive).emit tunnel.hook tunnel.nextId buffer) :=
        Nat64.Plan.emit_alike tunnel.nextId (unframed.ready read) (unframed_too.ready read_too)
          (flows.plan same.timeToLive)
      rw [found, found_too]
      exact ⟨⟨alike.verdict, alike.packet, alike.nextId⟩, alike.calls⟩

-- The checksum of a tunneled TCP or ICMP segment, as it stands in a framed packet.
def innerChecksum (context : Context) (data : Bytes) (i : Nat) : Prop :=
  ∃ outer protocol inner, Packet.V4.read data = .ok outer ∧
    isFramed context outer.segment = true ∧ Marker.protocol? outer.dscp = some protocol ∧
    i = Checksum.headerLength4 data + (8 + (Endpoint.Block.length + inner)) ∧
    innerField protocol inner

def checksums (context : Context) (data : Bytes) (i : Nat) : Prop :=
  Packet.V4.checksums data i ∨ innerChecksum context data i

theorem beside_checksums (context : Context) (data : Bytes) :
    Packet.V4.Beside data (checksums context data) := by
  have behind : Checksum.headerLength4 data + 2
      ≤ Checksum.transportField .v4 data ⟨Wire.byte data 9⟩ :=
    Nat.add_le_add_left (Checksum.checksumOffset_ge _) _
  refine ⟨?_, ?_⟩
  · rintro ((own | own) | ⟨_, _, inner, _, _, _, place, _⟩)
    · exact absurd own.1 (by decide)
    · have first := own.1
      omega
    · omega
  · rintro _ i ((own | own) | ⟨_, _, inner, _, _, _, place, _⟩)
    · exact .inl own
    · have first := own.1
      exact .inr (by omega)
    · exact .inr (by omega)

def segmentChecksums (context : Context) (data : Bytes) (i : Nat) : Prop :=
  Packet.ownChecksum (Wire.byte data 9) i ∨
    innerChecksum context data (Checksum.headerLength4 data + i)

theorem shift_checksums {data : Bytes} (long : 20 ≤ Checksum.headerLength4 data) (i : Nat)
    (spotted : checksums context data (Checksum.headerLength4 data + i)) :
    segmentChecksums context data i := by
  have start : Checksum.transportField .v4 data ⟨Wire.byte data 9⟩
      = Checksum.headerLength4 data + Protocol.checksumOffset ⟨Wire.byte data 9⟩ := rfl
  obtain (own | own) | inner := spotted
  · unfold onField at own
    omega
  · left
    unfold onField at own
    unfold Packet.ownChecksum onField
    omega
  · exact .inr inner

theorem segmentChecksums_apart {data : Bytes} {kind : Segment.Kind}
    (found : Segment.Kind.ofProtocol? ⟨Wire.byte data 9⟩ = some kind) :
    kind.Checksums (segmentChecksums context data) := by
  rintro i (own | ⟨_, _, inner, _, _, _, place, _⟩)
  · exact Packet.checksums_ownChecksum found i own
  · exact .inr (by omega)

theorem decapsulate_alike {data other : Bytes} (tunnel : Tunnel) (buffer : Bytes)
    (same : Wire.SameOff (checksums tunnel.context data) data other) :
    (tunnel.decapsulate data buffer).Alike (tunnel.decapsulate other buffer) := by
  have likewise := Packet.V4.read_likewise same (beside_checksums tunnel.context data)
    shift_checksums fun _ => segmentChecksums_apart
  unfold decapsulate
  cases likewise with
  | refused fault refused refused_too =>
    rw [refused, refused_too]
    exact .refl _
  | accepted left right read read_too packets =>
    obtain ⟨protocol, whole, short⟩ := Packet.V4.segment_of_read read
    obtain ⟨_, whole_too, _⟩ := Packet.V4.segment_of_read read_too
    have apart : left.segment.kind.Checksums (segmentChecksums tunnel.context data) :=
      segmentChecksums_apart (protocol ▸ Segment.Kind.ofProtocol?_protocol left.segment.kind)
    rw [read, read_too]
    dsimp only
    rw [← isFramed_sameOff tunnel.context packets.segment apart]
    cases framed : isFramed tunnel.context left.segment with
    | true =>
      rw [if_pos rfl, if_pos rfl]
      refine unframe_alike buffer read read_too packets apart ?_
      rintro udp i (own | ⟨outer, named, inner, same_read, _, marker, place, field⟩)
      · left
        unfold Packet.ownChecksum at own
        rw [← protocol, Segment.protocol, udp] at own
        exact own
      · cases read.symm.trans same_read
        exact .inr ⟨named, inner, marker, Nat.add_left_cancel place, field⟩
    | false =>
      -- No block is looked for in this form, so that the inner checksum is no checksum here.
      have plain : left.SameOff (onField left.segment.protocol.checksumOffset) right := by
        refine packets.mono ?_
        rintro i (own | ⟨outer, _, _, same_read, framed_too, _⟩)
        · rw [protocol]
          exact own
        · cases read.symm.trans same_read
          cases framed.symm.trans framed_too
      rw [if_neg Bool.false_ne_true, if_neg Bool.false_ne_true]
      exact Nat64.ToV6.run_alike tunnel.nextId buffer whole whole_too short plain

end Decapsulate

theorem checksums_disregarded (tunnel : Tunnel) (data other buffer : Bytes) :
    (Wire.SameOff (Packet.V6.checksum data) data other →
      (tunnel.encapsulate data buffer).Alike (tunnel.encapsulate other buffer)) ∧
    (Wire.SameOff (checksums tunnel.context data) data other →
      (tunnel.decapsulate data buffer).Alike (tunnel.decapsulate other buffer)) :=
  ⟨encapsulate_alike tunnel buffer, decapsulate_alike tunnel buffer⟩

-- A datagram and a framed echo reply, with other checksums in the place of every one of theirs.
def redatagram : Bytes := Wire.overwrite datagram 46 [1, 2]

def reframedReply : Bytes :=
  Wire.overwrite (Wire.overwrite (Wire.overwrite framedReply 10 [1, 2]) 30 [3, 4]) 70 [5, 6]

theorem checksums_disregarded_loop :
    ((loop.encapsulate datagram blank).Alike (loop.encapsulate redatagram blank) ∧
        (loop.encapsulate redatagram blank).verdict = .emitted 65) ∧
      (loop.decapsulate framedReply blank).Alike (loop.decapsulate reframedReply blank) ∧
        (loop.decapsulate reframedReply blank).verdict = .emitted 48 := by
  have sent : Wire.SameOff (Packet.V6.checksum datagram) datagram redatagram :=
    .of_overwrite rfl (by decide)
  have header : ∀ i, onField 10 i → checksums loop.context framedReply i :=
    fun _ field => .inl (.inl field)
  have outer : ∀ i, onField 30 i → checksums loop.context framedReply i :=
    fun _ field => .inl (.inr field)
  have inner : ∀ i, onField 70 i → checksums loop.context framedReply i := by
    intro i field
    have read : Packet.V4.read framedReply
        = .ok ⟨framedReply.take 76, .udp, (framedReply.drop 24).take 52⟩ := rfl
    have start : Checksum.headerLength4 framedReply = 24 := rfl
    refine .inr ⟨_, .icmp6, i - 68, read, rfl, rfl, ?_, by decide, ?_⟩
    · rw [start]
      unfold onField at field
      unfold Endpoint.Block.length
      omega
    · have offset : Protocol.checksumOffset .icmp6 = 2 := rfl
      rw [offset]
      unfold onField at field ⊢
      omega
  have received : Wire.SameOff (checksums loop.context framedReply) framedReply reframedReply :=
    (((Wire.SameOff.of_overwrite rfl (by decide)).mono header).trans
      ((Wire.SameOff.of_overwrite rfl (by decide)).mono outer)).trans
      ((Wire.SameOff.of_overwrite rfl (by decide)).mono inner)
  have out := (checksums_disregarded loop datagram redatagram blank).1 sent
  have back := (checksums_disregarded loop framedReply reframedReply blank).2 received
  exact ⟨⟨out, out.verdict.symm.trans (by rfl)⟩, back, back.verdict.symm.trans (by rfl)⟩

end Nat64Gateway.Tunnel
