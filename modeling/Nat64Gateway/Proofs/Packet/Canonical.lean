import Nat64Gateway.Proofs.Packet.Ends

namespace Nat64Gateway.Packet

def V6.canonicalHeader (packet : V6) : Header6 where
  payloadLength := packet.segment.bytes.length
  protocol := packet.segment.protocol
  hopLimit := packet.hopLimit
  source := packet.source
  destination := packet.destination

def V6.canonical (packet : V6) : Bytes :=
  packet.canonicalHeader.assemble packet.segment.bytes

namespace V6

variable {data : Bytes} {packet : V6}

theorem carries_canonicalHeader (read : V6.read data = .ok packet) :
    packet.canonicalHeader.Carries packet.segment.kind packet.segment.bytes := by
  obtain ⟨_, sound, short, _⟩ := segment_of_read read
  exact ⟨sound, rfl, rfl, short⟩

theorem canonical_eq_packet (read : V6.read data = .ok packet) : packet.canonical
    = (packet.canonicalHeader.packet packet.segment.kind packet.segment.bytes).bytes :=
  (carries_canonicalHeader read).assemble_eq

theorem canonical_eq (read : V6.read data = .ok packet) : packet.canonical
    = packet.canonicalHeader.encode ++ Checksum.sealedSegment .v6 packet.canonicalHeader.encode
        packet.segment.protocol packet.segment.bytes :=
  canonical_eq_packet read

-- Nothing of the packet is lost: it says no more in its first bytes than its version, it ends with
-- its segment, and its checksum is present and right.
structure Plain (data : Bytes) (packet : V6) : Prop where
  version : Wire.field data 0 4 = [0x60, 0, 0, 0]
  ends : data.length = 40 + packet.segment.bytes.length
  valid : packet.transportValid = true
  checksum : Wire.number packet.segment.bytes packet.segment.protocol.checksumOffset 2 ≠ 0

-- The bytes say all that the packet said, and nothing besides.
def Restates (data : Bytes) (original : V6) : Prop :=
  ∃ restored, V6.read data = .ok restored ∧ Plain data restored ∧ restored.ends = original.ends ∧
    restored.segment.Resealed original.segment ∧ restored.hopLimit = original.hopLimit

theorem plain_packet {header : Header6} {kind : Segment.Kind} {segment : Bytes}
    (carries : header.Carries kind segment) :
    Plain (header.packet kind segment).bytes (header.packet kind segment) := by
  have length : (header.packet kind segment).segment.bytes.length = segment.length :=
    carries.behind.length_sealed
  refine ⟨header.version_packet kind segment, ?_, carries.transportValid,
    carries.behind.checksum_ne_zero⟩
  rw [carries.length_packet, carries.payload, length]

theorem restates_canonical (read : V6.read data = .ok packet) :
    Restates packet.canonical packet := by
  have stands := carries_canonicalHeader read
  rw [canonical_eq_packet read]
  exact ⟨_, stands.read_packet, plain_packet stands, stands.ends_packet, stands.resealed,
    Header6.hopLimit_packet ..⟩

-- The header of the canonical form is the header that was there.
theorem encode_canonicalHeader (packet : V6) (long : 40 ≤ packet.bytes.length)
    (protocol : packet.segment.protocol = ⟨Wire.byte packet.bytes 6⟩)
    (version : Wire.field packet.bytes 0 4 = [0x60, 0, 0, 0])
    (payload : Wire.number packet.bytes 4 2 = packet.segment.bytes.length) :
    packet.canonicalHeader.encode = packet.bytes.take 40 := by
  have length : Wire.encode 2 packet.segment.bytes.length = Wire.field packet.bytes 4 2 := by
    rw [← payload, Wire.encode_number (by omega)]
  have options : [packet.segment.protocol.number, packet.hopLimit]
      = Wire.field packet.bytes 6 2 := by
    rw [Wire.field_add packet.bytes 6 1 1, Wire.field_one (by omega), Wire.field_one (by omega),
      protocol]
    rfl
  have source : packet.source.octets = Wire.field packet.bytes 8 16 :=
    Address.V6.octets_ofOctets (Wire.length_field (by omega))
  have destination : packet.destination.octets = Wire.field packet.bytes 24 16 :=
    Address.V6.octets_ofOctets (Wire.length_field (by omega))
  have front : packet.bytes.take 40 = Wire.field packet.bytes 0 (4 + (2 + (2 + (16 + 16)))) := rfl
  rw [front, Wire.field_add, Wire.field_add, Wire.field_add, Wire.field_add, version, ← length,
    ← options, ← source, ← destination, Header6.encode_eq]
  rfl

theorem canonical_of_plain (read : V6.read data = .ok packet) (plain : Plain data packet) :
    packet.canonical = data := by
  obtain ⟨protocol, sound, short, behind⟩ := segment_of_read read
  obtain ⟨checked, cut, found⟩ := read_eq_ok read
  obtain ⟨_, _, front, _⟩ := Segment.read_eq_ok found
  obtain ⟨_, total⟩ := headerFault?_eq_none.mp checked
  have ends := plain.ends
  have stated : Wire.number data 4 2 = packet.segment.bytes.length := by
    have within := congrArg List.length front
    simp only [cut, List.length_take, List.length_drop] at within
    omega
  have same : packet.bytes = data := by
    rw [cut, List.take_of_length_le (by omega)]
  have tail : packet.segment.bytes = packet.bytes.drop 40 := by
    rw [behind, same, List.take_of_length_le (by rw [List.length_drop]; omega)]
  have head := encode_canonicalHeader packet (by rw [same]; omega) (by rw [same]; exact protocol)
    (by rw [same]; exact plain.version) (by rw [same]; exact stated)
  have whole : packet.canonicalHeader.encode ++ packet.segment.bytes = packet.bytes := by
    rw [head, tail, List.take_append_drop]
  have valid : Checksum.transportValid .v6
      (packet.canonicalHeader.encode ++ packet.segment.bytes) packet.segment.protocol = true := by
    rw [whole]
    exact plain.valid
  rw [canonical_eq read, Checksum.sealedSegment_of_valid packet.canonicalHeader.heads_encode
    sound.length_ge (by unfold Checksum.maxChunk; omega) valid plain.checksum, whole, same]

end V6
end Nat64Gateway.Packet
