import Nat64Gateway.Packet.V4
import Nat64Gateway.Packet.V6
import Nat64Gateway.Proofs.Packet.Header
import Nat64Gateway.Proofs.Segment

namespace Nat64Gateway.Packet

namespace V4

theorem read_eq_ok {data : Bytes} {packet : V4} (accepted : read data = .ok packet) :
    headerFault? data = none ∧ packet.bytes = data.take (Wire.number data 2 2) ∧
      Segment.read ⟨Wire.byte data 9⟩ (packet.bytes.drop (Checksum.headerLength4 data))
        = .ok packet.segment := by
  unfold read at accepted
  cases fault : headerFault? data with
  | some fault => simp [fault] at accepted
  | none =>
    cases segment : Segment.read ⟨Wire.byte data 9⟩
        ((data.take (Wire.number data 2 2)).drop (Checksum.headerLength4 data)) with
    | error refused => simp [fault, segment, Except.map] at accepted
    | ok found =>
      simp only [fault, segment, Except.map] at accepted
      cases accepted
      exact ⟨rfl, rfl, segment⟩

structure HeaderSound (data : Bytes) : Prop where
  header : 20 ≤ Checksum.headerLength4 data
  payload : Checksum.headerLength4 data < Wire.number data 2 2
  total : Wire.number data 2 2 ≤ data.length
  version : (Wire.byte data 0).toNat / 16 = 4
  whole : isFragment data = false

theorem headerFault?_eq_none {data : Bytes} : headerFault? data = none ↔ HeaderSound data := by
  unfold headerFault?
  simp only [faultless_iff]
  constructor
  · rintro ⟨_, version, header, _, total, payload, whole, _⟩
    exact ⟨Nat.not_lt.mp header, Nat.not_le.mp payload, Nat.not_lt.mp total,
      Decidable.not_not.mp version, Bool.eq_false_iff.mpr whole⟩
  · rintro ⟨header, payload, total, version, whole⟩
    refine ⟨?_, not_not_intro version, Nat.not_lt.mpr header, ?_, Nat.not_lt.mpr total,
      Nat.not_le.mpr payload, Bool.eq_false_iff.mp whole, trivial⟩ <;> omega

-- What stands behind the header and its options, as far as the header says.
def payload (data : Bytes) : Bytes :=
  (data.take (Wire.number data 2 2)).drop (Checksum.headerLength4 data)

theorem read_iff {data : Bytes} {packet : V4} : read data = .ok packet ↔
    HeaderSound data ∧ packet.bytes = data.take (Wire.number data 2 2) ∧
      Segment.read ⟨Wire.byte data 9⟩ (payload data) = .ok packet.segment := by
  constructor
  · intro accepted
    obtain ⟨checked, cut, found⟩ := read_eq_ok accepted
    rw [cut] at found
    exact ⟨headerFault?_eq_none.mp checked, cut, found⟩
  · obtain ⟨bytes, segment⟩ := packet
    rintro ⟨sound, rfl, found⟩
    unfold payload at found
    unfold read
    simp only [headerFault?_eq_none.mpr sound, found]
    rfl

-- A segment is never longer than a length field can say.
theorem segment_of_read {data : Bytes} {packet : V4} (accepted : read data = .ok packet) :
    packet.segment.protocol = ⟨Wire.byte data 9⟩ ∧ packet.segment.Sound ∧
      packet.segment.bytes.length ≤ 65535 := by
  obtain ⟨checked, cut, found⟩ := read_eq_ok accepted
  obtain ⟨protocol, sound, front, _⟩ := Segment.read_eq_ok found
  obtain ⟨header, payload, total, _⟩ := headerFault?_eq_none.mp checked
  have number := Wire.number_lt (by omega : 2 + 2 ≤ data.length)
  have short : packet.segment.bytes.length ≤ Wire.number data 2 2 := by
    have within := congrArg List.length front
    simp only [cut, List.length_take, List.length_drop] at within
    omega
  exact ⟨protocol, sound, by omega⟩

end V4

namespace V6

theorem read_eq_ok {data : Bytes} {packet : V6} (accepted : read data = .ok packet) :
    headerFault? data = none ∧ packet.bytes = data.take (40 + Wire.number data 4 2) ∧
      Segment.read ⟨Wire.byte data 6⟩ (packet.bytes.drop 40) = .ok packet.segment := by
  unfold read at accepted
  cases fault : headerFault? data with
  | some fault => simp [fault] at accepted
  | none =>
    cases segment : Segment.read ⟨Wire.byte data 6⟩
        ((data.take (40 + Wire.number data 4 2)).drop 40) with
    | error refused => simp [fault, segment, Except.map] at accepted
    | ok found =>
      simp only [fault, segment, Except.map] at accepted
      cases accepted
      exact ⟨rfl, rfl, segment⟩

structure HeaderSound (data : Bytes) : Prop where
  version : (Wire.byte data 0).toNat / 16 = 6
  total : 40 + Wire.number data 4 2 ≤ data.length

theorem headerFault?_eq_none {data : Bytes} : headerFault? data = none ↔ HeaderSound data := by
  unfold headerFault?
  simp only [faultless_iff]
  constructor
  · rintro ⟨_, version, total, _⟩
    exact ⟨Decidable.not_not.mp version, Nat.not_lt.mp total⟩
  · rintro ⟨version, total⟩
    have header : 40 ≤ data.length := Nat.le_of_add_right_le total
    exact ⟨Nat.not_lt.mpr header, not_not_intro version, Nat.not_lt.mpr total, trivial⟩

def payload (data : Bytes) : Bytes :=
  (data.drop 40).take (Wire.number data 4 2)

theorem read_iff {data : Bytes} {packet : V6} : read data = .ok packet ↔
    HeaderSound data ∧ packet.bytes = data.take (40 + Wire.number data 4 2) ∧
      Segment.read ⟨Wire.byte data 6⟩ (payload data) = .ok packet.segment := by
  have behind : (data.take (40 + Wire.number data 4 2)).drop 40 = payload data := by
    rw [List.drop_take, Nat.add_sub_cancel_left]
    rfl
  constructor
  · intro accepted
    obtain ⟨checked, cut, found⟩ := read_eq_ok accepted
    rw [cut, behind] at found
    exact ⟨headerFault?_eq_none.mp checked, cut, found⟩
  · obtain ⟨bytes, segment⟩ := packet
    rintro ⟨sound, rfl, found⟩
    unfold read
    simp only [headerFault?_eq_none.mpr sound, behind, found]
    rfl

-- A segment is never longer than a length field can say.
theorem segment_of_read {data : Bytes} {packet : V6} (accepted : read data = .ok packet) :
    packet.segment.protocol = ⟨Wire.byte data 6⟩ ∧ packet.segment.Sound ∧
      packet.segment.bytes.length ≤ 65535 ∧
      packet.segment.bytes = (data.drop 40).take packet.segment.bytes.length := by
  obtain ⟨checked, cut, found⟩ := read_eq_ok accepted
  obtain ⟨protocol, sound, front, _⟩ := Segment.read_eq_ok found
  obtain ⟨_, total⟩ := headerFault?_eq_none.mp checked
  have behind : packet.bytes.drop 40 = (data.drop 40).take (Wire.number data 4 2) := by
    rw [cut, List.drop_take, Nat.add_sub_cancel_left]
  have number := Wire.number_lt (by omega : 4 + 2 ≤ data.length)
  have short : packet.segment.bytes.length ≤ Wire.number data 4 2 := by
    rw [front, behind, List.take_take]
    exact Nat.le_trans (List.length_take_le ..) (Nat.min_le_right ..)
  refine ⟨protocol, sound, by omega, ?_⟩
  rw [behind, List.take_take, Nat.min_eq_left short] at front
  exact front

end V6

-- What a segment has to be for a header in front of it, whatever its checksum field holds.
structure Behind (family : Family) (header : Bytes) (protocol : Protocol) (segment : Segment) :
    Prop where
  heads : Checksum.Heads family header
  sound : segment.Sound
  named : segment.protocol = protocol
  short : segment.bytes.length ≤ 65535

namespace Behind

variable {family : Family} {header : Bytes} {protocol : Protocol} {segment : Segment}

theorem room (behind : Behind family header protocol segment) :
    protocol.checksumOffset + 2 ≤ segment.bytes.length :=
  behind.named ▸ behind.sound.length_ge

theorem chunk (behind : Behind family header protocol segment) :
    segment.bytes.length ≤ Checksum.maxChunk :=
  Nat.le_trans behind.short (by decide)

theorem length_sealed (behind : Behind family header protocol segment) :
    (Checksum.sealedSegment family header protocol segment.bytes).length = segment.bytes.length :=
  Checksum.length_sealedSegment behind.room

theorem sound_sealed (behind : Behind family header protocol segment) :
    Segment.Sound ⟨segment.kind, Checksum.sealedSegment family header protocol segment.bytes⟩ :=
  behind.named ▸ behind.sound.sealedSegment family header

theorem read_sealed (behind : Behind family header protocol segment) :
    Segment.read protocol (Checksum.sealedSegment family header protocol segment.bytes)
      = .ok ⟨segment.kind, Checksum.sealedSegment family header protocol segment.bytes⟩ := by
  have named : Segment.protocol
      ⟨segment.kind, Checksum.sealedSegment family header protocol segment.bytes⟩ = protocol :=
    behind.named
  have found := Segment.read_of_sound behind.sound_sealed
  rwa [named] at found

theorem sourcePort?_sealed (behind : Behind family header protocol segment) :
    Segment.sourcePort?
        ⟨segment.kind, Checksum.sealedSegment family header protocol segment.bytes⟩
      = segment.sourcePort? :=
  behind.named ▸ Segment.sourcePort?_sealedSegment behind.sound family header

theorem destinationPort?_sealed (behind : Behind family header protocol segment) :
    Segment.destinationPort?
        ⟨segment.kind, Checksum.sealedSegment family header protocol segment.bytes⟩
      = segment.destinationPort? :=
  behind.named ▸ Segment.destinationPort?_sealedSegment behind.sound family header

theorem transportValid (behind : Behind family header protocol segment) :
    Checksum.transportValid family
      (header ++ Checksum.sealedSegment family header protocol segment.bytes) segment.protocol
        = true := by
  rw [behind.named]
  exact Checksum.transportValid_sealedSegment behind.heads behind.room behind.chunk

end Behind

namespace Header4

variable {header : Header4} {kind : Segment.Kind} {segment : Bytes}

def packet (header : Header4) (kind : Segment.Kind) (segment : Bytes) : V4 where
  bytes := header.closed ++ Checksum.sealedSegment .v4 header.closed header.protocol segment
  segment := ⟨kind, Checksum.sealedSegment .v4 header.closed header.protocol segment⟩

-- What a segment has to meet to be read back behind this header.
structure Carries (header : Header4) (kind : Segment.Kind) (segment : Bytes) : Prop where
  sound : Segment.Sound ⟨kind, segment⟩
  named : kind.protocol = header.protocol
  total : header.totalLength = 20 + segment.length
  fits : header.totalLength ≤ 65535

namespace Carries

theorem behind (carries : header.Carries kind segment) :
    Behind .v4 header.closed header.protocol ⟨kind, segment⟩ := by
  have total := carries.total
  have fits := carries.fits
  exact ⟨header.heads_closed, carries.sound, carries.named, by dsimp only; omega⟩

theorem assemble_eq (carries : header.Carries kind segment) :
    header.assemble segment = (header.packet kind segment).bytes :=
  header.assemble_eq carries.behind.room carries.behind.chunk

theorem length_packet (carries : header.Carries kind segment) :
    (header.packet kind segment).bytes.length = header.totalLength := by
  unfold packet
  rw [List.length_append, length_closed, carries.behind.length_sealed, carries.total]

theorem sourcePort?_packet (carries : header.Carries kind segment) :
    (header.packet kind segment).segment.sourcePort? = Segment.sourcePort? ⟨kind, segment⟩ :=
  carries.behind.sourcePort?_sealed

theorem destinationPort?_packet (carries : header.Carries kind segment) :
    (header.packet kind segment).segment.destinationPort?
      = Segment.destinationPort? ⟨kind, segment⟩ :=
  carries.behind.destinationPort?_sealed

-- The bytes of the packet as the header wrote them, followed by whatever else was received.
theorem number_packet (carries : header.Carries kind segment) (rest : Bytes) :
    Wire.number ((header.packet kind segment).bytes ++ rest) 2 2 = header.totalLength := by
  have fits := carries.fits
  unfold packet Wire.number
  rw [List.append_assoc, header.field_closed _ (by decide) (by decide), field_totalLength,
    Wire.decode_encode_two (by omega)]

theorem headerLength_packet (header : Header4) (kind : Segment.Kind) (segment rest : Bytes) :
    Checksum.headerLength4 ((header.packet kind segment).bytes ++ rest) = 20 := by
  unfold Checksum.headerLength4 packet
  rw [List.append_assoc, header.byte_closed _ (by decide), byte_version]
  rfl

theorem headerSound (carries : header.Carries kind segment) (rest : Bytes) :
    V4.HeaderSound ((header.packet kind segment).bytes ++ rest) := by
  have total := carries.total
  have room : header.protocol.checksumOffset + 2 ≤ segment.length := carries.behind.room
  have number := carries.number_packet rest
  have words := headerLength_packet header kind segment rest
  refine ⟨Nat.le_of_eq words.symm, ?_, ?_, ?_, ?_⟩
  · rw [words, number]
    omega
  · rw [number, List.length_append, carries.length_packet]
    exact Nat.le_add_right ..
  · unfold packet
    rw [List.append_assoc, header.byte_closed _ (by decide), byte_version]
    rfl
  · unfold V4.isFragment packet
    rw [List.append_assoc, header.number_closed _ (by decide) (by decide), number_fragment]
    rfl

theorem read_append (carries : header.Carries kind segment) (rest : Bytes) :
    V4.read ((header.packet kind segment).bytes ++ rest) = .ok (header.packet kind segment) := by
  have checked := V4.headerFault?_eq_none.mpr (carries.headerSound rest)
  have number := carries.number_packet rest
  have words := headerLength_packet header kind segment rest
  have cut : ((header.packet kind segment).bytes ++ rest).take header.totalLength
      = (header.packet kind segment).bytes := by
    rw [← carries.length_packet, List.take_left]
  have protocol : Wire.byte ((header.packet kind segment).bytes ++ rest) 9
      = header.protocol.number := by
    unfold packet
    rw [List.append_assoc, header.byte_closed _ (by decide), byte_protocol]
  have behind : (header.packet kind segment).bytes.drop 20
      = (header.packet kind segment).segment.bytes := by
    unfold packet
    rw [← header.length_closed, List.drop_left]
  have found : Segment.read header.protocol (header.packet kind segment).segment.bytes
      = .ok (header.packet kind segment).segment := carries.behind.read_sealed
  unfold V4.read
  simp only [checked, number, words, cut, protocol, behind, found]
  rfl

theorem read_packet (carries : header.Carries kind segment) :
    V4.read (header.packet kind segment).bytes = .ok (header.packet kind segment) := by
  have read := carries.read_append []
  rwa [List.append_nil] at read

theorem transportValid (carries : header.Carries kind segment) :
    (header.packet kind segment).transportValid = true :=
  carries.behind.transportValid

end Carries

section Fields

variable (header : Header4) (kind : Segment.Kind) (segment : Bytes)

theorem headerLength_bytes :
    Checksum.headerLength4 (header.packet kind segment).bytes = 20 := by
  have words := Carries.headerLength_packet header kind segment []
  rwa [List.append_nil] at words

theorem headerValid_packet : (header.packet kind segment).headerValid = true := by
  unfold V4.headerValid
  rw [headerLength_bytes]
  unfold packet
  rw [← header.length_closed, List.take_left]
  exact header.headerValid_closed

theorem fragment_packet : Wire.number (header.packet kind segment).bytes 6 2 = 0 :=
  (header.number_closed _ (by decide) (by decide)).trans header.number_fragment

theorem identification_packet :
    (header.packet kind segment).identification = header.identification := by
  unfold V4.identification Wire.word Wire.number packet
  rw [header.field_closed _ (by decide) (by decide), field_identification, Wire.decode_encodeWord]
  exact UInt16.ofNat_toNat

theorem dscp_packet : (header.packet kind segment).dscp = header.typeOfService >>> 2 := by
  unfold V4.dscp packet
  rw [header.byte_closed _ (by decide), byte_typeOfService]

theorem timeToLive_packet : (header.packet kind segment).timeToLive = header.timeToLive := by
  unfold V4.timeToLive packet
  rw [header.byte_closed _ (by decide), byte_timeToLive]

theorem source_packet : (header.packet kind segment).source = header.source := by
  unfold V4.source packet
  rw [header.field_closed _ (by decide) (by decide), field_source, Address.V4.ofOctets_octets]

theorem destination_packet : (header.packet kind segment).destination = header.destination := by
  unfold V4.destination packet
  rw [header.field_closed _ (by decide) (by decide), field_destination,
    Address.V4.ofOctets_octets]

end Fields
end Header4

namespace Header6

variable {header : Header6} {kind : Segment.Kind} {segment : Bytes}

def packet (header : Header6) (kind : Segment.Kind) (segment : Bytes) : V6 where
  bytes := header.encode ++ Checksum.sealedSegment .v6 header.encode header.protocol segment
  segment := ⟨kind, Checksum.sealedSegment .v6 header.encode header.protocol segment⟩

structure Carries (header : Header6) (kind : Segment.Kind) (segment : Bytes) : Prop where
  sound : Segment.Sound ⟨kind, segment⟩
  named : kind.protocol = header.protocol
  payload : header.payloadLength = segment.length
  fits : header.payloadLength ≤ 65535

namespace Carries

theorem behind (carries : header.Carries kind segment) :
    Behind .v6 header.encode header.protocol ⟨kind, segment⟩ :=
  ⟨header.heads_encode, carries.sound, carries.named, carries.payload ▸ carries.fits⟩

theorem assemble_eq (carries : header.Carries kind segment) :
    header.assemble segment = (header.packet kind segment).bytes :=
  header.assemble_eq carries.behind.room carries.behind.chunk

theorem length_packet (carries : header.Carries kind segment) :
    (header.packet kind segment).bytes.length = 40 + header.payloadLength := by
  unfold packet
  rw [List.length_append, length_encode, carries.behind.length_sealed, carries.payload]

theorem sourcePort?_packet (carries : header.Carries kind segment) :
    (header.packet kind segment).segment.sourcePort? = Segment.sourcePort? ⟨kind, segment⟩ :=
  carries.behind.sourcePort?_sealed

theorem destinationPort?_packet (carries : header.Carries kind segment) :
    (header.packet kind segment).segment.destinationPort?
      = Segment.destinationPort? ⟨kind, segment⟩ :=
  carries.behind.destinationPort?_sealed

theorem number_packet (carries : header.Carries kind segment) (rest : Bytes) :
    Wire.number ((header.packet kind segment).bytes ++ rest) 4 2 = header.payloadLength := by
  have fits := carries.fits
  unfold packet Wire.number
  rw [List.append_assoc, Wire.field_append_left _ (by rw [length_encode]; decide),
    field_payloadLength, Wire.decode_encode_two (by omega)]

theorem headerSound (carries : header.Carries kind segment) (rest : Bytes) :
    V6.HeaderSound ((header.packet kind segment).bytes ++ rest) := by
  refine ⟨?_, ?_⟩
  · unfold packet
    rw [List.append_assoc, Wire.byte_append_left _ (by rw [length_encode]; decide), byte_version]
    rfl
  · rw [carries.number_packet rest, List.length_append, carries.length_packet]
    exact Nat.le_add_right ..

theorem read_append (carries : header.Carries kind segment) (rest : Bytes) :
    V6.read ((header.packet kind segment).bytes ++ rest) = .ok (header.packet kind segment) := by
  have checked := V6.headerFault?_eq_none.mpr (carries.headerSound rest)
  have number := carries.number_packet rest
  have cut : ((header.packet kind segment).bytes ++ rest).take (40 + header.payloadLength)
      = (header.packet kind segment).bytes := by
    rw [← carries.length_packet, List.take_left]
  have protocol : Wire.byte ((header.packet kind segment).bytes ++ rest) 6
      = header.protocol.number := by
    unfold packet
    rw [List.append_assoc, Wire.byte_append_left _ (by rw [length_encode]; decide), byte_protocol]
  have behind : (header.packet kind segment).bytes.drop 40
      = (header.packet kind segment).segment.bytes := by
    unfold packet
    rw [← header.length_encode, List.drop_left]
  have found : Segment.read header.protocol (header.packet kind segment).segment.bytes
      = .ok (header.packet kind segment).segment := carries.behind.read_sealed
  unfold V6.read
  simp only [checked, number, cut, protocol, behind, found]
  rfl

theorem read_packet (carries : header.Carries kind segment) :
    V6.read (header.packet kind segment).bytes = .ok (header.packet kind segment) := by
  have read := carries.read_append []
  rwa [List.append_nil] at read

theorem transportValid (carries : header.Carries kind segment) :
    (header.packet kind segment).transportValid = true :=
  carries.behind.transportValid

theorem payloadLength_packet (carries : header.Carries kind segment) :
    (header.packet kind segment).payloadLength = header.payloadLength := by
  unfold V6.payloadLength
  rw [carries.length_packet, Nat.add_sub_cancel_left]

end Carries

section Fields

variable (header : Header6) (kind : Segment.Kind) (segment : Bytes)

theorem version_packet :
    Wire.field (header.packet kind segment).bytes 0 4 = [0x60, 0, 0, 0] := by
  unfold packet
  rw [Wire.field_append_left _ (by rw [length_encode]; decide), field_version]

theorem hopLimit_packet : (header.packet kind segment).hopLimit = header.hopLimit := by
  unfold V6.hopLimit packet
  rw [Wire.byte_append_left _ (by rw [length_encode]; decide), byte_hopLimit]

theorem field_source_packet :
    Wire.field (header.packet kind segment).bytes 8 16 = header.source.octets := by
  unfold packet
  rw [Wire.field_append_left _ (by rw [length_encode]; decide), field_source]

theorem field_destination_packet :
    Wire.field (header.packet kind segment).bytes 24 16 = header.destination.octets := by
  unfold packet
  rw [Wire.field_append_left _ (Nat.le_of_eq header.length_encode.symm), field_destination]

theorem source_packet : (header.packet kind segment).source = header.source := by
  unfold V6.source
  rw [field_source_packet, Address.V6.ofOctets_octets]

theorem destination_packet : (header.packet kind segment).destination = header.destination := by
  unfold V6.destination
  rw [field_destination_packet, Address.V6.ofOctets_octets]

end Fields
end Header6

namespace Header

def encode : {family : Family} → Header family → Bytes
  | .v4, header => Header4.encode header
  | .v6, header => Header6.encode header

theorem length_encode {family : Family} (header : Header family) :
    header.encode.length = family.headerLength := by
  cases family with
  | v4 => exact Header4.length_encode header
  | v6 => exact Header6.length_encode header

def protocol : {family : Family} → Header family → Protocol
  | .v4, header => Header4.protocol header
  | .v6, header => Header6.protocol header

def written : {family : Family} → Header family → Segment.Kind → Bytes → Bytes
  | .v4, header, kind, segment => (Header4.packet header kind segment).bytes
  | .v6, header, kind, segment => (Header6.packet header kind segment).bytes

def Carries : {family : Family} → Header family → Segment.Kind → Bytes → Prop
  | .v4, header, kind, segment => Header4.Carries header kind segment
  | .v6, header, kind, segment => Header6.Carries header kind segment

namespace Carries

variable {family : Family} {header : Header family} {kind : Segment.Kind} {segment : Bytes}

theorem named (carries : header.Carries kind segment) : kind.protocol = header.protocol := by
  cases family with
  | v4 => exact Header4.Carries.named carries
  | v6 => exact Header6.Carries.named carries

theorem assemble_eq (carries : header.Carries kind segment) :
    header.assemble segment = header.written kind segment := by
  cases family with
  | v4 => exact Header4.Carries.assemble_eq carries
  | v6 => exact Header6.Carries.assemble_eq carries

theorem length_written (carries : header.Carries kind segment) :
    (header.written kind segment).length = family.headerLength + segment.length := by
  cases family with
  | v4 => exact (Header4.Carries.length_packet carries).trans (Header4.Carries.total carries)
  | v6 =>
    exact (Header6.Carries.length_packet carries).trans
      (congrArg (40 + ·) (Header6.Carries.payload carries))

end Carries
end Header
end Nat64Gateway.Packet
