import Nat64Gateway.Proofs.Packet.Reading
import Nat64Gateway.Proofs.SameOff

namespace Nat64Gateway

open Wire (onField)

namespace Segment

-- The checksum of the segment itself, and whatever lies behind an endpoint block.
def Kind.Checksums (kind : Kind) (spots : Nat → Prop) : Prop :=
  ∀ i, spots i → onField kind.protocol.checksumOffset i ∨ 8 + Endpoint.Block.length ≤ i

structure SameOff (spots : Nat → Prop) (left right : Segment) : Prop where
  kind : left.kind = right.kind
  bytes : Wire.SameOff spots left.bytes right.bytes

theorem Kind.checksums_own (kind : Kind) : kind.Checksums (onField kind.protocol.checksumOffset) :=
  fun _ => .inl

-- A segment's account of its length is never its checksum.
theorem Kind.Checksums.lengthField {kind : Kind} {spots : Nat → Prop}
    (checksums : kind.Checksums spots) {i : Nat} (first : kind.lengthField.1 ≤ i)
    (last : i < kind.lengthField.1 + kind.lengthField.2) : ¬spots i := by
  intro spotted
  have places := checksums i spotted
  unfold onField Endpoint.Block.length at places
  cases kind with
  | udp =>
    have offset : Protocol.checksumOffset (Kind.protocol .udp) = 6 := rfl
    simp only [Kind.lengthField] at first last
    omega
  | tcp =>
    have offset : Protocol.checksumOffset (Kind.protocol .tcp) = 16 := rfl
    simp only [Kind.lengthField] at first last
    omega
  | icmp family => exact absurd last (Nat.not_lt.mpr (Nat.zero_le _))

theorem readTcp_likewise {spots : Nat → Prop} {left right : Bytes}
    (same : Wire.SameOff spots left right) (apart : ¬spots 12) :
    Likewise (SameOff spots) (readTcp left) (readTcp right) := by
  unfold readTcp tcpHeaderLength
  rw [← same.length, ← same.byte apart]
  refine .check _ _ fun _ => .check _ _ fun _ => .check _ _ fun _ => ?_
  exact .accepted _ _ rfl rfl ⟨rfl, same⟩

theorem read_likewise {protocol : Protocol} {spots : Nat → Prop} {left right : Bytes}
    (same : Wire.SameOff spots left right)
    (checksums : ∀ kind, Kind.ofProtocol? protocol = some kind → kind.Checksums spots) :
    Likewise (SameOff spots) (read protocol left) (read protocol right) := by
  unfold read
  cases found : Kind.ofProtocol? protocol with
  | none => exact .refused .protocolUnsupported rfl rfl
  | some kind =>
    have apart := checksums kind found
    cases kind with
    | udp =>
      have stated : Wire.number left 4 2 = Wire.number right 4 2 :=
        same.number fun i first last => apart.lengthField first last
      unfold readUdp
      simp only [← same.length, ← stated]
      refine .check _ _ fun _ => .check _ _ fun _ => .check _ _ fun _ => ?_
      exact .accepted _ _ rfl rfl ⟨rfl, same.take _⟩
    | tcp =>
      have offset : ¬spots 12 := apart.lengthField (Nat.le_refl 12) (by decide : 12 < 12 + 1)
      exact readTcp_likewise same offset
    | icmp family =>
      unfold readIcmp
      simp only [← same.length]
      refine .check _ _ fun _ => ?_
      exact .accepted _ _ rfl rfl ⟨rfl, same⟩

namespace SameOff

variable {spots : Nat → Prop} {left right : Segment}

theorem protocol (same : SameOff spots left right) : left.protocol = right.protocol :=
  congrArg Kind.protocol same.kind

-- Only the checksum of a message stands among its first four bytes.
theorem ports (same : SameOff spots left right) (checksums : left.kind.Checksums spots) :
    left.sourcePort? = right.sourcePort? ∧ left.destinationPort? = right.destinationPort? := by
  obtain ⟨kind, left⟩ := left
  obtain ⟨right_kind, right⟩ := right
  cases same.kind
  by_cases carries : kind = .udp ∨ kind = .tcp
  · apply ports_of_field
    apply same.bytes.field
    intro i _ front spotted
    have behind : 4 ≤ kind.protocol.checksumOffset := checksumOffset_ge_ports carries
    have places : onField kind.protocol.checksumOffset i ∨ 8 + 36 ≤ i := checksums i spotted
    unfold onField at places
    omega
  · cases kind with
    | udp => exact absurd (.inl rfl) carries
    | tcp => exact absurd (.inr rfl) carries
    | icmp family => exact ⟨rfl, rfl⟩

end SameOff
end Segment

-- The type and the code of a message stand in front of its checksum. One byte of a message that was
-- read can be written over.
theorem Icmp.Message.read_likewise (family : Family) {left right : Bytes}
    (same : Wire.SameOff (onField 2) left right) :
    Likewise (fun first second => first.kind = second.kind ∧ 0 + 1 ≤ left.length)
      (read family left) (read family right) := by
  have type : Wire.byte left 0 = Wire.byte right 0 := same.byte (by unfold onField; decide)
  have code : Wire.byte left 1 = Wire.byte right 1 := same.byte (by unfold onField; decide)
  unfold read
  rw [← same.length]
  refine .check _ _ fun long => ?_
  refine .accepted _ _ rfl rfl ⟨?_, Nat.le_trans (by decide) (Nat.not_lt.mp long)⟩
  unfold kind
  simp only [type, code]

namespace Packet

def ownChecksum (protocol : UInt8) : Nat → Prop :=
  onField (Protocol.checksumOffset ⟨protocol⟩)

theorem checksums_ownChecksum {protocol : UInt8} {kind : Segment.Kind}
    (found : Segment.Kind.ofProtocol? ⟨protocol⟩ = some kind) :
    kind.Checksums (ownChecksum protocol) := by
  unfold ownChecksum
  rw [← Segment.Kind.protocol_of_ofProtocol? found]
  exact kind.checksums_own

namespace V6

def checksum (data : Bytes) : Nat → Prop :=
  onField (Checksum.transportField .v6 data ⟨Wire.byte data 6⟩)

theorem checksum_behind {data : Bytes} {i : Nat} (spotted : checksum data i) : 40 ≤ i :=
  Nat.le_trans (Nat.le_add_right ..) spotted.1

theorem checksum_iff {data : Bytes} {i : Nat} :
    checksum data (40 + i) ↔ ownChecksum (Wire.byte data 6) i := by
  have start : Checksum.transportField .v6 data ⟨Wire.byte data 6⟩
      = 40 + Protocol.checksumOffset ⟨Wire.byte data 6⟩ := rfl
  unfold checksum ownChecksum onField
  rw [start]
  omega

structure SameOff (spots : Nat → Prop) (left right : V6) : Prop where
  hopLimit : left.hopLimit = right.hopLimit
  source : left.source = right.source
  destination : left.destination = right.destination
  segment : left.segment.SameOff spots right.segment

theorem headerFault?_sameOff {spots : Nat → Prop} {data other : Bytes}
    (same : Wire.SameOff spots data other) (behind : ∀ i, spots i → 40 ≤ i) :
    headerFault? data = headerFault? other := by
  have version : Wire.byte data 0 = Wire.byte other 0 :=
    same.byte fun spotted => absurd (behind 0 spotted) (by decide)
  have payload : Wire.number data 4 2 = Wire.number other 4 2 :=
    same.number fun i _ front spotted => absurd (behind i spotted) (by omega)
  unfold headerFault?
  rw [same.length, version, payload]

theorem sameOff_of_bytes {bytes other_bytes : Bytes} {spots segment_spots : Nat → Prop}
    {segment other_segment : Segment} (same : Wire.SameOff spots bytes other_bytes)
    (behind : ∀ i, spots i → 40 ≤ i) (segments : segment.SameOff segment_spots other_segment) :
    SameOff segment_spots ⟨bytes, segment⟩ ⟨other_bytes, other_segment⟩ := by
  have field : ∀ {offset width}, offset + width ≤ 40 →
      Wire.field bytes offset width = Wire.field other_bytes offset width := by
    intro offset width inside
    apply same.field
    intro i _ before spotted
    have after := behind i spotted
    omega
  refine ⟨?_, ?_, ?_, segments⟩
  · exact same.byte fun spotted => absurd (behind 7 spotted) (by decide)
  · exact congrArg Address.V6.ofOctets (field (by decide))
  · exact congrArg Address.V6.ofOctets (field (by decide))

theorem read_likewise {data other : Bytes} (same : Wire.SameOff (checksum data) data other) :
    Likewise (SameOff (ownChecksum (Wire.byte data 6))) (read data) (read other) := by
  have behind : ∀ i, checksum data i → 40 ≤ i := fun _ => checksum_behind
  have front : ∀ i, i < 40 → ¬checksum data i :=
    fun i before spotted => Nat.not_lt.mpr (behind i spotted) before
  have faults := headerFault?_sameOff same behind
  have protocol := same.byte (front 6 (by decide))
  have total : Wire.number data 4 2 = Wire.number other 4 2 :=
    same.number fun i _ before => front i (by omega)
  have cut := same.take (40 + Wire.number data 4 2)
  have segments : Wire.SameOff (ownChecksum (Wire.byte data 6))
      ((data.take (40 + Wire.number data 4 2)).drop 40)
      ((other.take (40 + Wire.number data 4 2)).drop 40) :=
    (cut.drop 40).mono fun _ => checksum_iff.mp
  unfold read
  rw [← faults, ← total, ← protocol]
  cases headerFault? data with
  | some fault => exact .refused fault rfl rfl
  | none =>
    refine (Segment.read_likewise segments fun kind => checksums_ownChecksum).map ?_
    intro segment other_segment found
    exact sameOff_of_bytes cut behind found

end V6

namespace V4

def checksums (data : Bytes) (i : Nat) : Prop :=
  onField 10 i ∨ onField (Checksum.transportField .v4 data ⟨Wire.byte data 9⟩) i

structure SameOff (spots : Nat → Prop) (left right : V4) : Prop where
  dscp : left.dscp = right.dscp
  timeToLive : left.timeToLive = right.timeToLive
  source : left.source = right.source
  destination : left.destination = right.destination
  segment : left.segment.SameOff spots right.segment

theorem SameOff.mono {spots more : Nat → Prop} {left right : V4} (same : left.SameOff spots right)
    (within : ∀ i, spots i → more i) : left.SameOff more right :=
  ⟨same.dscp, same.timeToLive, same.source, same.destination, same.segment.kind,
    same.segment.bytes.mono within⟩

-- Where packets may differ that are taken for the same one: in the checksum of the header, and
-- behind the header. A header that is too short has no such places, but is refused at once.
structure Beside (data : Bytes) (spots : Nat → Prop) : Prop where
  first : ¬spots 0
  header : 20 ≤ Checksum.headerLength4 data →
    ∀ i, spots i → onField 10 i ∨ Checksum.headerLength4 data ≤ i

namespace Beside

variable {data other : Bytes} {spots : Nat → Prop}

theorem apart (beside : Beside data spots) (long : 20 ≤ Checksum.headerLength4 data) {i : Nat}
    (before : i < 20) (checksum : i < 10 ∨ 12 ≤ i) : ¬spots i := by
  intro spotted
  have places := beside.header long i spotted
  unfold onField at places
  omega

theorem headerLength (beside : Beside data spots) (same : Wire.SameOff spots data other) :
    Checksum.headerLength4 data = Checksum.headerLength4 other := by
  unfold Checksum.headerLength4
  rw [same.byte beside.first]

theorem headerFault? (beside : Beside data spots) (same : Wire.SameOff spots data other) :
    headerFault? data = headerFault? other := by
  have words := beside.headerLength same
  have version := same.byte beside.first
  by_cases long : 20 ≤ Checksum.headerLength4 data
  · have total : Wire.number data 2 2 = Wire.number other 2 2 :=
      same.number fun i _ last => beside.apart long (by omega) (by omega)
    have fragment : Wire.number data 6 2 = Wire.number other 6 2 :=
      same.number fun i _ last => beside.apart long (by omega) (by omega)
    unfold V4.headerFault? isFragment
    rw [same.length, version, words, total, fragment]
  · have short := Nat.not_le.mp long
    unfold V4.headerFault?
    simp only [← same.length, ← version, ← words, if_pos short]

end Beside

theorem sameOff_of_bytes {bytes other_bytes : Bytes} {spots segment_spots : Nat → Prop}
    {segment other_segment : Segment} (same : Wire.SameOff spots bytes other_bytes)
    (apart : ∀ i, i < 20 → i < 10 ∨ 12 ≤ i → ¬spots i)
    (segments : segment.SameOff segment_spots other_segment) :
    SameOff segment_spots ⟨bytes, segment⟩ ⟨other_bytes, other_segment⟩ := by
  have address : ∀ {offset}, 12 ≤ offset → offset + 4 ≤ 20 →
      Wire.field bytes offset 4 = Wire.field other_bytes offset 4 := by
    intro offset behind inside
    apply same.field
    intro i first last
    exact apart i (by omega) (by omega)
  have service := same.byte (apart 1 (by decide) (by decide))
  refine ⟨?_, ?_, ?_, ?_, segments⟩
  · exact congrArg (fun bits : UInt8 => bits >>> 2) service
  · exact same.byte (apart 8 (by decide) (by decide))
  · exact congrArg Address.V4.ofOctets (address (by decide) (by decide))
  · exact congrArg Address.V4.ofOctets (address (by decide) (by decide))

theorem read_likewise {data other : Bytes} {spots segment_spots : Nat → Prop}
    (same : Wire.SameOff spots data other) (beside : Beside data spots)
    (shifted : 20 ≤ Checksum.headerLength4 data →
      ∀ i, spots (Checksum.headerLength4 data + i) → segment_spots i)
    (checksums : ∀ kind, Segment.Kind.ofProtocol? ⟨Wire.byte data 9⟩ = some kind →
      kind.Checksums segment_spots) :
    Likewise (SameOff segment_spots) (read data) (read other) := by
  have faults := beside.headerFault? same
  unfold read
  rw [← faults]
  cases checked : headerFault? data with
  | some fault => exact .refused fault rfl rfl
  | none =>
    have long := (headerFault?_eq_none.mp checked).header
    have apart : ∀ i, i < 20 → i < 10 ∨ 12 ≤ i → ¬spots i := fun _ => beside.apart long
    have protocol := same.byte (apart 9 (by decide) (by decide))
    have total : Wire.number data 2 2 = Wire.number other 2 2 :=
      same.number fun i _ last => apart i (by omega) (by omega)
    have cut := same.take (Wire.number data 2 2)
    have segments := (cut.drop (Checksum.headerLength4 data)).mono (shifted long)
    rw [← total, ← protocol, ← beside.headerLength same]
    refine (Segment.read_likewise segments checksums).map ?_
    intro segment other_segment found
    exact sameOff_of_bytes cut apart found

end V4
end Packet
end Nat64Gateway
