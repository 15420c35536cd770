import Nat64Gateway.Proofs.Packet.WellFormed

namespace Nat64Gateway

namespace Packet

structure Ends (Address : Type) where
  kind : Segment.Kind
  source : Address
  sourcePort : Option UInt16
  destination : Address
  destinationPort : Option UInt16

def Ends.reversed {Address : Type} (ends : Ends Address) : Ends Address where
  kind := ends.kind
  source := ends.destination
  sourcePort := ends.destinationPort
  destination := ends.source
  destinationPort := ends.sourcePort

def V4.ends (packet : V4) : Ends Address.V4 where
  kind := packet.segment.kind
  source := packet.source
  sourcePort := packet.segment.sourcePort?
  destination := packet.destination
  destinationPort := packet.segment.destinationPort?

def V6.ends (packet : V6) : Ends Address.V6 where
  kind := packet.segment.kind
  source := packet.source
  sourcePort := packet.segment.sourcePort?
  destination := packet.destination
  destinationPort := packet.segment.destinationPort?

end Packet

-- The same header and payload, but for the checksum.
def Segment.Resealed (segment original : Segment) : Prop :=
  segment.kind = original.kind ∧ ∃ checksum, checksum.length = 2 ∧
    segment.bytes = Wire.overwrite original.bytes original.protocol.checksumOffset checksum

namespace Packet

namespace Behind

variable {family : Family} {header : Bytes} {protocol : Protocol} {segment : Segment} {length : Nat}

theorem resealed (behind : Behind family header protocol segment) :
    Segment.Resealed
      ⟨segment.kind, Checksum.sealedSegment family header protocol segment.bytes⟩ segment := by
  rw [← behind.named]
  exact ⟨rfl, _, Wire.length_encode .., rfl⟩

-- The message of a datagram is where it was.
theorem drop_message (behind : Behind family header protocol segment)
    (size : header.length = length) (udp : segment.kind = .udp) :
    (header ++ Checksum.sealedSegment family header protocol segment.bytes).drop (length + 8)
      = segment.bytes.drop 8 := by
  have protocol_eq := behind.named
  rw [Segment.protocol, udp] at protocol_eq
  rw [Wire.drop_behind size]
  exact Checksum.drop_sealedSegment behind.room (by rw [← protocol_eq]; decide)

end Behind

variable {kind : Segment.Kind} {segment : Bytes}

namespace Header4.Carries

variable {header : Header4}

theorem ends_packet (carries : header.Carries kind segment) :
    (header.packet kind segment).ends = {
      kind
      source := header.source
      sourcePort := Segment.sourcePort? ⟨kind, segment⟩
      destination := header.destination
      destinationPort := Segment.destinationPort? ⟨kind, segment⟩ } := by
  unfold V4.ends
  rw [header.source_packet, header.destination_packet, carries.sourcePort?_packet,
    carries.destinationPort?_packet]
  rfl

theorem resealed (carries : header.Carries kind segment) :
    (header.packet kind segment).segment.Resealed ⟨kind, segment⟩ :=
  carries.behind.resealed

theorem drop_packet (carries : header.Carries .udp segment) :
    (header.packet .udp segment).bytes.drop 28 = segment.drop 8 :=
  carries.behind.drop_message header.length_closed rfl

end Header4.Carries
namespace Header6.Carries

variable {header : Header6}

theorem ends_packet (carries : header.Carries kind segment) :
    (header.packet kind segment).ends = {
      kind
      source := header.source
      sourcePort := Segment.sourcePort? ⟨kind, segment⟩
      destination := header.destination
      destinationPort := Segment.destinationPort? ⟨kind, segment⟩ } := by
  unfold V6.ends
  rw [header.source_packet, header.destination_packet, carries.sourcePort?_packet,
    carries.destinationPort?_packet]
  rfl

theorem resealed (carries : header.Carries kind segment) :
    (header.packet kind segment).segment.Resealed ⟨kind, segment⟩ :=
  carries.behind.resealed

theorem drop_packet (carries : header.Carries .udp segment) :
    (header.packet .udp segment).bytes.drop 48 = segment.drop 8 :=
  carries.behind.drop_message header.length_encode rfl

theorem field_ports (carries : header.Carries kind segment) (ported : kind = .udp ∨ kind = .tcp) :
    Wire.field (header.packet kind segment).bytes 40 4 = Wire.field segment 0 4 := by
  unfold Header6.packet
  rw [Wire.field_append_right (Nat.le_of_eq header.length_encode), header.length_encode,
    ← carries.named]
  exact Segment.ports_sealedSegment carries.sound ported .v6 header.encode

end Header6.Carries
end Packet
end Nat64Gateway
