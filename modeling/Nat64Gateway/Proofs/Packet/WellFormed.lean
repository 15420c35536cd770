import Nat64Gateway.Proofs.Packet.Reading

namespace Nat64Gateway.Packet

structure V4.WellFormed (data : Bytes) (packet : V4) : Prop where
  read : V4.read data = .ok packet
  total : packet.totalLength = data.length
  header : Checksum.headerLength4 data = 20
  fragment : Wire.number data 6 2 = 0
  headerValid : packet.headerValid = true
  transportValid : packet.transportValid = true
  checksum : Wire.number data (20 + packet.segment.protocol.checksumOffset) 2 ≠ 0
  udpLength : packet.segment.kind = .udp → Wire.number data 24 2 = data.length - 20

structure V6.WellFormed (data : Bytes) (packet : V6) : Prop where
  read : V6.read data = .ok packet
  payload : packet.payloadLength = data.length - 40
  version : Wire.field data 0 4 = [0x60, 0, 0, 0]
  transportValid : packet.transportValid = true
  checksum : Wire.number data (40 + packet.segment.protocol.checksumOffset) 2 ≠ 0
  udpLength : packet.segment.kind = .udp → Wire.number data 44 2 = data.length - 40

theorem number_behind {front back : Bytes} {length : Nat} (same : front.length = length)
    (offset width : Nat) :
    Wire.number (front ++ back) (length + offset) width = Wire.number back offset width := by
  rw [Wire.number_append_right (by omega), same, Nat.add_sub_cancel_left]

namespace Behind

variable {family : Family} {header : Bytes} {protocol : Protocol} {segment : Segment} {length : Nat}

-- A stored checksum is a complement, and complements are never zero.
theorem checksum_ne_zero (behind : Behind family header protocol segment) :
    Wire.number (Checksum.sealedSegment family header protocol segment.bytes)
      segment.protocol.checksumOffset 2 ≠ 0 := by
  rw [behind.named, Checksum.field_sealedSegment behind.room]
  exact Nat.ne_of_gt (Checksum.complement_pos _)

theorem udpLength (behind : Behind family header protocol segment) (size : header.length = length)
    (udp : segment.kind = .udp) :
    Wire.number (header ++ Checksum.sealedSegment family header protocol segment.bytes)
      (length + 4) 2 = segment.bytes.length := by
  have stated := behind.sound_sealed
  rw [udp] at stated
  rw [number_behind size, stated.2, behind.length_sealed]

end Behind

namespace Header4

variable {header : Header4} {kind : Segment.Kind} {segment : Bytes}

theorem wellFormed_packet (carries : header.Carries kind segment) :
    V4.WellFormed (header.packet kind segment).bytes (header.packet kind segment) := by
  have length := header.length_closed
  have checksum := carries.behind.checksum_ne_zero
  rw [← number_behind length] at checksum
  refine ⟨carries.read_packet, rfl, header.headerLength_bytes kind segment,
    header.fragment_packet kind segment, header.headerValid_packet kind segment,
    carries.transportValid, checksum, ?_⟩
  intro udp
  rw [carries.length_packet, carries.total, Nat.add_sub_cancel_left]
  exact carries.behind.udpLength length udp

end Header4

namespace Header6

variable {header : Header6} {kind : Segment.Kind} {segment : Bytes}

theorem wellFormed_packet (carries : header.Carries kind segment) :
    V6.WellFormed (header.packet kind segment).bytes (header.packet kind segment) := by
  have length := header.length_encode
  have checksum := carries.behind.checksum_ne_zero
  rw [← number_behind length] at checksum
  refine ⟨carries.read_packet, rfl, header.version_packet kind segment, carries.transportValid,
    checksum, ?_⟩
  intro udp
  rw [carries.length_packet, carries.payload, Nat.add_sub_cancel_left]
  exact carries.behind.udpLength length udp

end Header6
end Nat64Gateway.Packet
