import Nat64Gateway.Packet.Header
import Nat64Gateway.Proofs.Checksum.Filled

namespace Nat64Gateway.Packet

namespace Header4

variable (header : Header4)

def closed : Bytes :=
  Checksum.sealedHeader header.encode

theorem heads_encode : Checksum.Heads .v4 header.encode := by
  refine ⟨Nat.le_of_eq header.length_encode.symm, ?_⟩
  rw [length_encode]
  simp [Checksum.headerLength4, Wire.byte, encode]

theorem heads_closed : Checksum.Heads .v4 header.closed :=
  header.heads_encode.sealedHeader

@[simp] theorem length_closed : header.closed.length = 20 := by
  unfold closed
  rw [Checksum.length_sealedHeader (by rw [length_encode]; decide), length_encode]

theorem headerValid_closed : Checksum.headerValid header.closed = true :=
  Checksum.headerValid_sealedHeader (by rw [length_encode]; decide) (by rw [length_encode]; decide)

theorem assemble_eq {segment : Bytes} (room : header.protocol.checksumOffset + 2 ≤ segment.length)
    (fits : segment.length ≤ Checksum.maxChunk) :
    header.assemble segment
      = header.closed ++ Checksum.sealedSegment .v4 header.closed header.protocol segment := by
  unfold assemble
  rw [Checksum.fillHeader_append header.heads_encode]
  exact Checksum.fillTransport_append header.heads_closed room fits

-- All but the checksum stands in the packet as it was encoded.
theorem field_closed (rest : Bytes) {offset width : Nat} (inside : offset + width ≤ 20)
    (apart : offset + width ≤ 10 ∨ 12 ≤ offset) :
    Wire.field (header.closed ++ rest) offset width = Wire.field header.encode offset width := by
  rw [Wire.field_append_left rest (by rw [length_closed]; exact inside)]
  exact Wire.field_overwrite_of_disjoint (by rw [Wire.length_encode]; exact apart)
    (by rw [Wire.length_encode, length_encode]; decide)

theorem number_closed (rest : Bytes) {offset width : Nat} (inside : offset + width ≤ 20)
    (apart : offset + width ≤ 10 ∨ 12 ≤ offset) :
    Wire.number (header.closed ++ rest) offset width = Wire.number header.encode offset width := by
  unfold Wire.number
  rw [header.field_closed rest inside apart]

theorem byte_closed (rest : Bytes) {offset : Nat} (inside : offset < 10) :
    Wire.byte (header.closed ++ rest) offset = Wire.byte header.encode offset := by
  rw [Wire.byte_eq_field, header.field_closed rest (by omega) (by omega), ← Wire.byte_eq_field]

theorem encode_eq : header.encode
    = [0x45, header.typeOfService] ++ Wire.encode 2 header.totalLength
      ++ (Wire.encodeWord header.identification
        ++ ([0, 0, header.timeToLive, header.protocol.number, 0, 0]
          ++ (header.source.octets ++ header.destination.octets))) := by
  simp [encode]

theorem field_totalLength : Wire.field header.encode 2 2 = Wire.encode 2 header.totalLength := by
  rw [encode_eq, List.append_assoc]
  exact Wire.field_between rfl (Wire.length_encode ..)

theorem field_identification :
    Wire.field header.encode 4 2 = Wire.encodeWord header.identification := by
  rw [encode_eq]
  exact Wire.field_between (by simp) (Wire.length_encodeWord ..)

theorem field_options : Wire.field header.encode 6 6
    = [0, 0, header.timeToLive, header.protocol.number, 0, 0] := by
  rw [encode_eq, ← List.append_assoc]
  exact Wire.field_between (by simp) rfl

theorem field_source : Wire.field header.encode 12 4 = header.source.octets := by
  unfold encode
  rw [Wire.field_append_left _ (by simp)]
  exact Wire.field_suffix (by simp) header.source.length_octets

theorem field_destination : Wire.field header.encode 16 4 = header.destination.octets :=
  Wire.field_suffix (by simp) header.destination.length_octets

theorem byte_version : Wire.byte header.encode 0 = 0x45 := by
  simp [encode, Wire.byte]

theorem byte_typeOfService : Wire.byte header.encode 1 = header.typeOfService := by
  simp [encode, Wire.byte]

theorem number_fragment : Wire.number header.encode 6 2 = 0 := by
  have field := Wire.field_field header.encode 6 (by decide : 0 + 2 ≤ 6)
  rw [field_options] at field
  unfold Wire.number
  rw [← field]
  rfl

theorem byte_timeToLive : Wire.byte header.encode 8 = header.timeToLive := by
  have byte := Wire.byte_field header.encode 6 (by decide : 2 < 6)
  rw [field_options] at byte
  exact byte.symm

theorem byte_protocol : Wire.byte header.encode 9 = header.protocol.number := by
  have byte := Wire.byte_field header.encode 6 (by decide : 3 < 6)
  rw [field_options] at byte
  exact byte.symm

end Header4
namespace Header6

variable (header : Header6)

theorem heads_encode : Checksum.Heads .v6 header.encode :=
  header.length_encode

theorem assemble_eq {segment : Bytes} (room : header.protocol.checksumOffset + 2 ≤ segment.length)
    (fits : segment.length ≤ Checksum.maxChunk) :
    header.assemble segment
      = header.encode ++ Checksum.sealedSegment .v6 header.encode header.protocol segment :=
  Checksum.fillTransport_append header.heads_encode room fits

theorem encode_eq : header.encode
    = [0x60, 0, 0, 0] ++ (Wire.encode 2 header.payloadLength
      ++ ([header.protocol.number, header.hopLimit]
        ++ (header.source.octets ++ header.destination.octets))) := by
  simp [encode]

theorem field_version : Wire.field header.encode 0 4 = [0x60, 0, 0, 0] := by
  rw [encode_eq]
  exact Wire.field_prefix rfl

theorem field_payloadLength :
    Wire.field header.encode 4 2 = Wire.encode 2 header.payloadLength := by
  rw [encode_eq]
  exact Wire.field_between rfl (Wire.length_encode ..)

theorem field_options : Wire.field header.encode 6 2
    = [header.protocol.number, header.hopLimit] := by
  rw [encode_eq, ← List.append_assoc]
  exact Wire.field_between (by simp) rfl

theorem field_source : Wire.field header.encode 8 16 = header.source.octets := by
  unfold encode
  rw [Wire.field_append_left _ (by simp)]
  exact Wire.field_suffix (by simp) header.source.length_octets

theorem field_destination : Wire.field header.encode 24 16 = header.destination.octets :=
  Wire.field_suffix (by simp) header.destination.length_octets

theorem byte_version : Wire.byte header.encode 0 = 0x60 := by
  simp [encode, Wire.byte]

theorem byte_protocol : Wire.byte header.encode 6 = header.protocol.number := by
  have byte := Wire.byte_field header.encode 6 (by decide : 0 < 2)
  rw [field_options] at byte
  exact byte.symm

theorem byte_hopLimit : Wire.byte header.encode 7 = header.hopLimit := by
  have byte := Wire.byte_field header.encode 6 (by decide : 1 < 2)
  rw [field_options] at byte
  exact byte.symm

end Header6
end Nat64Gateway.Packet
