import Nat64Gateway.Proofs.Guarded.Checksum
import Nat64Gateway.Proofs.Packet.Reading

namespace Nat64Gateway.Guarded

def writeV4 (header : Packet.Header4) (bytes : Bytes) : Checked Bytes := do
  let bytes ← put bytes 0 0x45
  let bytes ← put bytes 1 header.typeOfService
  let total ← narrow header.totalLength
  let bytes ← copy bytes 2 4 (Wire.encodeWord total)
  let bytes ← copy bytes 4 6 (Wire.encodeWord header.identification)
  let bytes ← fill bytes 6 8 0
  let bytes ← put bytes 8 header.timeToLive
  let bytes ← put bytes 9 header.protocol.number
  let bytes ← fill bytes 10 12 0
  let bytes ← copy bytes 12 16 header.source.octets
  copy bytes 16 20 header.destination.octets

-- A payload that the length field cannot say is an accident here: it has to be found out before.
def writeV6 (header : Packet.Header6) (bytes : Bytes) : Checked Bytes := do
  let payload ← narrow header.payloadLength
  let bytes ← put bytes 0 0x60
  let bytes ← fill bytes 1 4 0
  let bytes ← copy bytes 4 6 (Wire.encodeWord payload)
  let bytes ← put bytes 6 header.protocol.number
  let bytes ← put bytes 7 header.hopLimit
  let bytes ← copy bytes 8 24 header.source.octets
  copy bytes 24 40 header.destination.octets

def checksumsV4 (protocol : Protocol) (packet : Bytes) : Checked Bytes := do
  let packet ← fillHeader packet
  fillTransport .v4 packet protocol

def write : {family : Family} → Packet.Header family → Bytes → Checked Bytes
  | .v4, header, bytes => writeV4 header bytes
  | .v6, header, bytes => writeV6 header bytes

def checksums : Family → Protocol → Bytes → Checked Bytes
  | .v4, protocol, packet => checksumsV4 protocol packet
  | .v6, protocol, packet => fillTransport .v6 packet protocol

def closed {family : Family} (header : Packet.Header family) (length : Nat) (buffer : Bytes) :
    Checked Bytes := do
  let buffer ← within buffer 0 family.headerLength (write header)
  within buffer 0 (family.headerLength + length) (checksums family header.protocol)

-- The old bytes are all written over, whatever they were.
theorem writeV4_eq {header : Packet.Header4} {bytes : Bytes} (width : bytes.length = 20)
    (fits : header.totalLength < 65536) : writeV4 header bytes = .ok header.encode := by
  have first : put bytes 0 0x45 = .ok (Wire.overwrite bytes 0 [0x45]) := put_eq (by omega)
  have parts : [0x45] ++ [header.typeOfService] ++ Wire.encode 2 header.totalLength
      ++ Wire.encodeWord header.identification ++ List.replicate (8 - 6) 0 ++ [header.timeToLive]
      ++ [header.protocol.number] ++ List.replicate (12 - 10) 0 ++ header.source.octets
      ++ header.destination.octets = header.encode := by
    simp [Packet.Header4.encode, List.replicate]
  unfold writeV4
  rw [first, ok_bind, put_next (by simp) (by omega), ok_bind, narrow_eq fits, ok_bind,
    encodeWord_narrowed fits, copy_next (by simp) (by simp) (by omega), ok_bind,
    copy_next (by simp) (by simp) (by omega), ok_bind,
    fill_next (by simp) (by decide) (by omega), ok_bind, put_next (by simp) (by omega), ok_bind,
    put_next (by simp) (by omega), ok_bind, fill_next (by simp) (by decide) (by omega), ok_bind,
    copy_next (by simp) (by simp) (by omega), ok_bind,
    copy_next (by simp) (by simp) (by omega), parts, Wire.overwrite_whole (by simp [width])]

theorem writeV6_eq {header : Packet.Header6} {bytes : Bytes} (width : bytes.length = 40)
    (fits : header.payloadLength < 65536) : writeV6 header bytes = .ok header.encode := by
  have first : put bytes 0 0x60 = .ok (Wire.overwrite bytes 0 [0x60]) := put_eq (by omega)
  have parts : [0x60] ++ List.replicate (4 - 1) 0 ++ Wire.encode 2 header.payloadLength
      ++ [header.protocol.number] ++ [header.hopLimit] ++ header.source.octets
      ++ header.destination.octets = header.encode := by
    simp [Packet.Header6.encode, List.replicate]
  unfold writeV6
  rw [narrow_eq fits, ok_bind, first, ok_bind, fill_next (by simp) (by decide) (by omega), ok_bind,
    encodeWord_narrowed fits, copy_next (by simp) (by simp) (by omega), ok_bind,
    put_next (by simp) (by omega), ok_bind, put_next (by simp) (by omega), ok_bind,
    copy_next (by simp) (by simp) (by omega), ok_bind,
    copy_next (by simp) (by simp) (by omega), parts, Wire.overwrite_whole (by simp [width])]

theorem Fits.of_heads {family : Family} {header segment : Bytes} {protocol : Protocol}
    (heads : Checksum.Heads family header) (room : protocol.checksumOffset + 2 ≤ segment.length)
    (short : segment.length ≤ 65535) : Fits family (header ++ segment) protocol := by
  have long := heads.length_ge
  have stated : Checksum.headerLength family (header ++ segment) = header.length :=
    heads.headerLength_append
  refine ⟨by omega, ?_, by rw [List.length_append]; omega⟩
  rw [heads.transportField_append, List.length_append]
  omega

theorem checksumsV4_eq {header segment : Bytes} {protocol : Protocol}
    (heads : Checksum.Heads .v4 header) (room : protocol.checksumOffset + 2 ≤ segment.length)
    (short : segment.length ≤ 65535) :
    checksumsV4 protocol (header ++ segment)
      = .ok (Checksum.fillTransport .v4 (Checksum.fillHeader (header ++ segment)) protocol) := by
  have long := heads.length_ge
  have stated : Checksum.headerLength4 (header ++ segment) = header.length :=
    heads.headerLength_append
  have filled : Checksum.fillHeader (header ++ segment)
      = Checksum.sealedHeader header ++ segment := Checksum.fillHeader_append heads
  have fits := Fits.of_heads heads.sealedHeader room short
  unfold checksumsV4
  rw [fillHeader_eq (by rw [List.length_append]; omega)
    (by rw [stated, List.length_append]; omega), ok_bind, filled, fits.fillTransport_eq]

-- A header that was written in front, and the bytes that it is the header of.
theorem within_packet {buffer header packet : Bytes} {width length : Nat}
    {edit : Bytes → Checked Bytes} (size : header.length = width)
    (inside : width + length ≤ buffer.length)
    (edited : edit (header ++ (buffer.drop width).take length) = .ok packet)
    (same : packet.length = width + length) :
    within (Wire.overwrite buffer 0 header) 0 (width + length) edit
      = .ok (packet ++ buffer.drop (width + length)) := by
  have room : 0 + header.length ≤ buffer.length := by omega
  have kept := Wire.length_overwrite room
  have split : Wire.overwrite buffer 0 header = header ++ buffer.drop width := by
    simp [Wire.overwrite, size]
  have front : Wire.field (Wire.overwrite buffer 0 header) 0 (width + length)
      = header ++ (buffer.drop width).take length := by
    rw [split, Wire.field, List.drop_zero, ← size, List.take_length_add_append]
  rw [within_front front (by omega) edited same, Wire.drop_overwrite_of_ge (by omega) room]

section Closed

variable {family : Family} {header : Packet.Header family} {kind : Segment.Kind}
  {buffer segment : Bytes} {length : Nat}

theorem write_eq {bytes : Bytes} (width : bytes.length = family.headerLength)
    (carries : header.Carries kind segment) : write header bytes = .ok header.encode := by
  cases family with
  | v4 => exact writeV4_eq width (Nat.lt_succ_of_le carries.fits)
  | v6 => exact writeV6_eq width (Nat.lt_succ_of_le carries.fits)

theorem checksums_eq (carries : header.Carries kind segment) :
    checksums family header.protocol (header.encode ++ segment) = .ok (header.assemble segment) := by
  cases family with
  | v4 =>
    have behind := Packet.Header4.Carries.behind carries
    exact checksumsV4_eq (Packet.Header4.heads_encode header) behind.room behind.short
  | v6 =>
    have behind := Packet.Header6.Carries.behind carries
    exact (Fits.of_heads behind.heads behind.room behind.short).fillTransport_eq

theorem closed_eq (inside : family.headerLength + length ≤ buffer.length)
    (carries : header.Carries kind ((buffer.drop family.headerLength).take length)) :
    closed header length buffer
      = .ok (header.assemble ((buffer.drop family.headerLength).take length)
        ++ buffer.drop (family.headerLength + length)) := by
  have carried : ((buffer.drop family.headerLength).take length).length = length := by
    rw [List.length_take, List.length_drop]
    omega
  have written : write header (Wire.field buffer 0 (family.headerLength - 0)) = .ok header.encode :=
    write_eq (Wire.length_field (by omega)) carries
  have assembled := carries.length_written
  rw [← carries.assemble_eq, carried] at assembled
  unfold closed
  rw [within_eq (Nat.zero_le _) (by omega) written header.length_encode, ok_bind,
    within_packet header.length_encode inside (checksums_eq carries) assembled]

end Closed
end Nat64Gateway.Guarded
