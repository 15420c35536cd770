import Nat64Gateway.Address
import Nat64Gateway.Checksum

namespace Nat64Gateway.Packet

structure Header4 where
  typeOfService : UInt8 := 0
  totalLength : Nat
  identification : UInt16
  timeToLive : UInt8
  protocol : Protocol
  source : Address.V4
  destination : Address.V4
deriving DecidableEq, Repr

namespace Header4

-- Version 4 and five words of header; no fragment; the checksum is still open.
def encode (header : Header4) : Bytes :=
  [0x45, header.typeOfService] ++ Wire.encode 2 header.totalLength
    ++ Wire.encodeWord header.identification
    ++ [0, 0, header.timeToLive, header.protocol.number, 0, 0]
    ++ header.source.octets ++ header.destination.octets

def assemble (header : Header4) (segment : Bytes) : Bytes :=
  Checksum.fillTransport .v4 (Checksum.fillHeader (header.encode ++ segment)) header.protocol

@[simp] theorem length_encode (header : Header4) : header.encode.length = 20 := by
  simp [encode, Wire.encodeWord]

end Header4

structure Header6 where
  payloadLength : Nat
  protocol : Protocol
  hopLimit : UInt8
  source : Address.V6
  destination : Address.V6
deriving DecidableEq, Repr

namespace Header6

def encode (header : Header6) : Bytes :=
  [0x60, 0, 0, 0] ++ Wire.encode 2 header.payloadLength
    ++ [header.protocol.number, header.hopLimit]
    ++ header.source.octets ++ header.destination.octets

def assemble (header : Header6) (segment : Bytes) : Bytes :=
  Checksum.fillTransport .v6 (header.encode ++ segment) header.protocol

@[simp] theorem length_encode (header : Header6) : header.encode.length = 40 := by
  simp [encode]

end Header6

@[reducible] def Header : Family → Type
  | .v4 => Header4
  | .v6 => Header6

def Header.assemble : {family : Family} → Header family → Bytes → Bytes
  | .v4, header => Header4.assemble header
  | .v6, header => Header6.assemble header

end Nat64Gateway.Packet
