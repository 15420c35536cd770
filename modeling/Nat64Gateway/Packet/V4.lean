import Nat64Gateway.Address.Text
import Nat64Gateway.Checksum
import Nat64Gateway.Segment

namespace Nat64Gateway.Packet

structure V4 where
  bytes : Bytes
  segment : Segment
deriving DecidableEq, Repr

namespace V4

-- More fragments (bit 13) or a fragment offset (bits 0 to 12).
def isFragment (packet : Bytes) : Bool :=
  Wire.number packet 6 2 % 0x4000 ≠ 0

def headerFault? (data : Bytes) : Option Fault :=
  let headerLength := Checksum.headerLength4 data
  let totalLength := Wire.number data 2 2
  if data.length < 20 then some .v4HeaderShort
  else if (Wire.byte data 0).toNat / 16 ≠ 4 then some .v4Version
  else if headerLength < 20 then some .v4HeaderLengthShort
  else if data.length < headerLength then some .v4HeaderLengthOverflow
  else if data.length < totalLength then some .v4TotalLengthOverflow
  else if totalLength ≤ headerLength then some .v4PayloadMissing
  else if isFragment data then some .v4Fragment
  else none

def read (data : Bytes) : Except Fault V4 :=
  match headerFault? data with
  | some fault => .error fault
  | none =>
    let bytes := data.take (Wire.number data 2 2)
    (Segment.read ⟨Wire.byte data 9⟩ (bytes.drop (Checksum.headerLength4 data))).map
      fun segment => { bytes, segment }

def totalLength (packet : V4) : Nat :=
  packet.bytes.length

def identification (packet : V4) : UInt16 :=
  Wire.word packet.bytes 4

-- The upper six bits of the type of service.
def dscp (packet : V4) : UInt8 :=
  Wire.byte packet.bytes 1 >>> 2

def timeToLive (packet : V4) : UInt8 :=
  Wire.byte packet.bytes 8

def source (packet : V4) : Address.V4 :=
  .ofOctets (Wire.field packet.bytes 12 4)

def destination (packet : V4) : Address.V4 :=
  .ofOctets (Wire.field packet.bytes 16 4)

def headerValid (packet : V4) : Bool :=
  Checksum.headerValid (packet.bytes.take (Checksum.headerLength4 packet.bytes))

-- Judged over everything behind the header, also behind the end of a UDP segment.
def transportValid (packet : V4) : Bool :=
  Checksum.transportValid .v4 packet.bytes packet.segment.protocol

def text (packet : V4) : String :=
  let port := fun (number? : Option UInt16) => (number?.map Address.portText).getD ""
  "IPv4 " ++ packet.segment.protocol.text
    ++ " " ++ packet.source.text ++ port packet.segment.sourcePort?
    ++ " -> " ++ packet.destination.text ++ port packet.segment.destinationPort?
    ++ " ID=" ++ Hex.word packet.identification.toNat
    ++ " L=" ++ toString packet.totalLength ++ " TTL=" ++ toString packet.timeToLive.toNat

end V4
end Nat64Gateway.Packet
