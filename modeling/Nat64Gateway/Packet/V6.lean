import Nat64Gateway.Address.Text
import Nat64Gateway.Checksum
import Nat64Gateway.Segment

namespace Nat64Gateway.Packet

structure V6 where
  bytes : Bytes
  segment : Segment
deriving DecidableEq, Repr

namespace V6

def headerFault? (data : Bytes) : Option Fault :=
  if data.length < 40 then some .v6HeaderShort
  else if (Wire.byte data 0).toNat / 16 ≠ 6 then some .v6Version
  else if data.length < 40 + Wire.number data 4 2 then some .v6PayloadLengthOverflow
  else none

def read (data : Bytes) : Except Fault V6 :=
  match headerFault? data with
  | some fault => .error fault
  | none =>
    let bytes := data.take (40 + Wire.number data 4 2)
    (Segment.read ⟨Wire.byte data 6⟩ (bytes.drop 40)).map fun segment => { bytes, segment }

def payloadLength (packet : V6) : Nat :=
  packet.bytes.length - 40

def hopLimit (packet : V6) : UInt8 :=
  Wire.byte packet.bytes 7

def source (packet : V6) : Address.V6 :=
  .ofOctets (Wire.field packet.bytes 8 16)

def destination (packet : V6) : Address.V6 :=
  .ofOctets (Wire.field packet.bytes 24 16)

-- Judged over everything behind the header, also behind the end of a UDP segment.
def transportValid (packet : V6) : Bool :=
  Checksum.transportValid .v6 packet.bytes packet.segment.protocol

def text (packet : V6) : String :=
  let port := fun (number? : Option UInt16) => (number?.map Address.portText).getD ""
  "IPv6 " ++ packet.segment.protocol.text
    ++ " [" ++ packet.source.text ++ "]" ++ port packet.segment.sourcePort?
    ++ " -> [" ++ packet.destination.text ++ "]" ++ port packet.segment.destinationPort?
    ++ " L=" ++ toString packet.payloadLength ++ " H=" ++ toString packet.hopLimit.toNat

end V6
end Nat64Gateway.Packet
