import Nat64Gateway.Icmp

namespace Nat64Gateway

inductive Segment.Kind where
  | udp
  | tcp
  | icmp (family : Family)
deriving DecidableEq, Repr

structure Segment where
  kind : Segment.Kind
  bytes : Bytes
deriving DecidableEq, Repr

namespace Segment

def Kind.protocol : Kind → Protocol
  | .udp => .udp
  | .tcp => .tcp
  | .icmp .v4 => .icmp4
  | .icmp .v6 => .icmp6

def Kind.ofProtocol? (protocol : Protocol) : Option Kind :=
  if protocol = .udp then some .udp
  else if protocol = .tcp then some .tcp
  else if protocol = .icmp4 then some (.icmp .v4)
  else if protocol = .icmp6 then some (.icmp .v6)
  else none

def protocol (segment : Segment) : Protocol :=
  segment.kind.protocol

-- The header's length in bytes, as the upper half of byte 12 counts it in words.
def tcpHeaderLength (bytes : Bytes) : Nat :=
  (Wire.byte bytes 12).toNat / 16 * 4

def readUdp (bytes : Bytes) : Except Fault Segment :=
  if bytes.length < 8 then .error .udpHeaderShort
  else if Wire.number bytes 4 2 < 8 then .error .udpLengthShort
  else if bytes.length < Wire.number bytes 4 2 then .error .udpLengthOverflow
  else .ok ⟨.udp, bytes.take (Wire.number bytes 4 2)⟩

def readTcp (bytes : Bytes) : Except Fault Segment :=
  if bytes.length < 20 then .error .tcpHeaderShort
  else if bytes.length < tcpHeaderLength bytes then .error .tcpOffsetOverflow
  else if tcpHeaderLength bytes < 20 then .error .tcpOffsetShort
  else .ok ⟨.tcp, bytes⟩

def readIcmp (family : Family) (bytes : Bytes) : Except Fault Segment :=
  if bytes.length < 4 then .error (.icmpHeaderShort family) else .ok ⟨.icmp family, bytes⟩

def read (protocol : Protocol) (bytes : Bytes) : Except Fault Segment :=
  match Kind.ofProtocol? protocol with
  | some .udp => readUdp bytes
  | some .tcp => readTcp bytes
  | some (.icmp family) => readIcmp family bytes
  | none => .error .protocolUnsupported

def sourcePort? (segment : Segment) : Option UInt16 :=
  match segment.kind with
  | .udp | .tcp => some (Wire.word segment.bytes 0)
  | .icmp _ => none

def destinationPort? (segment : Segment) : Option UInt16 :=
  match segment.kind with
  | .udp | .tcp => some (Wire.word segment.bytes 2)
  | .icmp _ => none

def icmpType? (segment : Segment) : Option UInt8 :=
  match segment.kind with
  | .udp | .tcp => none
  | .icmp _ => some (Wire.byte segment.bytes 0)

def text (segment : Segment) : String :=
  match segment.kind with
  | .icmp family =>
    match Icmp.Message.read family segment.bytes with
    | .ok message => message.text
    | .error fault => "ICMPv" ++ family.digit ++ " error: " ++ fault.message
  | _ => segment.protocol.text ++ " " ++ Hex.spaced segment.bytes

end Segment
end Nat64Gateway
