import Nat64Gateway.Nat64.ToV4
import Nat64Gateway.Tunnel
import Nat64Gateway.Tunnel.Marker

namespace Nat64Gateway.Tunnel

def bypasses (context : Context) (segment : Segment) : Bool :=
  segment.sourcePort?.any context.exempts

-- ICMP has no ports; both stand as zero.
def blockOf (packet : Packet.V6) : Endpoint.Block where
  source := packet.source
  sourcePort := packet.segment.sourcePort?.getD 0
  destination := packet.destination
  destinationPort := packet.segment.destinationPort?.getD 0

def outerUdpHeader (context : Context) (length : Nat) : Bytes :=
  Wire.encodeWord context.localPort ++ Wire.encodeWord context.remote.port
    ++ Wire.encode 2 length ++ [0, 0]

-- `inner` is the segment of the plain IPv4 packet, for UDP without its header.
def framed (tunnel : Tunnel) (host : Address.V4) (packet : Packet.V6) (inner : Bytes) : Bytes :=
  let context := tunnel.context
  let udpLength := 8 + Endpoint.Block.length + inner.length
  let header : Packet.Header4 := {
    typeOfService := Marker.typeOfService packet.segment.protocol
    totalLength := 20 + udpLength
    identification := tunnel.takeId.1
    timeToLive := packet.hopLimit
    protocol := .udp
    source := host
    destination := context.remote.address }
  header.assemble
    (outerUdpHeader context udpLength ++ (blockOf packet).encode context.portOrder ++ inner)

-- Where the bytes start that travel behind the endpoint block.
def innerStart (protocol : Protocol) : Nat :=
  if protocol = .udp then 28 else 20

-- The room was checked for the packet as it came in; the DNS64 hook may since have made it longer.
def frame (tunnel : Tunnel) (host : Address.V4) (packet : Packet.V6) (plain : Outcome) :
    Outcome :=
  match plain.verdict with
  | .dropped _ => plain
  | .emitted length =>
    let protocol := packet.segment.protocol
    let total := length + framing protocol
    if plain.buffer.length < total ∨ Datagram.maxLength < total then
      { plain with verdict := .dropped .framedExceedsBuffer }
    else
      let outer := framed tunnel host packet (plain.packet.drop (innerStart protocol))
      { plain with verdict := .emitted total, buffer := outer ++ plain.buffer.drop total }
      |>.followedBy [⟨.trace, .tunnel, "Encapsulated " ++ (blockOf packet).text ++ " to tunnel "
        ++ tunnel.context.remote.text⟩]

def plainOut (tunnel : Tunnel) (packet : Packet.V6) (buffer : Bytes) : Outcome :=
  Nat64.ToV4.run tunnel.context tunnel.hook tunnel.nextId packet buffer

def encapsulate (tunnel : Tunnel) (data buffer : Bytes) : Outcome :=
  match Packet.V6.read data with
  | .error fault => tunnel.refuse buffer (.unreadable fault)
  | .ok packet =>
    if bypasses tunnel.context packet.segment then tunnel.plainOut packet buffer
    else
      match tunnel.context.host with
      | none => tunnel.refuse buffer .flowNeedsHost
      | some host =>
        if buffer.length < 20 + packet.segment.bytes.length + framing packet.segment.protocol then
          tunnel.refuse buffer .framedExceedsBuffer
        else tunnel.frame host packet (tunnel.plainOut packet buffer)

end Nat64Gateway.Tunnel
