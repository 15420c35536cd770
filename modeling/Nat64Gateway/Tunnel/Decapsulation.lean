import Nat64Gateway.Nat64.ToV6
import Nat64Gateway.Tunnel
import Nat64Gateway.Tunnel.Marker

namespace Nat64Gateway.Tunnel

def isFramed (context : Context) (segment : Segment) : Bool :=
  segment.destinationPort?.any fun port => !context.exempts port

-- Only the remote end may speak for the nodes behind it.
def checkPeer (context : Context) (packet : Packet.V4) : Except Drop Unit :=
  if packet.segment.kind ≠ .udp then .error .carrierNotUdp
  else if packet.source ≠ context.remote.address then .error .peerAddress
  else if packet.segment.sourcePort? ≠ some context.remote.port then .error .peerPort
  else .ok ()

def withPorts (block : Endpoint.Block) (segment : Bytes) : Bytes :=
  Wire.overwrite segment 0
    (Wire.encodeWord block.sourcePort ++ Wire.encodeWord block.destinationPort)

-- How long the restored segment is, before it is looked at.
def restoredLength (protocol : Protocol) (inner : Bytes) : Nat :=
  if protocol = .udp then 8 + inner.length else inner.length

-- The segment as it stands behind an IPv6 header, but for its checksum.
def restore (protocol : Protocol) (block : Endpoint.Block) (inner : Bytes) : Except Drop Bytes :=
  if protocol = .udp then
    .ok (withPorts block ([0, 0, 0, 0] ++ Wire.encode 2 (8 + inner.length) ++ [0, 0] ++ inner))
  else if protocol = .tcp then
    match Segment.readTcp inner with
    | .error fault => .error (.unreadable fault)
    | .ok _ => .ok (withPorts block inner)
  else
    match Icmp.Message.read .v4 inner with
    | .error fault => .error (.unreadable fault)
    | .ok message =>
      match message.kind.echo? with
      | none => .error .innerIcmpNotEcho
      | some echo => .ok (Wire.overwrite inner 0 [echo.type .v6])

structure Flow where
  protocol : Protocol
  block : Endpoint.Block
  segment : Bytes

def flowOf (context : Context) (packet : Packet.V4) (capacity : Nat) : Except Drop Flow := do
  let protocol ←
    match Marker.protocol? packet.dscp with
    | some protocol => .ok protocol
    | none => .error .markerUnknown
  let carried := packet.segment.bytes.drop 8
  let block ←
    match Endpoint.Block.read context.portOrder carried with
    | .ok block => .ok block
    | .error fault => .error (.unreadable fault)
  let inner := carried.drop Endpoint.Block.length
  if capacity < 40 + restoredLength protocol inner then .error .unframedExceedsBuffer
  else
    let segment ← restore protocol block inner
    .ok { protocol, block, segment }

def Flow.message (flow : Flow) : Option Dns64.Direction :=
  if flow.protocol = .udp ∧ flow.block.sourcePort = Dns64.port then some .response else none

def Flow.plan (flow : Flow) (hopLimit : UInt8) : Nat64.Plan .v6 where
  protocol := flow.protocol
  segment := flow.segment
  message := flow.message
  hops := hopLimit
  source := flow.block.source
  destination := flow.block.destination

def Flow.line (flow : Flow) (context : Context) : Log.Line :=
  ⟨.trace, .tunnel, "Decapsulated " ++ flow.protocol.text ++ " " ++ flow.block.text
    ++ " from tunnel " ++ context.remote.text⟩

def Flow.emit (flow : Flow) (tunnel : Tunnel) (hopLimit : UInt8) (buffer : Bytes) : Outcome :=
  ((flow.plan hopLimit).emit tunnel.hook tunnel.nextId buffer).announcedBy
    [flow.line tunnel.context]

def unframe (tunnel : Tunnel) (packet : Packet.V4) (buffer : Bytes) : Outcome :=
  match checkPeer tunnel.context packet with
  | .error cause => tunnel.refuse buffer cause
  | .ok () =>
    let outcome : Outcome :=
      match flowOf tunnel.context packet buffer.length with
      | .error cause => tunnel.refuse buffer cause
      | .ok flow => flow.emit tunnel packet.timeToLive buffer
    outcome.precededBy (Nat64.ToV6.checksumWarnings .tunnel "Decapsulating" packet)

def plainIn (tunnel : Tunnel) (packet : Packet.V4) (buffer : Bytes) : Outcome :=
  Nat64.ToV6.run tunnel.context tunnel.hook tunnel.nextId packet buffer

def decapsulate (tunnel : Tunnel) (data buffer : Bytes) : Outcome :=
  match Packet.V4.read data with
  | .error fault => tunnel.refuse buffer (.unreadable fault)
  | .ok packet =>
    if isFramed tunnel.context packet.segment then tunnel.unframe packet buffer
    else tunnel.plainIn packet buffer

end Nat64Gateway.Tunnel
