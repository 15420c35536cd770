import Nat64Gateway.Nat64.Translation

namespace Nat64Gateway.Nat64.ToV4

-- Before the host has an address it may still call out to everyone.
def sourceFor (context : Context) (destination : Address.V4) : Except Drop Address.V4 :=
  match context.host with
  | some host => .ok host
  | none =>
    if destination = .limitedBroadcast then .ok .unspecified else .error .onlyBroadcast

def isQuery (segment : Segment) : Bool :=
  segment.kind = .udp && segment.destinationPort? = some Dns64.port

def plan (context : Context) (packet : Packet.V6) (capacity : Nat) :
    Except Drop (Plan .v4) := do
  let (protocol, segment) ← convert .v6 packet.segment
  let destination ←
    match context.nat64.embedded? packet.destination with
    | some destination => .ok destination
    | none => .error .destinationOutsidePrefix
  let source ← sourceFor context destination
  if capacity < 20 + segment.length then .error .v4ExceedsBuffer
  else .ok {
    protocol, segment, source, destination
    message := if isQuery packet.segment then some .query else none
    hops := packet.hopLimit }

def warnings (packet : Packet.V6) : List Log.Line :=
  if packet.transportValid then []
  else [⟨.warn, .nat64,
    "Translating IPv6 packet with invalid transport checksum: " ++ packet.text⟩]

def run (context : Context) (hook : Dns64.Hook) (nextId : UInt16) (packet : Packet.V6)
    (buffer : Bytes) : Outcome :=
  translate hook nextId (warnings packet) packet.text (plan context packet buffer.length) buffer

end ToV4

def toV4 (context : Context) (hook : Dns64.Hook) (nextId : UInt16) (data buffer : Bytes) :
    Outcome :=
  match Packet.V6.read data with
  | .error fault => .refuse buffer nextId (.unreadable fault)
  | .ok packet => ToV4.run context hook nextId packet buffer

end Nat64Gateway.Nat64
