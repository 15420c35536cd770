import Nat64Gateway.Nat64.Translation

namespace Nat64Gateway.Nat64.ToV6

-- Only flows of the gateway's own ports have a node of the segment behind them.
def destinationFor (context : Context) (destination : Address.V4) (port? : Option UInt16) :
    Except Drop Address.V6 :=
  if context.isBroadcast destination then .ok .allNodes
  else
    match context.host with
    | none => .error .hostMissing
    | some host =>
      if destination ≠ host then .error .destinationNotHost
      else if port?.any fun port => !context.exempts port then .ok (context.nat64.image host)
      else
        match context.localV6 with
        | none => .error .localV6Missing
        | some node => .ok node

def isResponse (segment : Segment) : Bool :=
  segment.kind = .udp && segment.sourcePort? = some Dns64.port

def plan (context : Context) (packet : Packet.V4) (capacity : Nat) :
    Except Drop (Plan .v6) := do
  let (protocol, segment) ← convert .v4 packet.segment
  if capacity < 40 + segment.length then .error .v6ExceedsBuffer
  else
    let destination ←
      destinationFor context packet.destination packet.segment.destinationPort?
    .ok {
      protocol, segment, destination
      source := context.nat64.image packet.source
      message := if isResponse packet.segment then some .response else none
      hops := packet.timeToLive }

-- Bad checksums are reported and otherwise left to the receiver. `doing` opens the sentence.
def checksumWarnings (part : Log.Part) (doing : String) (packet : Packet.V4) : List Log.Line :=
  let complain := fun (valid : Bool) (field : String) =>
    if valid then []
    else [(⟨.warn, part,
      doing ++ " IPv4 packet with invalid " ++ field ++ " checksum: " ++ packet.text⟩ : Log.Line)]
  complain packet.headerValid "header" ++ complain packet.transportValid "transport"

def run (context : Context) (hook : Dns64.Hook) (nextId : UInt16) (packet : Packet.V4)
    (buffer : Bytes) : Outcome :=
  translate hook nextId (checksumWarnings .nat64 "Translating" packet) packet.text
    (plan context packet buffer.length) buffer

end ToV6

def toV6 (context : Context) (hook : Dns64.Hook) (nextId : UInt16) (data buffer : Bytes) :
    Outcome :=
  match Packet.V4.read data with
  | .error fault => .refuse buffer nextId (.unreadable fault)
  | .ok packet => ToV6.run context hook nextId packet buffer

end Nat64Gateway.Nat64
