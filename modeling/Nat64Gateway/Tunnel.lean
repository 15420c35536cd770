import Nat64Gateway.Context
import Nat64Gateway.Dns64
import Nat64Gateway.Outcome

namespace Nat64Gateway

structure Tunnel where
  context : Context
  nextId : UInt16 := 0
  hook : Dns64.Hook := Dns64.passthrough

namespace Tunnel

-- UDP keeps its own header as the outer one; other segments get a new header in front.
def framing (protocol : Protocol) : Nat :=
  if protocol = .udp then Endpoint.Block.length else 8 + Endpoint.Block.length

-- Handling a packet changes nothing of the tunnel but the identification.
def after (tunnel : Tunnel) (outcome : Outcome) : Tunnel :=
  { tunnel with nextId := outcome.nextId }

def takeId (tunnel : Tunnel) : UInt16 × Tunnel :=
  let (identification, nextId) := Identification.take tunnel.nextId
  (identification, { tunnel with nextId })

def refuse (tunnel : Tunnel) (buffer : Bytes) (cause : Drop) : Outcome :=
  .refuse buffer tunnel.nextId cause

def withNotice (family : Family) (outcome : Outcome) : Outcome :=
  match outcome.verdict with
  | .emitted _ => outcome
  | .dropped cause => outcome.followedBy
      [⟨.debug, .tunnel, "Dropping IPv" ++ family.digit ++ " packet: " ++ cause.message⟩]

end Tunnel
end Nat64Gateway
