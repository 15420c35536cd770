import Nat64Gateway.Relay

namespace Nat64Gateway.Relay

def line (level : Log.Level) (message : String) : Log.Line :=
  ⟨level, .relay, message⟩

-- The three texts are the sockets that it listens on and the peer that it serves.
def opening (context : Context) (segment uplink peer : String) : List Log.Line := [
  line .info ("Relaying segment " ++ segment ++ " to uplink " ++ peer ++ " via " ++ uplink),
  line .info (match context.host with
    | some host => "Host address " ++ host.text ++ " netmask " ++ context.netmask.text
        ++ " default router " ++ context.router.text
    | none => "Host address is not configured"),
  line .info ("Ports below " ++ toString context.threshold.toNat ++ " bypass the tunnel to "
    ++ context.remote.text)]

variable {Peer : Type} [DecidableEq Peer]

def remarks (name : Peer → String) (relay : Relay Peer) (received : Received Peer) :
    List Log.Line :=
  match received.side with
  | .segment =>
    if relay.segmentPeer = some received.sender then []
    else [line .info ("Segment peer is now " ++ name received.sender)]
  | .uplink =>
    if received.sender ≠ relay.uplinkPeer then
      [line .debug ("Ignoring datagram from unknown uplink peer " ++ name received.sender)]
    else if relay.segmentPeer = none then
      [line .trace "No segment peer yet, dropping uplink packet"]
    else []

end Nat64Gateway.Relay
