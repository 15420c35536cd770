import Nat64Gateway.Relay

namespace Nat64Gateway.Relay

inductive End where
  | left
  | right
deriving DecidableEq, Repr

def End.other : End → End
  | .left => .right
  | .right => .left

@[simp] theorem End.other_other (place : End) : place.other.other = place := by
  cases place <;> rfl

-- A datagram on the uplink. Nobody there knows the segment datagram that it was made from.
structure Flight where
  origin : End
  source : Bytes
  data : Bytes
deriving DecidableEq, Repr

inductive Entry (Peer : Type) where
  | heard (place : End) (sender : Peer) (data : Bytes)
  | told (place : End) (recipient : Peer) (data : Bytes)
deriving DecidableEq, Repr

-- Nothing is ever taken out of `inFlight`, and only what a relay sent is put in.
structure Network (Peer : Type) where
  relay : End → Relay Peer
  inFlight : List Flight
  log : List (Entry Peer)

namespace Network

section Sent

variable {Peer : Type}

def launched (place : End) (source : Bytes) (sent : List (Sent Peer)) : List Flight :=
  (sent.filter (·.side = .uplink)).map fun datagram => ⟨place, source, datagram.data⟩

def told (place : End) (sent : List (Sent Peer)) : List (Entry Peer) :=
  (sent.filter (·.side = .segment)).map fun datagram =>
    .told place datagram.recipient datagram.data

def lastHeard (place : End) : List (Entry Peer) → Option Peer
  | [] => none
  | .heard other sender _ :: earlier =>
    if other = place then some sender else lastHeard place earlier
  | .told .. :: earlier => lastHeard place earlier

def start (tunnel : End → Tunnel) (address : End → Peer) : Network Peer where
  relay place := { tunnel := tunnel place, uplinkPeer := address place.other }
  inFlight := []
  log := []

def note (network : Network Peer) (entry : Entry Peer) : Network Peer :=
  { network with log := entry :: network.log }

end Sent

variable {Peer : Type} [DecidableEq Peer]

def receive (network : Network Peer) (place : End) (received : Received Peer) : Network Peer :=
  let (next, sent) := (network.relay place).step received
  { relay := fun other => if other = place then next else network.relay other
    inFlight := launched place received.data sent ++ network.inFlight
    log := told place sent ++ network.log }

def hear (network : Network Peer) (place : End) (sender : Peer) (data : Bytes) : Network Peer :=
  (network.note (.heard place sender data)).receive place ⟨.segment, sender, data⟩

-- The far end takes the datagram for one of its uplink peer's.
def deliver (network : Network Peer) (address : End → Peer) (flight : Flight) : Network Peer :=
  network.receive flight.origin.other ⟨.uplink, address flight.origin, flight.data⟩

-- What senders on the segments do not do is left to `allowed`. A datagram that was delivered may be
-- delivered again, and in any order.
inductive Step (address : End → Peer) (allowed : End → Bytes → Prop) (network : Network Peer) :
    Network Peer → Prop where
  | hear (place : End) (sender : Peer) (data : Bytes) (permitted : allowed place data) :
      Step address allowed network (network.hear place sender data)
  | deliver (flight : Flight) (present : flight ∈ network.inFlight) :
      Step address allowed network (network.deliver address flight)
  | lose (kept : List Flight) (present : ∀ flight ∈ kept, flight ∈ network.inFlight) :
      Step address allowed network { network with inFlight := kept }

inductive Reached (tunnel : End → Tunnel) (address : End → Peer) (allowed : End → Bytes → Prop) :
    Network Peer → Prop where
  | start : Reached tunnel address allowed (start tunnel address)
  | step {network next : Network Peer} (prior : Reached tunnel address allowed network)
      (step : Step address allowed network next) : Reached tunnel address allowed next

end Network
end Nat64Gateway.Relay
