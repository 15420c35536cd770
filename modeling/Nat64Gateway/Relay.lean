import Nat64Gateway.Tunnel.Decapsulation
import Nat64Gateway.Tunnel.Encapsulation

namespace Nat64Gateway

inductive Relay.Side where
  | segment
  | uplink
deriving DecidableEq, Repr

structure Relay.Received (Peer : Type) where
  side : Relay.Side
  sender : Peer
  data : Bytes
deriving DecidableEq, Repr

structure Relay.Sent (Peer : Type) where
  side : Relay.Side
  recipient : Peer
  data : Bytes
deriving DecidableEq, Repr

-- Nothing longer fits into the tunnel.
def Relay.maxPacket : Nat := 1500

-- The scratch buffer is used again and again and keeps what it held.
structure Relay (Peer : Type) where
  tunnel : Tunnel
  uplinkPeer : Peer
  segmentPeer : Option Peer := none
  scratch : Bytes := List.replicate Relay.maxPacket 0

namespace Relay

variable {Peer : Type} [DecidableEq Peer]

structure Reply (Peer : Type) where
  side : Side
  recipient : Peer
  outcome : Outcome

-- A dropped packet is answered with nothing.
def Reply.sent (reply : Reply Peer) : List (Sent Peer) :=
  if reply.outcome.length = 0 then []
  else [⟨reply.side, reply.recipient, reply.outcome.packet⟩]

def after (relay : Relay Peer) (outcome : Outcome) : Relay Peer :=
  { relay with tunnel := relay.tunnel.after outcome, scratch := outcome.buffer }

-- The sender counts as the segment's peer whatever it sent.
def fromSegment (relay : Relay Peer) (sender : Peer) (data : Bytes) :
    Relay Peer × Option (Reply Peer) :=
  let outcome := Tunnel.withNotice .v6 (relay.tunnel.encapsulate data relay.scratch)
  ({ relay.after outcome with segmentPeer := some sender },
    some ⟨.uplink, relay.uplinkPeer, outcome⟩)

-- Strangers are ignored, and so is everyone while the segment has not been heard from.
def fromUplink (relay : Relay Peer) (sender : Peer) (data : Bytes) :
    Relay Peer × Option (Reply Peer) :=
  if sender ≠ relay.uplinkPeer then (relay, none)
  else
    match relay.segmentPeer with
    | none => (relay, none)
    | some recipient =>
      let outcome := Tunnel.withNotice .v4 (relay.tunnel.decapsulate data relay.scratch)
      (relay.after outcome, some ⟨.segment, recipient, outcome⟩)

-- Datagrams are cut to the size of a packet when they are received.
def handle (relay : Relay Peer) (received : Received Peer) : Relay Peer × Option (Reply Peer) :=
  let data := received.data.take maxPacket
  match received.side with
  | .segment => relay.fromSegment received.sender data
  | .uplink => relay.fromUplink received.sender data

def step (relay : Relay Peer) (received : Received Peer) : Relay Peer × List (Sent Peer) :=
  let (next, reply?) := relay.handle received
  (next, reply?.toList.flatMap Reply.sent)

def run (relay : Relay Peer) : List (Received Peer) → Relay Peer × List (List (Sent Peer))
  | [] => (relay, [])
  | received :: later =>
    let (next, sent) := relay.step received
    let (final, reactions) := next.run later
    (final, sent :: reactions)

-- What a capture of the relay records: every packet that was sent, on either side.
def emitted (reactions : List (List (Sent Peer))) : List Bytes :=
  reactions.flatten.map Sent.data

end Relay
end Nat64Gateway
