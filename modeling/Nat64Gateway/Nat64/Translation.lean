import Nat64Gateway.Context
import Nat64Gateway.Datagram
import Nat64Gateway.Packet.Header
import Nat64Gateway.Packet.V4
import Nat64Gateway.Packet.V6

namespace Nat64Gateway.Nat64

variable {target : Family}

-- Outside of the tunnel, IPv4 may ask but not answer.
def carried? : Family → Icmp.Kind → Option Icmp.Kind
  | .v4, kind => kind.request?
  | .v6, kind => kind.echo?

def notCarried : Family → Drop
  | .v4 => .icmp4NotRequest
  | .v6 => .icmp6NotEcho

def misplaced : Family → Drop
  | .v4 => .icmp6OverV4
  | .v6 => .icmp4OverV6

-- The segment as it stands behind a header of the other family, but for its checksum.
def convert (source : Family) (segment : Segment) : Except Drop (Protocol × Bytes) :=
  match segment.kind with
  | .udp => .ok (.udp, segment.bytes)
  | .tcp => .ok (.tcp, segment.bytes)
  | .icmp family =>
    if family ≠ source then .error (misplaced source)
    else
      match Icmp.Message.read source segment.bytes with
      | .error fault => .error (.unreadable fault)
      | .ok message =>
        match carried? source message.kind with
        | none => .error (notCarried source)
        | some kind =>
          .ok ((Segment.Kind.icmp source.other).protocol,
            Wire.overwrite segment.bytes 0 [kind.type source.other])

-- What is decided about a packet before a byte of it is written.
structure Plan (target : Family) where
  protocol : Protocol
  segment : Bytes
  message : Option Dns64.Direction
  hops : UInt8
  source : Address.Of target
  destination : Address.Of target

def Plan.header : {target : Family} → Plan target → UInt16 → Nat → Packet.Header target
  | .v4, plan, identification, length => {
      totalLength := 20 + length
      identification
      timeToLive := plan.hops
      protocol := plan.protocol
      source := plan.source
      destination := plan.destination : Packet.Header4 }
  | .v6, plan, _, length => {
      payloadLength := length
      protocol := plan.protocol
      hopLimit := plan.hops
      source := plan.source
      destination := plan.destination : Packet.Header6 }

def Plan.place (plan : Plan target) (hook : Dns64.Hook) (buffer : Bytes) : Datagram.Placement :=
  Datagram.place hook plan.message buffer target.headerLength plan.segment

-- Only IPv4 packets use an identification up.
def identify : Family → UInt16 → UInt16 × UInt16
  | .v4, nextId => Identification.take nextId
  | .v6, nextId => (nextId, nextId)

def exceedsLength : Family → Drop
  | .v4 => .v4ExceedsLength
  | .v6 => .v6ExceedsLength

-- A header in front of what was placed, unless no length field can say how much that is.
def finish (header : UInt16 → Nat → Packet.Header target) (nextId : UInt16)
    (placed : Datagram.Placement) : Outcome :=
  let drop := fun cause =>
    { Outcome.refuse placed.buffer nextId cause with calls := placed.calls }
  match placed.length with
  | .error cause => drop cause
  | .ok length =>
    if Datagram.maxLength < target.counted + length then drop (exceedsLength target)
    else
      let (identification, later) := identify target nextId
      let packet := (header identification length).assemble
        ((placed.buffer.drop target.headerLength).take length)
      { verdict := .emitted (target.headerLength + length)
        buffer := packet ++ placed.buffer.drop (target.headerLength + length)
        nextId := later
        calls := placed.calls }

def Plan.emit (plan : Plan target) (hook : Dns64.Hook) (nextId : UInt16) (buffer : Bytes) :
    Outcome :=
  finish plan.header nextId (plan.place hook buffer)

def describe : Family → Bytes → Except Fault String
  | .v4, data => (Packet.V4.read data).map Packet.V4.text
  | .v6, data => (Packet.V6.read data).map Packet.V6.text

def report (target : Family) (text : String) (outcome : Outcome) : List Log.Line :=
  match outcome.verdict, describe target outcome.packet with
  | .emitted _, .ok result => [⟨.trace, .nat64, "Translated " ++ text ++ " to " ++ result⟩]
  | _, _ => []

def translate (hook : Dns64.Hook) (nextId : UInt16) (warnings : List Log.Line) (text : String)
    (planned : Except Drop (Plan target)) (buffer : Bytes) : Outcome :=
  let outcome : Outcome :=
    match planned with
    | .error cause => .refuse buffer nextId cause
    | .ok plan => plan.emit hook nextId buffer
  (outcome.followedBy (report target text outcome)).precededBy warnings

end Nat64Gateway.Nat64
