import Nat64Gateway.Dns64
import Nat64Gateway.Drop
import Nat64Gateway.Log

namespace Nat64Gateway

-- The identification of an IPv4 packet, and the one that is next.
def Identification.take (nextId : UInt16) : UInt16 × UInt16 :=
  (nextId, nextId + 1)

inductive Verdict where
  | emitted (length : Nat)
  | dropped (cause : Drop)
deriving DecidableEq, Repr

-- A drop has a buffer as well: what was written before the packet was given up is still there.
structure Outcome where
  verdict : Verdict
  buffer : Bytes
  nextId : UInt16
  calls : List Dns64.Call := []
  log : List Log.Line := []
deriving DecidableEq, Repr

namespace Outcome

def length (outcome : Outcome) : Nat :=
  match outcome.verdict with
  | .emitted length => length
  | .dropped _ => 0

def packet (outcome : Outcome) : Bytes :=
  outcome.buffer.take outcome.length

-- Nothing was written and nothing was used up.
def refuse (buffer : Bytes) (nextId : UInt16) (cause : Drop) : Outcome :=
  { verdict := .dropped cause, buffer, nextId }

def precededBy (lines : List Log.Line) (outcome : Outcome) : Outcome :=
  { outcome with log := lines ++ outcome.log }

def followedBy (lines : List Log.Line) (outcome : Outcome) : Outcome :=
  { outcome with log := outcome.log ++ lines }

-- For a packet that got through.
def announcedBy (lines : List Log.Line) (outcome : Outcome) : Outcome :=
  outcome.followedBy <|
    match outcome.verdict with
    | .emitted _ => lines
    | .dropped _ => []

end Outcome
end Nat64Gateway
