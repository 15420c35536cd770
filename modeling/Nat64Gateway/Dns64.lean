import Nat64Gateway.Wire

namespace Nat64Gateway.Dns64

def port : UInt16 := 53

-- Queries leave the segment, responses enter it.
inductive Direction where
  | query
  | response
deriving DecidableEq, Repr

-- The answer may be longer than the room there is.
structure Hook where
  edit : Direction → Bytes → Nat → Bytes × Nat
  length_edit : ∀ direction room length, (edit direction room length).1.length = room.length

def passthrough : Hook where
  edit _ room length := (room, length)
  length_edit _ _ _ := rfl

structure Call where
  direction : Direction
  length : Nat
  room : Nat
  message : Bytes
deriving DecidableEq, Repr

def Call.of (direction : Direction) (room : Bytes) (length : Nat) : Call :=
  { direction, length, room := room.length, message := room.take length }

end Nat64Gateway.Dns64
