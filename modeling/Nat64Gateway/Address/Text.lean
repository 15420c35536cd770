import Nat64Gateway.Address
import Nat64Gateway.Hex

namespace Nat64Gateway.Address

def V4.text (address : V4) : String :=
  ".".intercalate (address.octets.map fun octet => toString octet.toNat)

namespace V6

def groups (address : V6) : List Nat :=
  (List.range 8).map fun index => address.bits.toNat >>> (16 * (7 - index)) % 65536

def zerosFrom (groups : List Nat) (start : Nat) : Nat :=
  ((groups.drop start).takeWhile (· = 0)).length

-- Start and length of the run; only a strictly longer run replaces an earlier one.
def longestZeros (groups : List Nat) : Nat × Nat :=
  (List.range groups.length).foldl (fun best start =>
    if best.2 < zerosFrom groups start then (start, zerosFrom groups start) else best) (0, 0)

def joined (groups : List Nat) : String :=
  ":".intercalate (groups.map Hex.shortest)

def text (address : V6) : String :=
  let groups := address.groups
  let (start, length) := longestZeros groups
  if address.bits.toNat >>> 32 = 0xffff then
    "::ffff:" ++ (V4.mk (address.bits.setWidth 32)).text
  else if 1 < length then
    joined (groups.take start) ++ "::" ++ joined (groups.drop (start + length))
  else joined groups

end V6

def portText (port : UInt16) : String :=
  ":" ++ toString port.toNat

def Socket4.text (socket : Socket4) : String :=
  socket.address.text ++ portText socket.port

-- A scope of zero is no scope.
def Socket.text : Socket → String
  | .v4 socket => socket.text
  | .v6 address scope port =>
    "[" ++ address.text ++ (if scope = 0 then "" else "%" ++ toString scope) ++ "]" ++ portText port

end Nat64Gateway.Address
