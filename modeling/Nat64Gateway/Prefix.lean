import Nat64Gateway.Address.Text
import Nat64Gateway.Fault

namespace Nat64Gateway

structure Prefix where
  base : BitVec 96
  length : Nat
  length_le : length ≤ 96 := by decide
deriving DecidableEq, Repr

namespace Prefix

-- ::ffff:0:0/96, the IPv4-mapped block.
def v4Mapped : Prefix := { base := 0xffff#96, length := 96 }

-- Bits 96 to 128 of the address are not kept.
def make (address : Address.V6) (length : Nat) : Except Fault Prefix :=
  if length_le : length ≤ 96 then
    .ok { base := address.bits.extractLsb' 32 96, length, length_le }
  else .error .addressPrefixLong

def image (block : Prefix) (address : Address.V4) : Address.V6 :=
  ⟨block.base ++ address.bits⟩

-- The address of the block itself, with zeros in the place of an IPv4 address.
def address (block : Prefix) : Address.V6 :=
  block.image .unspecified

-- The first `length` bits as a number.
def leading (address : Address.V6) (length : Nat) : Nat :=
  address.bits.toNat >>> (128 - length)

-- Bits between the length and the last 32 are not looked at.
def covers (block : Prefix) (address : Address.V6) : Bool :=
  leading address block.length = leading block.address block.length

def embedded? (block : Prefix) (address : Address.V6) : Option Address.V4 :=
  if block.covers address then some ⟨address.bits.setWidth 32⟩ else none

def text (block : Prefix) : String :=
  block.address.text ++ "/" ++ toString block.length

end Prefix
end Nat64Gateway
