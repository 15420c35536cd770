import Nat64Gateway.Protocol
import Nat64Gateway.Wire

namespace Nat64Gateway.Address

structure V4 where
  bits : BitVec 32
deriving DecidableEq, Repr

structure V6 where
  bits : BitVec 128
deriving DecidableEq, Repr

namespace V4

def octets (address : V4) : Bytes :=
  Wire.encode 4 address.bits.toNat

def ofOctets (octets : Bytes) : V4 :=
  ⟨BitVec.ofNat 32 (Wire.decode octets)⟩

def unspecified : V4 := ⟨0⟩

-- 255.255.255.255 reaches every host of the link, whatever its subnet.
def limitedBroadcast : V4 := ⟨BitVec.allOnes 32⟩

@[simp] theorem length_octets (address : V4) : address.octets.length = 4 :=
  Wire.length_encode ..

@[simp] theorem ofOctets_octets (address : V4) : ofOctets address.octets = address := by
  have fits : address.bits.toNat < Wire.capacity 4 := address.bits.isLt
  simp [ofOctets, octets, Wire.decode_encode_of_lt fits]

theorem octets_ofOctets {octets : Bytes} (width : octets.length = 4) :
    (ofOctets octets).octets = octets := by
  have room := Wire.decode_lt octets
  rw [width] at room
  have kept : (BitVec.ofNat 32 (Wire.decode octets)).toNat = Wire.decode octets :=
    Nat.mod_eq_of_lt room
  rw [ofOctets, V4.octets, kept, ← width, Wire.encode_decode]

end V4

namespace V6

def octets (address : V6) : Bytes :=
  Wire.encode 16 address.bits.toNat

def ofOctets (octets : Bytes) : V6 :=
  ⟨BitVec.ofNat 128 (Wire.decode octets)⟩

def unspecified : V6 := ⟨0⟩

-- ff02::1, the link's nearest thing to a limited broadcast.
def allNodes : V6 := ⟨0xff020000000000000000000000000001#128⟩

@[simp] theorem length_octets (address : V6) : address.octets.length = 16 :=
  Wire.length_encode ..

@[simp] theorem ofOctets_octets (address : V6) : ofOctets address.octets = address := by
  have fits : address.bits.toNat < Wire.capacity 16 := address.bits.isLt
  simp [ofOctets, octets, Wire.decode_encode_of_lt fits]

theorem octets_ofOctets {octets : Bytes} (width : octets.length = 16) :
    (ofOctets octets).octets = octets := by
  have room := Wire.decode_lt octets
  rw [width] at room
  have kept : (BitVec.ofNat 128 (Wire.decode octets)).toNat = Wire.decode octets :=
    Nat.mod_eq_of_lt room
  rw [ofOctets, V6.octets, kept, ← width, Wire.encode_decode]

end V6

@[reducible] def Of : Family → Type
  | .v4 => V4
  | .v6 => V6

structure Socket4 where
  address : V4
  port : UInt16
deriving DecidableEq, Repr

inductive Socket where
  | v4 (socket : Socket4)
  | v6 (address : V6) (scope : Nat) (port : UInt16)
deriving DecidableEq, Repr

end Nat64Gateway.Address
