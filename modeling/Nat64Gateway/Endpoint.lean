import Nat64Gateway.Address.Text
import Nat64Gateway.Fault

namespace Nat64Gateway.Endpoint

inductive PortOrder where
  | reversed
  | network
deriving DecidableEq, Repr

namespace PortOrder

def arrange : PortOrder → Bytes → Bytes
  | .reversed, bytes => bytes.reverse
  | .network, bytes => bytes

def text : PortOrder → String
  | .reversed => "reversed"
  | .network => "network"

@[simp] theorem arrange_arrange (order : PortOrder) (bytes : Bytes) :
    order.arrange (order.arrange bytes) = bytes := by
  cases order with
  | reversed => exact bytes.reverse_reverse
  | network => rfl

@[simp] theorem length_arrange (order : PortOrder) (bytes : Bytes) :
    (order.arrange bytes).length = bytes.length := by
  cases order with
  | reversed => exact bytes.length_reverse
  | network => rfl

end PortOrder

structure Block where
  source : Address.V6
  sourcePort : UInt16
  destination : Address.V6
  destinationPort : UInt16
deriving DecidableEq, Repr

namespace Block

def length : Nat := 36

def encode (order : PortOrder) (block : Block) : Bytes :=
  block.source.octets ++ order.arrange (Wire.encodeWord block.sourcePort)
    ++ block.destination.octets ++ Wire.encodeWord block.destinationPort

def read (order : PortOrder) (bytes : Bytes) : Except Fault Block :=
  if bytes.length < length then .error .endpointDataShort
  else .ok {
    source := .ofOctets (Wire.field bytes 0 16)
    sourcePort := Wire.word (order.arrange (Wire.field bytes 16 2)) 0
    destination := .ofOctets (Wire.field bytes 18 16)
    destinationPort := Wire.word bytes 34 }

def write (order : PortOrder) (block : Block) (buffer : Bytes) : Except Fault Bytes :=
  if buffer.length < length then .error .endpointSpaceShort
  else .ok (Wire.overwrite buffer 0 (block.encode order))

def text (block : Block) : String :=
  "[" ++ block.source.text ++ "]" ++ Address.portText block.sourcePort
    ++ " -> [" ++ block.destination.text ++ "]" ++ Address.portText block.destinationPort

@[simp] theorem length_encode (order : PortOrder) (block : Block) :
    (block.encode order).length = length := by
  simp [encode, Wire.encodeWord, length]

end Block
end Nat64Gateway.Endpoint
