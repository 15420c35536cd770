import Nat64Gateway.Fault
import Nat64Gateway.Hex

namespace Nat64Gateway.Icmp

inductive Kind where
  | echoRequest
  | echoReply
  | other (type code : UInt8)
deriving DecidableEq, Repr

namespace Kind

def requestType : Family → UInt8
  | .v4 => 8
  | .v6 => 128

def replyType : Family → UInt8
  | .v4 => 0
  | .v6 => 129

def ofHeader (family : Family) (type code : UInt8) : Kind :=
  if type = requestType family ∧ code = 0 then .echoRequest
  else if type = replyType family ∧ code = 0 then .echoReply
  else .other type code

def type (family : Family) : Kind → UInt8
  | .echoRequest => requestType family
  | .echoReply => replyType family
  | .other type _ => type

-- Echoes keep their meaning in the other family; nothing else has one there.
def echo? : Kind → Option Kind
  | .other .. => none
  | echo => some echo

-- Outside of the tunnel, IPv4 may ask but not answer.
def request? : Kind → Option Kind
  | .echoRequest => some .echoRequest
  | _ => none

theorem ofHeader_type {kind echo : Kind} (is_echo : kind.echo? = some echo) (family : Family) :
    ofHeader family (echo.type family) 0 = echo := by
  cases kind with
  | other => cases is_echo
  | echoRequest => cases is_echo; cases family <;> rfl
  | echoReply => cases is_echo; cases family <;> rfl

def text : Kind → String
  | .echoRequest => "Echo request"
  | .echoReply => "Echo reply"
  | .other type code =>
    "Unknown type " ++ toString type.toNat ++ " code " ++ toString code.toNat

end Kind

structure Message where
  family : Family
  bytes : Bytes
deriving DecidableEq, Repr

namespace Message

def read (family : Family) (bytes : Bytes) : Except Fault Message :=
  if bytes.length < 8 then .error (.icmpMessageShort family) else .ok ⟨family, bytes⟩

def kind (message : Message) : Kind :=
  .ofHeader message.family (Wire.byte message.bytes 0) (Wire.byte message.bytes 1)

def text (message : Message) : String :=
  "ICMPv" ++ message.family.digit ++ " " ++ message.kind.text
    ++ " C=" ++ Hex.word (Wire.number message.bytes 2 2) ++ ": " ++ Hex.spaced message.bytes

end Message
end Nat64Gateway.Icmp
