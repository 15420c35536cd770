namespace Nat64Gateway

inductive Family where
  | v4
  | v6
deriving DecidableEq, Repr

def Family.digit : Family → String
  | .v4 => "4"
  | .v6 => "6"

def Family.other : Family → Family
  | .v4 => .v6
  | .v6 => .v4

def Family.headerLength : Family → Nat
  | .v4 => 20
  | .v6 => 40

def Family.counted : Family → Nat
  | .v4 => 20
  | .v6 => 0

-- The number of the IPv4 protocol field and of the IPv6 next header field.
structure Protocol where
  number : UInt8
deriving DecidableEq, Repr

namespace Protocol

def icmp4 : Protocol := ⟨1⟩
def tcp : Protocol := ⟨6⟩
def udp : Protocol := ⟨17⟩
def icmp6 : Protocol := ⟨58⟩

-- Where the checksum stands inside the transport header. A protocol that is not known here is taken
-- to be laid out as ICMP is.
def checksumOffset (protocol : Protocol) : Nat :=
  if protocol = tcp then 16 else if protocol = udp then 6 else 2

def text (protocol : Protocol) : String :=
  if protocol = icmp4 then "ICMP"
  else if protocol = tcp then "TCP"
  else if protocol = udp then "UDP"
  else if protocol = icmp6 then "IPv6-ICMP"
  else "Unknown IP transport protocol " ++ toString protocol.number.toNat

end Protocol
end Nat64Gateway
