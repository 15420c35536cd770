import Nat64Gateway.Protocol

namespace Nat64Gateway.Tunnel.Marker

def typeOfService (protocol : Protocol) : UInt8 :=
  if protocol = .udp then 0 else protocol.number <<< 2

def protocol? (dscp : UInt8) : Option Protocol :=
  if dscp = 0 then some .udp
  else if dscp = Protocol.tcp.number then some .tcp
  else if dscp = Protocol.icmp6.number then some .icmp6
  else none

-- The upper six bits are all that the far side looks at.
theorem protocol?_typeOfService {protocol : Protocol}
    (carried : protocol = .udp ∨ protocol = .tcp ∨ protocol = .icmp6) :
    protocol? (typeOfService protocol >>> 2) = some protocol := by
  rcases carried with rfl | rfl | rfl <;> decide

end Nat64Gateway.Tunnel.Marker
