import Nat64Gateway.Protocol

namespace Nat64Gateway

inductive Fault where
  | udpHeaderShort
  | udpLengthShort
  | udpLengthOverflow
  | tcpHeaderShort
  | tcpOffsetOverflow
  | tcpOffsetShort
  | icmpHeaderShort (family : Family)
  | icmpMessageShort (family : Family)
  | protocolUnsupported
  | v4HeaderShort
  | v4Version
  | v4HeaderLengthShort
  | v4HeaderLengthOverflow
  | v4TotalLengthOverflow
  | v4PayloadMissing
  | v4Fragment
  | v6HeaderShort
  | v6Version
  | v6PayloadLengthOverflow
  | endpointDataShort
  | endpointSpaceShort
  | addressPrefixLong
deriving DecidableEq, Repr

namespace Fault

-- Bytes are missing, the bytes are not of a supported form, or the caller's own value is refused.
inductive Kind where
  | truncated
  | unsupported
  | internal
deriving DecidableEq, Repr

def Kind.render : Kind → String → String
  | .truncated, detail => "Truncated packet: " ++ detail
  | .unsupported, detail => "Unsupported packet: " ++ detail
  | .internal, detail => detail

def kind : Fault → Kind
  | .tcpOffsetShort | .protocolUnsupported | .v4Version | .v4HeaderLengthShort | .v4Fragment
  | .v6Version => .unsupported
  | .addressPrefixLong => .internal
  | _ => .truncated

def detail : Fault → String
  | .udpHeaderShort => "Not enough data for UDP header"
  | .udpLengthShort => "UDP length is shorter than its header"
  | .udpLengthOverflow => "UDP length overflows the packet"
  | .tcpHeaderShort => "Not enough data for TCP header"
  | .tcpOffsetOverflow => "TCP data offset overflow"
  | .tcpOffsetShort => "TCP data offset folds into the header"
  | .icmpHeaderShort family => "Not enough data for ICMPv" ++ family.digit ++ " header"
  | .icmpMessageShort family => "Not enough data in ICMPv" ++ family.digit ++ " header"
  | .protocolUnsupported => "Unsupported transport protocol"
  | .v4HeaderShort => "Not enough bytes in IPv4 header"
  | .v4Version => "Not an IPv4 packet"
  | .v4HeaderLengthShort => "IPv4 header length is too short"
  | .v4HeaderLengthOverflow => "IPv4 header length overflow"
  | .v4TotalLengthOverflow => "IPv4 total length overflows the buffer"
  | .v4PayloadMissing => "IPv4 packet has no payload"
  | .v4Fragment => "Fragmented IPv4 packets are not supported"
  | .v6HeaderShort => "Not enough bytes in IPv6 header"
  | .v6Version => "Not an IPv6 packet"
  | .v6PayloadLengthOverflow => "IPv6 payload length overflows the buffer"
  | .endpointDataShort => "Not enough data for endpoint block"
  | .endpointSpaceShort => "Not enough space for endpoint block"
  | .addressPrefixLong => "NAT64 prefix length must not exceed 96 bits"

def message (fault : Fault) : String :=
  fault.kind.render fault.detail

end Fault
end Nat64Gateway
