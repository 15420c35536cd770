import Nat64Gateway.Fault

namespace Nat64Gateway

inductive Drop where
  | unreadable (fault : Fault)
  | icmp6NotEcho
  | icmp4OverV6
  | icmp4NotRequest
  | icmp6OverV4
  | innerIcmpNotEcho
  | carrierNotUdp
  | markerUnknown
  | destinationOutsidePrefix
  | destinationNotHost
  | onlyBroadcast
  | hostMissing
  | localV6Missing
  | flowNeedsHost
  | v4ExceedsBuffer
  | v4ExceedsLength
  | v6ExceedsBuffer
  | v6ExceedsLength
  | editedExceedsBuffer
  | editedExceedsLength
  | framedExceedsBuffer
  | unframedExceedsBuffer
  | peerAddress
  | peerPort
deriving DecidableEq, Repr

namespace Drop

inductive Kind where
  | truncatedPacket
  | unsupportedProtocol
  | addressNotTranslatable
  | hostUnconfigured
  | oversizedResult
  | wrongTunnelPeer
deriving DecidableEq, Repr

def Kind.render : Kind → String → String
  | .truncatedPacket, detail => "Truncated packet: " ++ detail
  | .unsupportedProtocol, detail => "Unsupported protocol: " ++ detail
  | .addressNotTranslatable, detail => "Address not translatable: " ++ detail
  | .hostUnconfigured, detail => "Host unconfigured: " ++ detail
  | .oversizedResult, detail => "Oversized result: " ++ detail
  | .wrongTunnelPeer, detail => "Wrong tunnel peer: " ++ detail

-- Only missing bytes stay a truncation; what is refused for another reason is a protocol matter.
def Kind.ofFault : Fault.Kind → Kind
  | .truncated => .truncatedPacket
  | .unsupported | .internal => .unsupportedProtocol

def kind : Drop → Kind
  | .unreadable fault => Kind.ofFault fault.kind
  | .icmp6NotEcho | .icmp4OverV6 | .icmp4NotRequest | .icmp6OverV4 | .innerIcmpNotEcho
  | .carrierNotUdp | .markerUnknown => .unsupportedProtocol
  | .destinationOutsidePrefix | .destinationNotHost => .addressNotTranslatable
  | .onlyBroadcast | .hostMissing | .localV6Missing | .flowNeedsHost => .hostUnconfigured
  | .v4ExceedsBuffer | .v4ExceedsLength | .v6ExceedsBuffer | .v6ExceedsLength
  | .editedExceedsBuffer | .editedExceedsLength | .framedExceedsBuffer
  | .unframedExceedsBuffer => .oversizedResult
  | .peerAddress | .peerPort => .wrongTunnelPeer

def detail : Drop → String
  | .unreadable fault => fault.detail
  | .icmp6NotEcho => "Only ICMPv6 echo messages can be translated"
  | .icmp4OverV6 => "ICMPv4 cannot be carried over IPv6"
  | .icmp4NotRequest => "Only ICMPv4 echo requests can be translated"
  | .icmp6OverV4 => "ICMPv6 cannot be carried over IPv4"
  | .innerIcmpNotEcho => "Only ICMP echo messages can be tunneled"
  | .carrierNotUdp => "Only UDP can carry tunneled flows"
  | .markerUnknown => "Unknown protocol marker in tunneled packet"
  | .destinationOutsidePrefix => "IPv6 destination is outside of the NAT64 prefix"
  | .destinationNotHost => "IPv4 destination doesn't match the host address"
  | .onlyBroadcast => "Only broadcasts can be sent before the host address is configured"
  | .hostMissing => "Host address is not configured"
  | .localV6Missing => "Local IPv6 address is not configured"
  | .flowNeedsHost => "Tunneled flows require a host address"
  | .v4ExceedsBuffer => "Translated IPv4 packet exceeds the buffer"
  | .v4ExceedsLength => "Translated IPv4 packet exceeds the maximum IPv4 length"
  | .v6ExceedsBuffer => "Translated IPv6 packet exceeds the buffer"
  | .v6ExceedsLength => "IPv6 payload exceeds the maximum payload length"
  | .editedExceedsBuffer => "DNS64 rewrite exceeds the buffer"
  | .editedExceedsLength => "DNS64 rewrite exceeds the maximum UDP length"
  | .framedExceedsBuffer => "Encapsulated packet exceeds the buffer"
  | .unframedExceedsBuffer => "Decapsulated packet exceeds the buffer"
  | .peerAddress => "Source address doesn't match the tunnel endpoint"
  | .peerPort => "Source port doesn't match the tunnel endpoint"

def message (cause : Drop) : String :=
  cause.kind.render cause.detail

end Drop
end Nat64Gateway
