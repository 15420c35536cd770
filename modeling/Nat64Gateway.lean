import Nat64Gateway.Main
import Nat64Gateway.Proofs.Checksum.Filled
import Nat64Gateway.Proofs.Packet.Header
import Nat64Gateway.Proofs.Segment
import Nat64Gateway.Proofs.Packet.Reading
import Nat64Gateway.Proofs.Datagram
import Nat64Gateway.Proofs.Nat64.ToV4
import Nat64Gateway.Proofs.Nat64.ToV6
import Nat64Gateway.Proofs.Tunnel.Framing
import Nat64Gateway.Proofs.Endpoint
import Nat64Gateway.Proofs.Tunnel.Unframing
import Nat64Gateway.Proofs.Packet.WellFormed
import Nat64Gateway.Proofs.Tunnel.Emitted
import Nat64Gateway.Proofs.Tunnel.RoundTrip
import Nat64Gateway.Proofs.Prefix
import Nat64Gateway.Proofs.Tunnel.Agreement
import Nat64Gateway.Proofs.Tunnel.Plain
import Nat64Gateway.Proofs.Tunnel.Admission
import Nat64Gateway.Proofs.Guarded.Access
import Nat64Gateway.Proofs.Guarded.Checksum
import Nat64Gateway.Proofs.Guarded.Datagram
import Nat64Gateway.Proofs.Guarded.Engine
import Nat64Gateway.Proofs.Tunnel.Provenance
import Nat64Gateway.Proofs.Tunnel.Identification
import Nat64Gateway.Proofs.Tunnel.Scratch
import Nat64Gateway.Proofs.Relay.Delivery
import Nat64Gateway.Proofs.Relay.Reactions
import Nat64Gateway.Proofs.Relay.Noninterference
import Nat64Gateway.Proofs.Tunnel.Entry
import Nat64Gateway.Proofs.Consultation
import Nat64Gateway.Proofs.Tunnel.Consultation
import Nat64Gateway.Proofs.Tunnel.Residue
import Nat64Gateway.Proofs.Tunnel.Secrecy
import Nat64Gateway.Proofs.Tunnel.Delimited
import Nat64Gateway.Proofs.SameOff
import Nat64Gateway.Proofs.Packet.SameOff
import Nat64Gateway.Proofs.Nat64.SameOff
import Nat64Gateway.Proofs.Tunnel.Checksums
import Nat64Gateway.Proofs.Packet.Judged
import Nat64Gateway.Proofs.Checksum.Accumulation
import Nat64Gateway.Proofs.Checksum.Refilled
import Nat64Gateway.Proofs.Checksum.Corruption
import Nat64Gateway.Proofs.Prefix.Mapping
import Nat64Gateway.Proofs.Nat64.Broadcast
import Nat64Gateway.Proofs.FairSelect
import Nat64Gateway.Proofs.Capture.Losses
import Nat64Gateway.Proofs.CommandLine.Help
import Nat64Gateway.Proofs.Endpoint.Codec
