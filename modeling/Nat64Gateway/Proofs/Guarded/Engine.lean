import Nat64Gateway.Proofs.Guarded.Framing
import Nat64Gateway.Proofs.Guarded.Unframing

namespace Nat64Gateway.Guarded

theorem engine_completes (tunnel : Tunnel) (data buffer : Bytes) :
    encapsulate tunnel data buffer = .ok (tunnel.encapsulate data buffer) ∧
      decapsulate tunnel data buffer = .ok (tunnel.decapsulate data buffer) ∧
      toV4 tunnel.context tunnel.hook tunnel.nextId data buffer
        = .ok (Nat64.toV4 tunnel.context tunnel.hook tunnel.nextId data buffer) ∧
      toV6 tunnel.context tunnel.hook tunnel.nextId data buffer
        = .ok (Nat64.toV6 tunnel.context tunnel.hook tunnel.nextId data buffer) :=
  ⟨encapsulate_eq tunnel data buffer, decapsulate_eq tunnel data buffer, toV4_eq ..,
    toV6_eq ..⟩

-- The checks are real: without the readers' promises the same operations do stop.
example : fillTransport .v4 [0x45, 0, 0, 0] .udp = .error .bounds := by rfl

end Nat64Gateway.Guarded
