import Nat64Gateway.Proofs.Guarded.Prefix
import Nat64Gateway.Proofs.Guarded.Translation
import Nat64Gateway.Proofs.Nat64.ToV4

namespace Nat64Gateway.Guarded

namespace ToV4

def plan (context : Context) (packet : Packet.V6) (capacity : Nat) :
    Checked (Except Drop (Nat64.Plan .v4 × Option UInt8)) := do
  let converted ← convert .v6 packet.segment
  match converted with
  | .error cause => .ok (.error cause)
  | .ok (protocol, type?) => do
    let receiver ← V6.destination packet
    let destination? ← Prefix.embedded? context.nat64 receiver
    match destination? with
    | none => .ok (.error .destinationOutsidePrefix)
    | some destination =>
      match Nat64.ToV4.sourceFor context destination with
      | .error cause => .ok (.error cause)
      | .ok source =>
        if capacity < 20 + packet.segment.bytes.length then .ok (.error .v4ExceedsBuffer)
        else do
          let port ← port? packet.segment 2
          let hops ← V6.hopLimit packet
          let query := packet.segment.kind = .udp && port = some Dns64.port
          .ok (.ok ({
            protocol, source, destination, hops
            segment := packet.segment.bytes
            message := if query then some .query else none }, type?))

def warnings (packet : Packet.V6) : Checked (List Log.Line) := do
  let valid ← V6.transportValid packet
  if valid then .ok []
  else do
    let text ← V6.text packet
    .ok [⟨.warn, .nat64,
      "Translating IPv6 packet with invalid transport checksum: " ++ text⟩]

def run (context : Context) (hook : Dns64.Hook) (nextId : UInt16) (packet : Packet.V6)
    (buffer : Bytes) : Checked Outcome :=
  translate hook nextId (warnings packet) (V6.text packet) (plan context packet buffer.length)
    buffer

end ToV4

def toV4 (context : Context) (hook : Dns64.Hook) (nextId : UInt16) (data buffer : Bytes) :
    Checked Outcome := do
  let packet? ← V6.read data
  match packet? with
  | .error fault => .ok (.refuse buffer nextId (.unreadable fault))
  | .ok packet => ToV4.run context hook nextId packet buffer

namespace ToV4

variable {context : Context} {packet : Packet.V6}

theorem plan_eq (held : Held .v6 packet.bytes packet.segment) (capacity : Nat) :
    ∃ planned, plan context packet capacity = .ok planned ∧
      Nat64.ToV4.plan context packet capacity = planned.map fun found => typed found.1 found.2 := by
  obtain ⟨converted, stands, model⟩ := convert_eq .v6 packet.segment
  unfold plan Nat64.ToV4.plan
  rw [stands, ok_bind, model]
  cases converted with
  | error cause => exact ⟨_, rfl, rfl⟩
  | ok found =>
    obtain ⟨protocol, type?⟩ := found
    dsimp only
    rw [V6.destination_eq held, ok_bind, Prefix.embedded?_eq, ok_bind]
    cases context.nat64.embedded? packet.destination with
    | none => exact ⟨_, rfl, rfl⟩
    | some destination =>
      dsimp only
      cases source : Nat64.ToV4.sourceFor context destination with
      | error cause =>
        refine ⟨_, rfl, ?_⟩
        simp only [Except.map, bind, Except.bind, source]
      | ok address =>
        have size : (withType type? packet.segment.bytes).length = packet.segment.bytes.length :=
          length_withType (by have room := held.sound.length_ge; omega)
        dsimp only
        by_cases short : capacity < 20 + packet.segment.bytes.length
        · refine ⟨_, if_pos short, ?_⟩
          simp only [Except.map, bind, Except.bind, source, size, if_pos short]
        · rw [if_neg short, port?_destination held.sound, ok_bind, V6.hopLimit_eq held, ok_bind]
          refine ⟨_, rfl, ?_⟩
          simp only [Except.map, bind, Except.bind, source, size, if_neg short]
          rfl

theorem warnings_eq (held : Held .v6 packet.bytes packet.segment) :
    warnings packet = .ok (Nat64.ToV4.warnings packet) := by
  unfold warnings Nat64.ToV4.warnings
  rw [V6.transportValid_eq held, ok_bind, V6.text_eq held, ok_bind]
  cases packet.transportValid <;> rfl

theorem run_eq (held : Held .v6 packet.bytes packet.segment) (hook : Dns64.Hook)
    (nextId : UInt16) (buffer : Bytes) :
    run context hook nextId packet buffer
      = .ok (Nat64.ToV4.run context hook nextId packet buffer) := by
  have prepared : Nat64.Prepared (Nat64.ToV4.plan context packet buffer.length)
      (Nat64.ToV4.Planned context packet buffer.length) buffer.length :=
    Nat64.ToV4.prepared held.sound held.short
  obtain ⟨planned, stands, model⟩ := plan_eq held buffer.length
  unfold run Nat64.ToV4.run
  rw [model] at prepared ⊢
  rw [warnings_eq held, V6.text_eq held, stands, translate_eq hook nextId _ _ prepared]

end ToV4

theorem toV4_eq (context : Context) (hook : Dns64.Hook) (nextId : UInt16) (data buffer : Bytes) :
    toV4 context hook nextId data buffer = .ok (Nat64.toV4 context hook nextId data buffer) := by
  unfold toV4 Nat64.toV4
  rw [V6.read_eq, ok_bind]
  cases read : Packet.V6.read data with
  | error fault => rfl
  | ok packet => exact ToV4.run_eq (V6.held read) hook nextId buffer

end Nat64Gateway.Guarded
