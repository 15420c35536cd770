import Nat64Gateway.Proofs.Guarded.Prefix
import Nat64Gateway.Proofs.Guarded.Translation
import Nat64Gateway.Proofs.Nat64.ToV6

namespace Nat64Gateway.Guarded

namespace ToV6

def destinationFor (context : Context) (destination : Address.V4) (port? : Option UInt16) :
    Checked (Except Drop Address.V6) :=
  if context.isBroadcast destination then .ok (.ok .allNodes)
  else
    match context.host with
    | none => .ok (.error .hostMissing)
    | some host =>
      if destination ≠ host then .ok (.error .destinationNotHost)
      else if port?.any fun port => !context.exempts port then do
        let image ← Prefix.image context.nat64 host
        .ok (.ok image)
      else
        match context.localV6 with
        | none => .ok (.error .localV6Missing)
        | some node => .ok (.ok node)

def plan (context : Context) (packet : Packet.V4) (capacity : Nat) :
    Checked (Except Drop (Nat64.Plan .v6 × Option UInt8)) := do
  let converted ← convert .v4 packet.segment
  match converted with
  | .error cause => .ok (.error cause)
  | .ok (protocol, type?) =>
    if capacity < 40 + packet.segment.bytes.length then .ok (.error .v6ExceedsBuffer)
    else do
      let sender ← V4.source packet
      let source ← Prefix.image context.nat64 sender
      let receiver ← V4.destination packet
      let receiverPort ← port? packet.segment 2
      let destination? ← destinationFor context receiver receiverPort
      match destination? with
      | .error cause => .ok (.error cause)
      | .ok destination => do
        let senderPort ← port? packet.segment 0
        let hops ← V4.timeToLive packet
        let response := packet.segment.kind = .udp && senderPort = some Dns64.port
        .ok (.ok ({
          protocol, source, destination, hops
          segment := packet.segment.bytes
          message := if response then some .response else none }, type?))

def checksumWarnings (part : Log.Part) (doing : String) (packet : Packet.V4) :
    Checked (List Log.Line) := do
  let headerValid ← V4.headerValid packet
  let transportValid ← V4.transportValid packet
  if headerValid && transportValid then .ok []
  else do
    let text ← V4.text packet
    let complain := fun (valid : Bool) (field : String) =>
      if valid then []
      else [(⟨.warn, part,
        doing ++ " IPv4 packet with invalid " ++ field ++ " checksum: " ++ text⟩ : Log.Line)]
    .ok (complain headerValid "header" ++ complain transportValid "transport")

def run (context : Context) (hook : Dns64.Hook) (nextId : UInt16) (packet : Packet.V4)
    (buffer : Bytes) : Checked Outcome :=
  translate hook nextId (checksumWarnings .nat64 "Translating" packet) (V4.text packet)
    (plan context packet buffer.length) buffer

end ToV6

def toV6 (context : Context) (hook : Dns64.Hook) (nextId : UInt16) (data buffer : Bytes) :
    Checked Outcome := do
  let packet? ← V4.read data
  match packet? with
  | .error fault => .ok (.refuse buffer nextId (.unreadable fault))
  | .ok packet => ToV6.run context hook nextId packet buffer

namespace ToV6

theorem destinationFor_eq (context : Context) (destination : Address.V4)
    (port? : Option UInt16) :
    destinationFor context destination port?
      = .ok (Nat64.ToV6.destinationFor context destination port?) := by
  unfold destinationFor Nat64.ToV6.destinationFor
  by_cases broadcast : context.isBroadcast destination = true
  · simp only [if_pos broadcast]
  simp only [if_neg broadcast]
  cases context.host with
  | none => rfl
  | some host =>
    dsimp only
    by_cases other : destination ≠ host
    · simp only [if_pos other]
    simp only [if_neg other]
    rw [Prefix.image_eq, ok_bind]
    split
    · rfl
    · cases context.localV6 <;> rfl

variable {context : Context} {packet : Packet.V4}

theorem plan_eq (held : Held .v4 packet.bytes packet.segment) (capacity : Nat) :
    ∃ planned, plan context packet capacity = .ok planned ∧
      Nat64.ToV6.plan context packet capacity = planned.map fun found => typed found.1 found.2 := by
  obtain ⟨converted, stands, model⟩ := convert_eq .v4 packet.segment
  unfold plan Nat64.ToV6.plan
  rw [stands, ok_bind, model]
  cases converted with
  | error cause => exact ⟨_, rfl, rfl⟩
  | ok found =>
    obtain ⟨protocol, type?⟩ := found
    have size : (withType type? packet.segment.bytes).length = packet.segment.bytes.length :=
      length_withType (by have room := held.sound.length_ge; omega)
    dsimp only
    by_cases short : capacity < 40 + packet.segment.bytes.length
    · refine ⟨_, if_pos short, ?_⟩
      simp only [Except.map, bind, Except.bind, size, if_pos short]
    · rw [if_neg short, V4.source_eq held, ok_bind, Prefix.image_eq, ok_bind,
        V4.destination_eq held, ok_bind, port?_destination held.sound, ok_bind, destinationFor_eq,
        ok_bind]
      cases destination : Nat64.ToV6.destinationFor context packet.destination
          packet.segment.destinationPort? with
      | error cause =>
        refine ⟨_, rfl, ?_⟩
        simp only [Except.map, bind, Except.bind, size, if_neg short]
      | ok address =>
        dsimp only
        rw [port?_source held.sound, ok_bind, V4.timeToLive_eq held, ok_bind]
        refine ⟨_, rfl, ?_⟩
        simp only [Except.map, bind, Except.bind, size, if_neg short]
        rfl

theorem checksumWarnings_eq (part : Log.Part) (doing : String)
    (held : Held .v4 packet.bytes packet.segment) :
    checksumWarnings part doing packet
      = .ok (Nat64.ToV6.checksumWarnings part doing packet) := by
  unfold checksumWarnings Nat64.ToV6.checksumWarnings
  rw [V4.headerValid_eq held, ok_bind, V4.transportValid_eq held, ok_bind, V4.text_eq held,
    ok_bind]
  cases packet.headerValid <;> cases packet.transportValid <;> rfl

theorem run_eq (held : Held .v4 packet.bytes packet.segment) (hook : Dns64.Hook)
    (nextId : UInt16) (buffer : Bytes) :
    run context hook nextId packet buffer
      = .ok (Nat64.ToV6.run context hook nextId packet buffer) := by
  have prepared : Nat64.Prepared (Nat64.ToV6.plan context packet buffer.length)
      (Nat64.ToV6.Planned context packet buffer.length) buffer.length :=
    Nat64.ToV6.prepared held.sound held.short
  obtain ⟨planned, stands, model⟩ := plan_eq held buffer.length
  unfold run Nat64.ToV6.run
  rw [model] at prepared ⊢
  rw [checksumWarnings_eq _ _ held, V4.text_eq held, stands, translate_eq hook nextId _ _ prepared]

end ToV6

theorem toV6_eq (context : Context) (hook : Dns64.Hook) (nextId : UInt16) (data buffer : Bytes) :
    toV6 context hook nextId data buffer = .ok (Nat64.toV6 context hook nextId data buffer) := by
  unfold toV6 Nat64.toV6
  rw [V4.read_eq, ok_bind]
  cases read : Packet.V4.read data with
  | error fault => rfl
  | ok packet => exact ToV6.run_eq (V4.held read) hook nextId buffer

end Nat64Gateway.Guarded
