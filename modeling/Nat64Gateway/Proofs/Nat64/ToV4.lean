import Nat64Gateway.Nat64.ToV4
import Nat64Gateway.Proofs.Nat64.Translation

namespace Nat64Gateway.Nat64.ToV4

structure Planned (context : Context) (packet : Packet.V6) (capacity : Nat) (plan : Plan .v4)
    (kind : Segment.Kind) : Prop where
  named : kind.protocol = plan.protocol
  converted : Converted .v6 packet.segment kind plan.segment
  destination : context.nat64.embedded? packet.destination = some plan.destination
  source : sourceFor context plan.destination = .ok plan.source
  room : 20 + plan.segment.length ≤ capacity
  message : plan.message = if isQuery packet.segment then some .query else none
  hops : plan.hops = packet.hopLimit

theorem plan_eq_ok {context : Context} {packet : Packet.V6} {capacity : Nat} {result : Plan .v4}
    (planned : plan context packet capacity = .ok result) :
    ∃ kind, Planned context packet capacity result kind := by
  unfold plan at planned
  simp only [bind, Except.bind] at planned
  cases converted : convert .v6 packet.segment with
  | error cause =>
    rw [converted] at planned
    cases planned
  | ok pair =>
    obtain ⟨protocol, segment⟩ := pair
    obtain ⟨kind, named, shape⟩ := convert_eq_ok.mp converted
    rw [converted] at planned
    cases embedded : context.nat64.embedded? packet.destination with
    | none => simp [embedded] at planned
    | some destination =>
      simp only [embedded] at planned
      cases source : sourceFor context destination with
      | error cause => simp [source] at planned
      | ok address =>
        simp only [source] at planned
        obtain ⟨room, planned⟩ := passed_iff.mp planned
        cases planned
        exact ⟨kind, named, shape, embedded, source, Nat.not_lt.mp room, rfl, rfl⟩

theorem Planned.plan_ok {context : Context} {packet : Packet.V6} {capacity : Nat} {result : Plan .v4}
    {kind : Segment.Kind} (planned : Planned context packet capacity result kind) :
    plan context packet capacity = .ok result := by
  have converted := convert_eq_ok.mpr ⟨kind, planned.named, planned.converted⟩
  obtain ⟨protocol, segment, message, hops, source, destination⟩ := result
  obtain ⟨_, _, embedded, decided, room, rfl, rfl⟩ := planned
  unfold plan
  simp only [bind, Except.bind, converted, embedded, decided]
  rw [if_neg (Nat.not_lt.mpr room)]

theorem Planned.ready {context : Context} {packet : Packet.V6} {capacity : Nat} {plan : Plan .v4}
    {kind : Segment.Kind} (planned : Planned context packet capacity plan kind)
    (whole : packet.segment.Sound) (short : packet.segment.bytes.length ≤ Datagram.maxLength) :
    plan.Ready kind capacity :=
  planned.converted.ready whole short planned.named planned.message planned.room

theorem prepared {context : Context} {packet : Packet.V6} {capacity : Nat}
    (whole : packet.segment.Sound) (short : packet.segment.bytes.length ≤ Datagram.maxLength) :
    Prepared (plan context packet capacity) (Planned context packet capacity) capacity := by
  intro result decided
  obtain ⟨kind, planned⟩ := plan_eq_ok decided
  exact ⟨kind, planned, planned.ready whole short⟩

theorem sourceFor_eq_ok {context : Context} {destination source : Address.V4}
    (decided : sourceFor context destination = .ok source) :
    source = context.host.getD .unspecified := by
  unfold sourceFor at decided
  cases host : context.host with
  | some address =>
    rw [host] at decided
    cases decided
    rfl
  | none =>
    rw [host] at decided
    rcases ite_eq_iff.mp decided with ⟨_, unspecified⟩ | ⟨_, refused⟩
    · cases unspecified
      rfl
    · cases refused

theorem sourceFor_iff {context : Context} {destination : Address.V4} :
    (∃ source, sourceFor context destination = .ok source) ↔
      context.host.isSome ∨ destination = .limitedBroadcast := by
  unfold sourceFor
  cases context.host with
  | some host => simp
  | none =>
    by_cases everyone : destination = .limitedBroadcast
    · simp [everyone]
    · simp [everyone]

theorem exists_planned_iff {context : Context} {packet : Packet.V6} {capacity : Nat} :
    (∃ plan kind, Planned context packet capacity plan kind) ↔
      (∃ kind bytes, Converted .v6 packet.segment kind bytes) ∧
        context.nat64.covers packet.destination = true ∧
        (context.host.isSome ∨
          ⟨packet.destination.bits.setWidth 32⟩ = Address.V4.limitedBroadcast) ∧
        20 + packet.segment.bytes.length ≤ capacity := by
  constructor
  · rintro ⟨plan, kind, planned⟩
    obtain ⟨covered, reached⟩ := Option.ite_none_right_eq_some.mp planned.destination
    have sender := sourceFor_iff.mp ⟨_, planned.source⟩
    rw [← Option.some.inj reached] at sender
    exact ⟨⟨kind, _, planned.converted⟩, covered, sender,
      planned.converted.length_eq ▸ planned.room⟩
  · rintro ⟨⟨kind, bytes, converted⟩, covered, sender, room⟩
    obtain ⟨source, decided⟩ := sourceFor_iff.mpr sender
    refine ⟨{
      protocol := kind.protocol
      segment := bytes
      message := if isQuery packet.segment then some .query else none
      hops := packet.hopLimit
      source
      destination := ⟨packet.destination.bits.setWidth 32⟩ }, kind, rfl, converted,
      if_pos covered, decided, ?_, rfl, rfl⟩
    rw [converted.length_eq]
    exact room

theorem run_emitted {context : Context} {hook : Dns64.Hook} {nextId : UInt16}
    {packet : Packet.V6} {buffer : Bytes} {n : Nat} (whole : packet.segment.Sound)
    (short : packet.segment.bytes.length ≤ Datagram.maxLength)
    (emitted : (run context hook nextId packet buffer).verdict = .emitted n) :
    ∃ plan kind length, Planned context packet buffer.length plan kind ∧ n = 20 + length ∧
      plan.Emission kind hook nextId buffer (run context hook nextId packet buffer) length :=
  translate_emission (prepared whole short) emitted

theorem run_passthrough {context : Context} {nextId : UInt16} {packet : Packet.V6}
    {buffer : Bytes} {n : Nat} (whole : packet.segment.Sound)
    (short : packet.segment.bytes.length ≤ Datagram.maxLength)
    (emitted : (run context Dns64.passthrough nextId packet buffer).verdict = .emitted n) :
    ∃ plan kind, Planned context packet buffer.length plan kind ∧ n = 20 + plan.segment.length ∧
      Packet.Header4.Carries (plan.header nextId plan.segment.length) kind plan.segment ∧
      (run context Dns64.passthrough nextId packet buffer).packet
        = (Packet.Header4.packet (plan.header nextId plan.segment.length) kind plan.segment).bytes := by
  obtain ⟨plan, kind, length, planned, total, emission⟩ := run_emitted whole short emitted
  have ready := planned.ready whole short
  have answer := emission.placed.answer
  have carries := emission.carries
  have packet := emission.packet_eq
  rw [Plan.length_passthrough ready] at answer
  cases answer
  rw [Plan.taken_passthrough ready] at carries packet
  exact ⟨plan, kind, planned, total, carries, packet⟩

theorem run_passthrough_iff {context : Context} {nextId : UInt16} {packet : Packet.V6}
    {buffer : Bytes} {n : Nat} (whole : packet.segment.Sound)
    (short : packet.segment.bytes.length ≤ Datagram.maxLength) :
    (run context Dns64.passthrough nextId packet buffer).verdict = .emitted n ↔
      (∃ plan kind, Planned context packet buffer.length plan kind) ∧
        n = 20 + packet.segment.bytes.length ∧ n ≤ Datagram.maxLength := by
  have all : ∀ plan kind, Planned context packet buffer.length plan kind →
      ToV4.plan context packet buffer.length = .ok plan ∧
        plan.segment.length = packet.segment.bytes.length :=
    fun _ _ planned => ⟨planned.plan_ok, planned.converted.length_eq⟩
  refine (translate_passthrough_iff (prepared whole short) all).trans ?_
  exact and_congr_right fun _ => and_congr_right fun total => by rw [total]; rfl

end Nat64Gateway.Nat64.ToV4
