import Nat64Gateway.Nat64.ToV6
import Nat64Gateway.Proofs.Nat64.Translation

namespace Nat64Gateway.Nat64.ToV6

theorem destinationFor_eq_ok {context : Context} {destination : Address.V4}
    {port? : Option UInt16} {node : Address.V6}
    (decided : destinationFor context destination port? = .ok node) :
    (context.isBroadcast destination = true ∧ node = .allNodes) ∨
      (context.isBroadcast destination = false ∧ context.host = some destination ∧
        if port?.any fun port => !context.exempts port then node = context.nat64.image destination
        else context.localV6 = some node) := by
  unfold destinationFor at decided
  cases everyone : context.isBroadcast destination with
  | true =>
    rw [everyone, if_pos rfl] at decided
    exact .inl ⟨rfl, (Except.ok.inj decided).symm⟩
  | false =>
    rw [everyone, if_neg Bool.false_ne_true] at decided
    cases known : context.host with
    | none => simp [known] at decided
    | some host =>
      simp only [known] at decided
      obtain ⟨reached, decided⟩ := passed_iff.mp decided
      cases Decidable.not_not.mp reached
      refine .inr ⟨rfl, rfl, ?_⟩
      split at decided
      · rename_i relayed
        rw [if_pos relayed]
        exact (Except.ok.inj decided).symm
      · rename_i exempt
        rw [if_neg exempt]
        cases found : context.localV6 with
        | none => simp [found] at decided
        | some address =>
          rw [found] at decided
          exact congrArg some (Except.ok.inj decided)

structure Planned (context : Context) (packet : Packet.V4) (capacity : Nat) (plan : Plan .v6)
    (kind : Segment.Kind) : Prop where
  named : kind.protocol = plan.protocol
  converted : Converted .v4 packet.segment kind plan.segment
  room : 40 + plan.segment.length ≤ capacity
  source : plan.source = context.nat64.image packet.source
  destination : destinationFor context packet.destination packet.segment.destinationPort?
    = .ok plan.destination
  message : plan.message = if isResponse packet.segment then some .response else none
  hops : plan.hops = packet.timeToLive

theorem plan_eq_ok {context : Context} {packet : Packet.V4} {capacity : Nat} {result : Plan .v6}
    (planned : plan context packet capacity = .ok result) :
    ∃ kind, Planned context packet capacity result kind := by
  unfold plan at planned
  simp only [bind, Except.bind] at planned
  cases converted : convert .v4 packet.segment with
  | error cause =>
    rw [converted] at planned
    cases planned
  | ok pair =>
    obtain ⟨protocol, segment⟩ := pair
    obtain ⟨kind, named, shape⟩ := convert_eq_ok.mp converted
    rw [converted] at planned
    obtain ⟨room, planned⟩ := passed_iff.mp planned
    cases destination :
        destinationFor context packet.destination packet.segment.destinationPort? with
    | error cause => simp [destination] at planned
    | ok address =>
      simp only [destination] at planned
      cases planned
      exact ⟨kind, named, shape, Nat.not_lt.mp room, rfl, destination, rfl, rfl⟩

theorem Planned.plan_ok {context : Context} {packet : Packet.V4} {capacity : Nat} {result : Plan .v6}
    {kind : Segment.Kind} (planned : Planned context packet capacity result kind) :
    plan context packet capacity = .ok result := by
  have converted := convert_eq_ok.mpr ⟨kind, planned.named, planned.converted⟩
  obtain ⟨protocol, segment, message, hops, source, destination⟩ := result
  obtain ⟨_, _, room, rfl, decided, rfl, rfl⟩ := planned
  unfold plan
  simp only [bind, Except.bind, converted]
  rw [if_neg (Nat.not_lt.mpr room)]
  simp only [decided]

theorem Planned.ready {context : Context} {packet : Packet.V4} {capacity : Nat} {plan : Plan .v6}
    {kind : Segment.Kind} (planned : Planned context packet capacity plan kind)
    (whole : packet.segment.Sound) (short : packet.segment.bytes.length ≤ Datagram.maxLength) :
    plan.Ready kind capacity :=
  planned.converted.ready whole short planned.named planned.message planned.room

theorem prepared {context : Context} {packet : Packet.V4} {capacity : Nat}
    (whole : packet.segment.Sound) (short : packet.segment.bytes.length ≤ Datagram.maxLength) :
    Prepared (plan context packet capacity) (Planned context packet capacity) capacity := by
  intro result decided
  obtain ⟨kind, planned⟩ := plan_eq_ok decided
  exact ⟨kind, planned, planned.ready whole short⟩

def planTo (context : Context) (packet : Packet.V4) (node : Address.V6) :
    Plan .v6 where
  protocol := packet.segment.protocol
  segment := packet.segment.bytes
  message := if isResponse packet.segment then some .response else none
  hops := packet.timeToLive
  source := context.nat64.image packet.source
  destination := node

theorem planned_planTo {context : Context} {packet : Packet.V4} {capacity : Nat}
    {node : Address.V6} (carries : packet.segment.kind = .udp ∨ packet.segment.kind = .tcp)
    (room : 40 + packet.segment.bytes.length ≤ capacity)
    (decided : destinationFor context packet.destination packet.segment.destinationPort?
      = .ok node) :
    Planned context packet capacity (planTo context packet node) packet.segment.kind :=
  ⟨rfl, .of_ports carries, room, rfl, decided, rfl, rfl⟩

theorem run_emitted {context : Context} {hook : Dns64.Hook} {nextId : UInt16}
    {packet : Packet.V4} {buffer : Bytes} {n : Nat} (whole : packet.segment.Sound)
    (short : packet.segment.bytes.length ≤ Datagram.maxLength)
    (emitted : (run context hook nextId packet buffer).verdict = .emitted n) :
    ∃ plan kind length, Planned context packet buffer.length plan kind ∧ n = 40 + length ∧
      plan.Emission kind hook nextId buffer (run context hook nextId packet buffer) length :=
  translate_emission (prepared whole short) emitted

theorem run_planned {context : Context} (nextId : UInt16) {packet : Packet.V4} {buffer : Bytes}
    {result : Plan .v6} {kind : Segment.Kind} (whole : packet.segment.Sound)
    (short : packet.segment.bytes.length ≤ Datagram.maxLength)
    (planned : Planned context packet buffer.length result kind) :
    (run context Dns64.passthrough nextId packet buffer).verdict
        = .emitted (40 + result.segment.length) ∧
      (run context Dns64.passthrough nextId packet buffer).packet
        = (Packet.Header6.packet (result.header nextId result.segment.length) kind
            result.segment).bytes := by
  have ready := planned.ready whole short
  have fits : Family.v6.counted + result.segment.length ≤ Datagram.maxLength :=
    (Nat.zero_add _).symm ▸ ready.short
  unfold run
  rw [planned.plan_ok]
  exact ⟨(Plan.emit_passthrough_iff ready).mpr ⟨rfl, fits⟩,
    Plan.packet_passthrough ready nextId fits⟩

theorem run_passthrough_iff {context : Context} {nextId : UInt16} {packet : Packet.V4}
    {buffer : Bytes} {n : Nat} (whole : packet.segment.Sound)
    (short : packet.segment.bytes.length ≤ Datagram.maxLength) :
    (run context Dns64.passthrough nextId packet buffer).verdict = .emitted n ↔
      (∃ plan kind, Planned context packet buffer.length plan kind) ∧
        n = 40 + packet.segment.bytes.length := by
  have all : ∀ plan kind, Planned context packet buffer.length plan kind →
      ToV6.plan context packet buffer.length = .ok plan ∧
        plan.segment.length = packet.segment.bytes.length :=
    fun _ _ planned => ⟨planned.plan_ok, planned.converted.length_eq⟩
  refine (translate_passthrough_iff (prepared whole short) all).trans ?_
  exact and_congr_right fun _ => and_iff_left ((Nat.zero_add _).symm ▸ short)

-- For a port that is not relayed, and for a message that has none.
theorem destinationFor_iff {context : Context} {destination : Address.V4}
    {port? : Option UInt16}
    (exempt : port?.any (fun port => !context.exempts port) = false) :
    (∃ node, destinationFor context destination port? = .ok node) ↔
      context.isBroadcast destination = true ∨
        context.host = some destination ∧ context.localV6.isSome := by
  constructor
  · rintro ⟨node, decided⟩
    rcases destinationFor_eq_ok decided with ⟨everyone, _⟩ | ⟨_, reached, found⟩
    · exact .inl everyone
    · rw [exempt, if_neg Bool.false_ne_true] at found
      exact .inr ⟨reached, Option.isSome_iff_exists.mpr ⟨node, found⟩⟩
  · intro receiver
    unfold destinationFor
    cases everyone : context.isBroadcast destination with
    | true => exact ⟨.allNodes, if_pos rfl⟩
    | false =>
      obtain ⟨reached, known⟩ := receiver.resolve_left (by rw [everyone]; decide)
      obtain ⟨node, found⟩ := Option.isSome_iff_exists.mp known
      refine ⟨node, ?_⟩
      rw [if_neg Bool.false_ne_true, reached, exempt, found]
      simp

theorem exists_planned_iff {context : Context} {packet : Packet.V4} {capacity : Nat} :
    (∃ plan kind, Planned context packet capacity plan kind) ↔
      (∃ kind bytes, Converted .v4 packet.segment kind bytes) ∧
        40 + packet.segment.bytes.length ≤ capacity ∧
        ∃ node, destinationFor context packet.destination packet.segment.destinationPort?
          = .ok node := by
  constructor
  · rintro ⟨plan, kind, planned⟩
    exact ⟨⟨kind, _, planned.converted⟩, planned.converted.length_eq ▸ planned.room,
      ⟨_, planned.destination⟩⟩
  · rintro ⟨⟨kind, bytes, converted⟩, room, node, decided⟩
    refine ⟨{
      protocol := kind.protocol
      segment := bytes
      message := if isResponse packet.segment then some .response else none
      hops := packet.timeToLive
      source := context.nat64.image packet.source
      destination := node }, kind, rfl, converted, ?_, rfl, decided, rfl, rfl⟩
    rw [converted.length_eq]
    exact room

end Nat64Gateway.Nat64.ToV6
