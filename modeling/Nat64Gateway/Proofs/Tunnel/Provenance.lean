import Nat64Gateway.Proofs.Tunnel.Agreement

namespace Nat64Gateway.Tunnel

structure FromPeer (context : Context) (outer : Packet.V4) : Prop where
  kind : outer.segment.kind = .udp
  relayed : ∃ port, outer.segment.destinationPort? = some port ∧ context.threshold ≤ port
  source : outer.source = context.remote.address
  sourcePort : outer.segment.sourcePort? = some context.remote.port

structure NamedByHeader (context : Context) (outer : Packet.V4) (restored : Packet.V6) :
    Prop where
  source : restored.source = context.nat64.image outer.source
  broadcast : context.isBroadcast outer.destination = true → restored.destination = .allNodes
  unicast : context.isBroadcast outer.destination = false →
    context.localV6 = some restored.destination
  sourcePort : restored.segment.sourcePort? = outer.segment.sourcePort?
  destinationPort : restored.segment.destinationPort? = outer.segment.destinationPort?

theorem isFramed_iff {context : Context} {segment : Segment} :
    isFramed context segment = true ↔
      ∃ port, segment.destinationPort? = some port ∧ context.threshold ≤ port := by
  unfold isFramed Context.exempts
  cases segment.destinationPort? with
  | none => simp
  | some port => simp

theorem fromPeer_iff {context : Context} {outer : Packet.V4} :
    FromPeer context outer ↔
      isFramed context outer.segment = true ∧ checkPeer context outer = .ok () := by
  constructor
  · intro peer
    exact ⟨isFramed_iff.mpr peer.relayed,
      checkPeer_eq_ok.mpr ⟨peer.kind, peer.source, peer.sourcePort⟩⟩
  · rintro ⟨framed, checked⟩
    obtain ⟨kind, source, sourcePort⟩ := checkPeer_eq_ok.mp checked
    exact ⟨kind, isFramed_iff.mp framed, source, sourcePort⟩

theorem named_of_planned {context : Context} {outer : Packet.V4} {buffer : Bytes}
    {plan : Nat64.Plan .v6} {kind : Segment.Kind} {hook : Dns64.Hook} {nextId : UInt16}
    {outcome : Outcome} {length : Nat} (unframed : isFramed context outer.segment = false)
    (planned : Nat64.ToV6.Planned context outer buffer.length plan kind)
    (emission : plan.Emission kind hook nextId buffer outcome length) :
    NamedByHeader context outer
      ((plan.header nextId length).packet kind (plan.taken hook buffer length)) := by
  have source := Packet.Header6.source_packet (plan.header nextId length) kind
    (plan.taken hook buffer length)
  have destination := Packet.Header6.destination_packet (plan.header nextId length) kind
    (plan.taken hook buffer length)
  obtain ⟨placed_source, placed_destination⟩ := emission.placed.same_ports
  obtain ⟨same_source, same_destination⟩ := planned.converted.same_ports
  refine ⟨source.trans planned.source, ?_, ?_, ?_, ?_⟩
  · intro everyone
    rcases Nat64.ToV6.destinationFor_eq_ok planned.destination with ⟨_, all⟩ | ⟨single, _⟩
    · exact destination.trans all
    · rw [everyone] at single
      cases single
  · intro single
    rcases Nat64.ToV6.destinationFor_eq_ok planned.destination with ⟨everyone, _⟩ | ⟨_, _, node⟩
    · rw [single] at everyone
      cases everyone
    · -- A port beyond the threshold would have made the packet a framed one.
      unfold isFramed at unframed
      rw [unframed, if_neg Bool.false_ne_true] at node
      exact node.trans (congrArg some destination.symm)
  · exact emission.carries.sourcePort?_packet.trans (placed_source.trans same_source)
  · exact emission.carries.destinationPort?_packet.trans
      (placed_destination.trans same_destination)

theorem named_of_outsider {tunnel : Tunnel} {data buffer : Bytes} {outer : Packet.V4} {n : Nat}
    (read : Packet.V4.read data = .ok outer) (outsider : ¬ FromPeer tunnel.context outer)
    (emitted : (tunnel.decapsulate data buffer).verdict = .emitted n) :
    ∃ restored, Packet.V6.read (tunnel.decapsulate data buffer).packet = .ok restored ∧
      NamedByHeader tunnel.context outer restored := by
  obtain ⟨same_outer, same_read, form⟩ := decapsulate_emitted emitted
  cases Except.ok.inj (read.symm.trans same_read)
  cases form with
  | framed framed peer => exact absurd (fromPeer_iff.mpr ⟨framed, peer⟩) outsider
  | plain unframed same =>
    obtain ⟨_, sound, short⟩ := Packet.V4.segment_of_read read
    rw [same] at emitted ⊢
    obtain ⟨plan, kind, length, planned, _, emission⟩ :=
      Nat64.ToV6.run_emitted sound short emitted
    exact ⟨_, emission.read_v6, named_of_planned unframed planned emission⟩

-- A plain packet keeps its source port, which is too low for the port of a tunnel.
theorem plain_not_fromPeer {near far : Tunnel} {data buffer : Bytes} {original : Packet.V6}
    {n : Nat} (remote : far.context.remote.port = near.context.localPort)
    (local_port : near.context.threshold ≤ near.context.localPort)
    (read : Packet.V6.read data = .ok original)
    (bypass : bypasses near.context original.segment = true)
    (emitted : (near.encapsulate data buffer).verdict = .emitted n) :
    ∃ outer, Packet.V4.read (near.encapsulate data buffer).packet = .ok outer ∧
      ¬ FromPeer far.context outer := by
  obtain ⟨_, sound, short, _⟩ := Packet.V6.segment_of_read read
  rw [encapsulate_plain read bypass] at emitted ⊢
  obtain ⟨plan, kind, length, planned, _, emission⟩ :=
    Nat64.ToV4.run_emitted sound short emitted
  have source_port := emission.carries.sourcePort?_packet.trans
    (emission.placed.same_ports.1.trans planned.converted.same_ports.1)
  refine ⟨_, emission.read_v4, ?_⟩
  intro peer
  have same := source_port.symm.trans peer.sourcePort
  rw [bypasses_of_port same, remote] at bypass
  exact UInt16.not_lt.mpr local_port (of_decide_eq_true bypass)

-- An outsider may be heard but not speak for others, and a peer's plain packet counts as one.
theorem only_peer_names_ends (tunnel : Tunnel) (data buffer : Bytes) :
    (∀ outer n, Packet.V4.read data = .ok outer → ¬ FromPeer tunnel.context outer →
      (tunnel.decapsulate data buffer).verdict = .emitted n →
        ∃ restored, Packet.V6.read (tunnel.decapsulate data buffer).packet = .ok restored ∧
          NamedByHeader tunnel.context outer restored) ∧
    (∀ (near : Tunnel) (inner room : Bytes) (original : Packet.V6) (m : Nat),
      tunnel.context.remote.port = near.context.localPort →
      near.context.threshold ≤ near.context.localPort →
      Packet.V6.read inner = .ok original → bypasses near.context original.segment = true →
      (near.encapsulate inner room).verdict = .emitted m →
        ∃ outer, Packet.V4.read (near.encapsulate inner room).packet = .ok outer ∧
          ¬ FromPeer tunnel.context outer) := by
  refine ⟨?_, ?_⟩
  · intro outer n read outsider emitted
    exact named_of_outsider read outsider emitted
  · intro near inner room original m remote local_port read bypass emitted
    exact plain_not_fromPeer remote local_port read bypass emitted

theorem only_peer_names_ends_west_east :
    ∃ outer restored,
      Packet.V4.read (west.encapsulate (between 123 123) blank).packet = .ok outer ∧
        ¬ FromPeer east.context outer ∧
        Packet.V6.read
            (east.decapsulate (west.encapsulate (between 123 123) blank).packet blank).packet
          = .ok restored ∧
        NamedByHeader east.context outer restored := by
  obtain ⟨named, never⟩ :=
    only_peer_names_ends east (west.encapsulate (between 123 123) blank).packet blank
  have read : Packet.V6.read (between 123 123) = .ok (betweenRead 123 123) := by rfl
  have bypass : bypasses west.context (betweenRead 123 123).segment = true := by rfl
  have emitted : (west.encapsulate (between 123 123) blank).verdict = .emitted 31 := by rfl
  obtain ⟨outer, read_outer, outsider⟩ :=
    never west (between 123 123) blank _ 31 rfl (by decide) read bypass emitted
  have translated :
      (east.decapsulate (west.encapsulate (between 123 123) blank).packet blank).verdict
        = .emitted 51 := by rfl
  obtain ⟨restored, read_restored, ends⟩ := named outer 51 read_outer outsider translated
  exact ⟨outer, restored, read_outer, outsider, read_restored, ends⟩

end Nat64Gateway.Tunnel
