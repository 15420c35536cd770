import Nat64Gateway.Proofs.Tunnel.Agreement

namespace Nat64Gateway

namespace Tunnel

-- The host's address is its own and not everyone's, and a node of the segment stands for it.
structure Home (context : Context) (host : Address.V4) (node : Address.V6) : Prop where
  address : context.host = some host
  stand_in : context.localV6 = some node
  single : context.isBroadcast host = false

section Arrival

variable {tunnel : Tunnel} {host : Address.V4} {node : Address.V6} {data room : Bytes}
  {outer : Packet.V4} {port : UInt16}

theorem destinationFor_home {context : Context} (home : Home context host node)
    (below : port < context.threshold) :
    Nat64.ToV6.destinationFor context host (some port) = .ok node := by
  have exempt : context.exempts port = true := decide_eq_true below
  unfold Nat64.ToV6.destinationFor
  simp [home.single, home.address, home.stand_in, exempt]

-- The header under which the host's packets reach its node.
def homeHeader (context : Context) (outer : Packet.V4) (node : Address.V6) : Packet.Header6 :=
  (Nat64.ToV6.planTo context outer node).header 0 outer.segment.bytes.length

theorem carries_homeHeader (context : Context) (node : Address.V6)
    (read : Packet.V4.read data = .ok outer) :
    (homeHeader context outer node).Carries outer.segment.kind outer.segment.bytes := by
  obtain ⟨_, sound, short⟩ := Packet.V4.segment_of_read read
  exact ⟨sound, rfl, rfl, short⟩

-- Whoever sent it, a packet to an exempt port of the host reaches the host's node.
theorem decapsulate_home (home : Home tunnel.context host node)
    (quiet : tunnel.hook = Dns64.passthrough) (read : Packet.V4.read data = .ok outer)
    (carries : outer.segment.kind = .udp ∨ outer.segment.kind = .tcp)
    (addressed : outer.destination = host) (found : outer.segment.destinationPort? = some port)
    (below : port < tunnel.context.threshold)
    (enough : 40 + outer.segment.bytes.length ≤ room.length) :
    (tunnel.decapsulate data room).verdict = .emitted (40 + outer.segment.bytes.length) ∧
      (tunnel.decapsulate data room).packet
        = ((homeHeader tunnel.context outer node).packet outer.segment.kind
            outer.segment.bytes).bytes := by
  have unframed : isFramed tunnel.context outer.segment = false := by
    have exempt : tunnel.context.exempts port = true := decide_eq_true below
    rw [isFramed_of_port found, exempt]
    rfl
  have decided : Nat64.ToV6.destinationFor tunnel.context outer.destination
      outer.segment.destinationPort? = .ok node := by
    rw [addressed, found]
    exact destinationFor_home home below
  exact decapsulate_planned quiet read unframed
    (Nat64.ToV6.planned_planTo carries enough decided)

end Arrival

theorem encapsulate_home {tunnel : Tunnel} {host peer : Address.V4} {node : Address.V6}
    {data buffer : Bytes} {original : Packet.V6} {kind : Segment.Kind} {n : Nat}
    {source destination : UInt16} (home : Home tunnel.context host node)
    (quiet : tunnel.hook = Dns64.passthrough) (read : Packet.V6.read data = .ok original)
    (ends : original.ends
      = ⟨kind, node, some source, tunnel.context.nat64.image peer, some destination⟩)
    (below : source < tunnel.context.threshold)
    (emitted : (tunnel.encapsulate data buffer).verdict = .emitted n) :
    n = 20 + original.segment.bytes.length ∧
      ∃ outer, Packet.V4.read (tunnel.encapsulate data buffer).packet = .ok outer ∧
        outer.ends = ⟨kind, host, some source, peer, some destination⟩ ∧
        outer.segment.Resealed original.segment ∧ outer.timeToLive = original.hopLimit := by
  have source_port : original.segment.sourcePort? = some source := congrArg (·.sourcePort) ends
  have destination_port : original.segment.destinationPort? = some destination :=
    congrArg (·.destinationPort) ends
  have receiver : original.destination = tunnel.context.nat64.image peer :=
    congrArg (·.destination) ends
  have named : original.segment.kind = kind := congrArg (·.kind) ends
  obtain ⟨total, header, crossing⟩ :=
    encapsulate_crossing home.address quiet read source_port receiver emitted below
  have read_outer := crossing.carries.read_packet
  rw [← crossing.packet] at read_outer
  refine ⟨total, _, read_outer, ?_, crossing.carries.resealed,
    (Packet.Header4.timeToLive_packet ..).trans crossing.timeToLive⟩
  rw [crossing.carries.ends_packet, crossing.source, crossing.destination, ← named]
  exact congrArg₂ (Packet.Ends.mk _ _ · _ ·) source_port destination_port

theorem decapsulate_reply {tunnel : Tunnel} {host peer : Address.V4} {node : Address.V6}
    {reply room : Bytes} {answer : Packet.V4} {kind : Segment.Kind}
    {source destination : UInt16} (home : Home tunnel.context host node)
    (quiet : tunnel.hook = Dns64.passthrough) (read : Packet.V4.read reply = .ok answer)
    (ends : answer.ends = ⟨kind, peer, some destination, host, some source⟩)
    (below : source < tunnel.context.threshold)
    (enough : 40 + answer.segment.bytes.length ≤ room.length) :
    (tunnel.decapsulate reply room).verdict = .emitted (40 + answer.segment.bytes.length) ∧
      ∃ restored, Packet.V6.read (tunnel.decapsulate reply room).packet = .ok restored ∧
        restored.ends
          = ⟨kind, tunnel.context.nat64.image peer, some destination, node, some source⟩ ∧
        restored.segment.Resealed answer.segment ∧ restored.hopLimit = answer.timeToLive := by
  have source_port : answer.segment.sourcePort? = some destination :=
    congrArg (·.sourcePort) ends
  have destination_port : answer.segment.destinationPort? = some source :=
    congrArg (·.destinationPort) ends
  have sender : answer.source = peer := congrArg (·.source) ends
  have receiver : answer.destination = host := congrArg (·.destination) ends
  have named : answer.segment.kind = kind := congrArg (·.kind) ends
  obtain ⟨verdict, packet⟩ := decapsulate_home home quiet read (kind_of_port source_port) receiver
    destination_port below enough
  have stands := carries_homeHeader tunnel.context node read
  have read_restored := stands.read_packet
  rw [← packet] at read_restored
  refine ⟨verdict, _, read_restored, ?_, stands.resealed, Packet.Header6.hopLimit_packet ..⟩
  rw [stands.ends_packet, ← named, ← sender, ← source_port, ← destination_port]
  rfl

-- Whatever the reply says, its ports and addresses alone bring it back to the node that asked.
theorem replies_return {tunnel : Tunnel} {host peer : Address.V4} {node : Address.V6}
    {data buffer : Bytes} {original : Packet.V6} {kind : Segment.Kind} {n : Nat}
    {source destination : UInt16} (home : Home tunnel.context host node)
    (quiet : tunnel.hook = Dns64.passthrough) (read : Packet.V6.read data = .ok original)
    (ends : original.ends
      = ⟨kind, node, some source, tunnel.context.nat64.image peer, some destination⟩)
    (below : source < tunnel.context.threshold)
    (emitted : (tunnel.encapsulate data buffer).verdict = .emitted n) :
    (n = 20 + original.segment.bytes.length ∧
      ∃ outer, Packet.V4.read (tunnel.encapsulate data buffer).packet = .ok outer ∧
        outer.ends = ⟨kind, host, some source, peer, some destination⟩ ∧
        outer.segment.Resealed original.segment ∧ outer.timeToLive = original.hopLimit) ∧
    ∀ (later : Tunnel) (reply room : Bytes) (answer : Packet.V4),
      later.context = tunnel.context → later.hook = Dns64.passthrough →
      Packet.V4.read reply = .ok answer →
      answer.ends = ⟨kind, peer, some destination, host, some source⟩ →
      40 + answer.segment.bytes.length ≤ room.length →
      (later.decapsulate reply room).verdict = .emitted (40 + answer.segment.bytes.length) ∧
        ∃ restored, Packet.V6.read (later.decapsulate reply room).packet = .ok restored ∧
          restored.ends = original.ends.reversed ∧
          restored.segment.Resealed answer.segment ∧
          restored.hopLimit = answer.timeToLive := by
  refine ⟨encapsulate_home home quiet read ends below emitted, ?_⟩
  intro later reply room answer same quiet_later read_answer answer_ends enough
  rw [← same] at home below ends
  rw [ends]
  exact decapsulate_reply home quiet_later read_answer answer_ends below enough

-- A node behind the gateway asks from a low port; the answer has IPv4 options.
def asking : Tunnel where
  context := { west.context with localV6 := some ⟨0xffff0a000002#128⟩ }

def replyWithOptions : Bytes :=
  [0x46, 0, 0, 35, 0, 1, 0, 0, 57, 17, 0, 0] ++ Address.V4.octets ⟨0xc6336401#32⟩
    ++ Address.V4.octets ⟨0x0a000002#32⟩ ++ [1, 1, 1, 0]
    ++ (Wire.encodeWord 5000 ++ Wire.encodeWord 123 ++ [0, 11, 0, 0, 0x6e, 0x74, 0x70])

theorem replies_return_past_options :
    ∃ restored,
      Packet.V6.read ((asking.after (asking.encapsulate (between 123 5000) blank)).decapsulate
        replyWithOptions blank).packet = .ok restored ∧
        restored.ends = (betweenRead 123 5000).ends.reversed := by
  have home : Home asking.context ⟨0x0a000002#32⟩ ⟨0xffff0a000002#128⟩ :=
    ⟨rfl, rfl, by decide⟩
  have read : Packet.V6.read (between 123 5000) = .ok (betweenRead 123 5000) := by rfl
  have ends : (betweenRead 123 5000).ends = ⟨.udp, ⟨0xffff0a000002#128⟩, some 123,
      asking.context.nat64.image ⟨0xc6336401#32⟩, some 5000⟩ := by rfl
  have emitted : (asking.encapsulate (between 123 5000) blank).verdict = .emitted 31 := by rfl
  have quiet : asking.hook = Dns64.passthrough := rfl
  obtain ⟨_, back⟩ := replies_return home quiet read ends (by decide) emitted
  obtain ⟨_, restored, read_restored, restored_ends, _⟩ :=
    back (asking.after (asking.encapsulate (between 123 5000) blank)) replyWithOptions blank
      ⟨replyWithOptions, ⟨.udp, replyWithOptions.drop 24⟩⟩ rfl rfl (by rfl) (by rfl) (by decide)
  exact ⟨restored, read_restored, restored_ends⟩

theorem homeHeader_crossing {near far : Tunnel} {here there : Address.V4} {original : Packet.V6}
    {header : Packet.Header4} {outcome : Outcome}
    (crossing : Crossing original here there header outcome)
    (shared : far.context.nat64 = near.context.nat64)
    (sender : original.source = near.context.nat64.image here)
    (receiver : original.destination = near.context.nat64.image there) :
    homeHeader far.context (header.packet original.segment.kind original.segment.bytes)
      (far.context.nat64.image there) = original.canonicalHeader := by
  have length : (header.packet original.segment.kind original.segment.bytes).segment.bytes.length
      = original.segment.bytes.length := crossing.carries.behind.length_sealed
  unfold homeHeader Nat64.ToV6.planTo Nat64.Plan.header Packet.V6.canonicalHeader
  simp only [length, Packet.Header4.timeToLive_packet, Packet.Header4.source_packet,
    crossing.timeToLive, crossing.source, shared, ← sender, ← receiver]
  rfl

theorem decapsulate_crossing {near far : Tunnel} {here there : Address.V4} {data room : Bytes}
    {original : Packet.V6} {header : Packet.Header4} {outcome : Outcome} {port : UInt16}
    (home : Home far.context there (far.context.nat64.image there))
    (shared : far.context.nat64 = near.context.nat64) (quiet : far.hook = Dns64.passthrough)
    (read : Packet.V6.read data = .ok original)
    (crossing : Crossing original here there header outcome)
    (sender : original.source = near.context.nat64.image here)
    (receiver : original.destination = near.context.nat64.image there)
    (carries : original.segment.kind = .udp ∨ original.segment.kind = .tcp)
    (found : original.segment.destinationPort? = some port) (below : port < far.context.threshold)
    (enough : 40 + original.segment.bytes.length ≤ room.length) :
    (far.decapsulate outcome.packet room).verdict
        = .emitted (40 + original.segment.bytes.length) ∧
      (far.decapsulate outcome.packet room).packet = original.canonical := by
  have read_outer := crossing.carries.read_packet
  rw [← crossing.packet] at read_outer
  have length : (header.packet original.segment.kind original.segment.bytes).segment.bytes.length
      = original.segment.bytes.length := crossing.carries.behind.length_sealed
  have room_outer : 40 + (header.packet original.segment.kind
      original.segment.bytes).segment.bytes.length ≤ room.length := by
    rw [length]
    exact enough
  obtain ⟨verdict, packet⟩ := decapsulate_home home quiet read_outer carries
    ((Packet.Header4.destination_packet ..).trans crossing.destination)
    (crossing.carries.destinationPort?_packet.trans found) below room_outer
  rw [length] at verdict
  rw [homeHeader_crossing crossing shared sender receiver] at packet
  refine ⟨verdict, packet.trans ?_⟩
  rw [Packet.V6.canonical_eq read]
  exact congrArg (original.canonicalHeader.encode ++ ·)
    (sealedSegment_packet crossing.carries original.canonicalHeader.encode)

-- Between two gateways with one prefix, ports below both thresholds cross and come back.
theorem plain_roundTrip {near far : Tunnel} {here there : Address.V4} {data buffer room : Bytes}
    {original : Packet.V6} {kind : Segment.Kind} {n : Nat} {source destination : UInt16}
    (known : near.context.host = some here)
    (home : Home far.context there (far.context.nat64.image there))
    (shared : far.context.nat64 = near.context.nat64)
    (quiet : near.hook = Dns64.passthrough) (quiet_far : far.hook = Dns64.passthrough)
    (read : Packet.V6.read data = .ok original)
    (ends : original.ends = ⟨kind, near.context.nat64.image here, some source,
      near.context.nat64.image there, some destination⟩)
    (below : source < near.context.threshold) (below_far : destination < far.context.threshold)
    (emitted : (near.encapsulate data buffer).verdict = .emitted n)
    (enough : 40 + original.segment.bytes.length ≤ room.length) :
    (far.decapsulate (near.encapsulate data buffer).packet room).verdict
        = .emitted (40 + original.segment.bytes.length) ∧
      (far.decapsulate (near.encapsulate data buffer).packet room).packet = original.canonical ∧
      ∃ restored, Packet.V6.read original.canonical = .ok restored ∧
        Packet.V6.Plain original.canonical restored ∧ restored.ends = original.ends ∧
        restored.segment.Resealed original.segment ∧ restored.hopLimit = original.hopLimit := by
  have source_port : original.segment.sourcePort? = some source := congrArg (·.sourcePort) ends
  have destination_port : original.segment.destinationPort? = some destination :=
    congrArg (·.destinationPort) ends
  have sender : original.source = near.context.nat64.image here := congrArg (·.source) ends
  have receiver : original.destination = near.context.nat64.image there :=
    congrArg (·.destination) ends
  obtain ⟨_, header, crossing⟩ :=
    encapsulate_crossing known quiet read source_port receiver emitted below
  obtain ⟨verdict, packet⟩ := decapsulate_crossing home shared quiet_far read crossing sender
    receiver (kind_of_port source_port) destination_port below_far enough
  exact ⟨verdict, packet, Packet.V6.restates_canonical read⟩

theorem plain_roundTrip_west_east :
    (east.decapsulate (west.encapsulate (between 123 53) blank).packet blank).packet
      = (betweenRead 123 53).canonical := by
  have home : Home east.context ⟨0xc6336401#32⟩
      (east.context.nat64.image ⟨0xc6336401#32⟩) := ⟨rfl, by decide, by decide⟩
  have read : Packet.V6.read (between 123 53) = .ok (betweenRead 123 53) := by rfl
  have ends : (betweenRead 123 53).ends = ⟨.udp, west.context.nat64.image ⟨0x0a000002#32⟩,
      some 123, west.context.nat64.image ⟨0xc6336401#32⟩, some 53⟩ := by rfl
  have emitted : (west.encapsulate (between 123 53) blank).verdict = .emitted 31 := by rfl
  have known : west.context.host = some ⟨0x0a000002#32⟩ := rfl
  have shared : east.context.nat64 = west.context.nat64 := rfl
  have quiet : west.hook = Dns64.passthrough := rfl
  have quiet_far : east.hook = Dns64.passthrough := rfl
  have enough : 40 + (betweenRead 123 53).segment.bytes.length ≤ blank.length := by decide
  obtain ⟨_, packet, _⟩ := plain_roundTrip known home shared quiet quiet_far read ends
    (by decide) (by decide) emitted enough
  exact packet

end Tunnel
end Nat64Gateway
