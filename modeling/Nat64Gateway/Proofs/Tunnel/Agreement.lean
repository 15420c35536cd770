import Nat64Gateway.Proofs.Prefix
import Nat64Gateway.Proofs.Tunnel.RoundTrip

namespace Nat64Gateway.Tunnel

structure Mirrored (near far : Tunnel) (here there : Address.V4) : Prop where
  host : near.context.host = some here
  host_far : far.context.host = some there
  remote : near.context.remote = ⟨there, far.context.localPort⟩
  remote_far : far.context.remote = ⟨here, near.context.localPort⟩
  threshold : far.context.threshold = near.context.threshold
  portOrder : far.context.portOrder = near.context.portOrder
  nat64 : far.context.nat64 = near.context.nat64
  local_port : near.context.threshold ≤ near.context.localPort
  local_port_far : near.context.threshold ≤ far.context.localPort
  node : far.context.localV6 = some (far.context.nat64.image there)
  apart : far.context.subnetBroadcast? ≠ some there
  quiet : near.hook = Dns64.passthrough
  quiet_far : far.hook = Dns64.passthrough

theorem Mirrored.paired {near far : Tunnel} {here there : Address.V4}
    (mirrored : Mirrored near far here there) : Paired near far here := by
  refine ⟨mirrored.remote_far, ?_, mirrored.portOrder⟩
  rw [mirrored.threshold, mirrored.remote]
  exact mirrored.local_port_far

-- Both ends draw the line at the same port.
theorem Mirrored.exempts_far {near far : Tunnel} {here there : Address.V4}
    (mirrored : Mirrored near far here there) (port : UInt16) :
    far.context.exempts port = decide (port < near.context.threshold) := by
  unfold Context.exempts
  rw [mirrored.threshold]

section Ports

variable {context : Context} {segment : Segment} {port : UInt16}

theorem bypasses_of_port (found : segment.sourcePort? = some port) :
    bypasses context segment = decide (port < context.threshold) := by
  unfold bypasses
  rw [found]
  rfl

theorem isFramed_of_port (found : segment.destinationPort? = some port) :
    isFramed context segment = !context.exempts port := by
  unfold isFramed
  rw [found]
  rfl

theorem kind_of_port (found : segment.sourcePort? = some port) :
    segment.kind = .udp ∨ segment.kind = .tcp := by
  obtain ⟨kind, bytes⟩ := segment
  cases kind with
  | udp => exact .inl rfl
  | tcp => exact .inr rfl
  | icmp => cases found

end Ports

structure Crossing (original : Packet.V6) (here there : Address.V4) (header : Packet.Header4)
    (outcome : Outcome) : Prop where
  carries : header.Carries original.segment.kind original.segment.bytes
  source : header.source = here
  destination : header.destination = there
  timeToLive : header.timeToLive = original.hopLimit
  packet : outcome.packet
    = (header.packet original.segment.kind original.segment.bytes).bytes

theorem plainOut_crossing {near : Tunnel} {here there : Address.V4} {data buffer : Bytes}
    {original : Packet.V6} {n : Nat} (known : near.context.host = some here)
    (quiet : near.hook = Dns64.passthrough) (read : Packet.V6.read data = .ok original)
    (carries : original.segment.kind = .udp ∨ original.segment.kind = .tcp)
    (destination : original.destination = near.context.nat64.image there)
    (emitted : (near.plainOut original buffer).verdict = .emitted n) :
    n = 20 + original.segment.bytes.length ∧
      ∃ header, Crossing original here there header (near.plainOut original buffer) := by
  obtain ⟨plan, kind, planned, total, stands, packet⟩ := plainOut_passthrough quiet read emitted
  obtain ⟨rfl, same⟩ := planned.converted.same_of_ports carries
  have reached := planned.destination
  rw [destination, Prefix.embedded?_image] at reached
  have sender := Nat64.ToV4.sourceFor_eq_ok planned.source
  rw [known] at sender
  rw [same] at stands packet
  exact ⟨total, _, stands, sender, (Option.some.inj reached).symm, planned.hops, packet⟩

-- What a host behind the far end is told about a plain packet, if it is told at all.
def toNode (far : Tunnel) (original : Packet.V6) (there : Address.V4) : Packet.Header6 where
  payloadLength := original.segment.bytes.length
  protocol := original.segment.protocol
  hopLimit := original.hopLimit
  source := original.source
  destination :=
    if there = .limitedBroadcast then .allNodes else far.context.nat64.image there

-- The checksum that the segment crossed with does not show in the one it arrives with.
theorem sealedSegment_packet {header : Packet.Header4} {kind : Segment.Kind} {segment : Bytes}
    (carries : header.Carries kind segment) (front : Bytes) :
    Checksum.sealedSegment .v6 front kind.protocol (header.packet kind segment).segment.bytes
      = Checksum.sealedSegment .v6 front kind.protocol segment := by
  have room := carries.behind.room
  unfold Packet.Header4.packet
  rw [← carries.named] at room ⊢
  exact Checksum.sealedSegment_overwrite (Wire.length_encode ..) room

section Far

variable {near far : Tunnel} {here there : Address.V4} {original : Packet.V6}
  {header : Packet.Header4} {outcome : Outcome} {source destination : UInt16}

theorem checkPeer_crossing (mirrored : Mirrored near far here there)
    (crossing : Crossing original here there header outcome)
    (source_port : original.segment.sourcePort? = some source)
    (below : source < near.context.threshold) :
    checkPeer far.context (header.packet original.segment.kind original.segment.bytes)
      = .error (if original.segment.kind = .udp then .peerPort else .carrierNotUdp) := by
  have address : (header.packet original.segment.kind original.segment.bytes).source
      = far.context.remote.address := by
    rw [Packet.Header4.source_packet, crossing.source, mirrored.remote_far]
  have port : (header.packet original.segment.kind original.segment.bytes).segment.sourcePort?
      ≠ some far.context.remote.port := by
    rw [crossing.carries.sourcePort?_packet.trans source_port, mirrored.remote_far]
    intro same
    cases same
    exact UInt16.not_lt.mpr mirrored.local_port below
  have kind : (header.packet original.segment.kind original.segment.bytes).segment.kind
      = original.segment.kind := rfl
  unfold checkPeer
  rw [kind]
  by_cases udp : original.segment.kind = .udp
  · rw [if_neg (not_not_intro udp), if_neg (not_not_intro address), if_pos port, if_pos udp]
  · rw [if_pos udp, if_neg udp]

theorem crossing_refused (mirrored : Mirrored near far here there)
    (crossing : Crossing original here there header outcome)
    (source_port : original.segment.sourcePort? = some source)
    (destination_port : original.segment.destinationPort? = some destination)
    (below : source < near.context.threshold) (above : near.context.threshold ≤ destination)
    (room : Bytes) :
    (far.decapsulate outcome.packet room).verdict
      = .dropped (if original.segment.kind = .udp then .peerPort else .carrierNotUdp) := by
  have read := crossing.carries.read_packet
  rw [← crossing.packet] at read
  have framed : isFramed far.context
      (header.packet original.segment.kind original.segment.bytes).segment = true := by
    rw [isFramed_of_port (crossing.carries.destinationPort?_packet.trans destination_port),
      mirrored.exempts_far, decide_eq_false (UInt16.not_lt.mpr above)]
    rfl
  unfold decapsulate unframe
  simp only [read, framed, if_true, checkPeer_crossing mirrored crossing source_port below]
  rfl

theorem destinationFor_host (mirrored : Mirrored near far here there)
    (below : destination < near.context.threshold) :
    Nat64.ToV6.destinationFor far.context there (some destination)
      = .ok (if there = .limitedBroadcast then .allNodes else far.context.nat64.image there) := by
  have local_port := (mirrored.exempts_far destination).trans (decide_eq_true below)
  unfold Nat64.ToV6.destinationFor Context.isBroadcast
  by_cases limited : there = .limitedBroadcast
  · rw [if_pos limited, if_pos (by simp [limited])]
  · rw [if_neg limited, if_neg (by simp [limited, mirrored.apart])]
    simp [mirrored.host_far, mirrored.node, local_port]

def arrival (far : Tunnel) (outer : Packet.V4) (there : Address.V4) :
    Nat64.Plan .v6 where
  protocol := outer.segment.protocol
  segment := outer.segment.bytes
  message := if Nat64.ToV6.isResponse outer.segment then some .response else none
  hops := outer.timeToLive
  source := far.context.nat64.image outer.source
  destination :=
    if there = .limitedBroadcast then .allNodes else far.context.nat64.image there

theorem planned_arrival (mirrored : Mirrored near far here there)
    (crossing : Crossing original here there header outcome)
    (carries : original.segment.kind = .udp ∨ original.segment.kind = .tcp)
    (destination_port : original.segment.destinationPort? = some destination)
    (below : destination < near.context.threshold) {capacity : Nat}
    (enough : 40 + original.segment.bytes.length ≤ capacity) :
    Nat64.ToV6.Planned far.context
      (header.packet original.segment.kind original.segment.bytes) capacity
      (arrival far (header.packet original.segment.kind original.segment.bytes) there)
      original.segment.kind := by
  refine Nat64.ToV6.planned_planTo carries ?_ ?_
  · exact Nat.le_trans (Nat.le_of_eq (congrArg (40 + ·) crossing.carries.behind.length_sealed)) enough
  · rw [Packet.Header4.destination_packet, crossing.destination,
      crossing.carries.destinationPort?_packet.trans destination_port]
    exact destinationFor_host mirrored below

theorem header_arrival (mirrored : Mirrored near far here there)
    (crossing : Crossing original here there header outcome)
    (sender : original.source = near.context.nat64.image here) :
    (arrival far (header.packet original.segment.kind original.segment.bytes) there).header
      far.nextId original.segment.bytes.length = toNode far original there := by
  unfold arrival Nat64.Plan.header toNode
  rw [Packet.Header4.timeToLive_packet, Packet.Header4.source_packet, crossing.timeToLive,
    crossing.source, sender, mirrored.nat64]
  rfl

theorem crossing_translated (mirrored : Mirrored near far here there)
    (crossing : Crossing original here there header outcome)
    (carries : original.segment.kind = .udp ∨ original.segment.kind = .tcp)
    (destination_port : original.segment.destinationPort? = some destination)
    (sender : original.source = near.context.nat64.image here)
    (below : destination < near.context.threshold) {room : Bytes}
    (enough : 40 + original.segment.bytes.length ≤ room.length) :
    (far.decapsulate outcome.packet room).verdict
        = .emitted (40 + original.segment.bytes.length) ∧
      (far.decapsulate outcome.packet room).packet
        = ((toNode far original there).packet original.segment.kind original.segment.bytes).bytes := by
  have read := crossing.carries.read_packet
  rw [← crossing.packet] at read
  have unframed : isFramed far.context
      (header.packet original.segment.kind original.segment.bytes).segment = false := by
    rw [isFramed_of_port (crossing.carries.destinationPort?_packet.trans destination_port),
      mirrored.exempts_far, decide_eq_true below]
    rfl
  obtain ⟨verdict, packet⟩ := decapsulate_planned mirrored.quiet_far read unframed
    (planned_arrival mirrored crossing carries destination_port below enough)
  have size : (arrival far (header.packet original.segment.kind original.segment.bytes)
      there).segment.length = original.segment.bytes.length := crossing.carries.behind.length_sealed
  rw [size] at verdict packet
  rw [header_arrival mirrored crossing sender] at packet
  refine ⟨verdict, packet.trans ?_⟩
  exact congrArg ((toNode far original there).encode ++ ·)
    (sealedSegment_packet crossing.carries (toNode far original there).encode)

end Far

-- All nodes are no image of the limited broadcast: the one ends in ones, the other does not.
theorem image_limitedBroadcast_ne (block : Prefix) :
    block.image .limitedBroadcast ≠ .allNodes := by
  intro same
  have bits := congrArg (fun address : Address.V6 => address.bits.toNat % 2 ^ 32) same
  simp only [Prefix.toNat_image] at bits
  have ones : Address.V4.limitedBroadcast.bits.toNat = 4294967295 := by decide
  have link : Address.V6.allNodes.bits.toNat % 2 ^ 32 = 1 := by decide
  rw [ones, link] at bits
  omega

-- The host is told what the canonical form says, unless it goes by the address of everyone.
theorem toNode_packet_eq_canonical {near far : Tunnel} {here there : Address.V4} {data : Bytes}
    {original : Packet.V6} (mirrored : Mirrored near far here there)
    (read : Packet.V6.read data = .ok original)
    (receiver : original.destination = near.context.nat64.image there) :
    ((toNode far original there).packet original.segment.kind original.segment.bytes).bytes
        = original.canonical ↔ there ≠ .limitedBroadcast := by
  have canonical := Packet.V6.canonical_eq_packet read
  constructor
  · intro same limited
    obtain ⟨_, sound, short, _⟩ := Packet.V6.segment_of_read read
    have carries : (toNode far original there).Carries original.segment.kind
        original.segment.bytes := ⟨sound, rfl, rfl, short⟩
    have first := carries.read_packet
    have second := (Packet.V6.carries_canonicalHeader read).read_packet
    rw [same, canonical, second] at first
    have destination := congrArg Packet.V6.destination (Except.ok.inj first)
    rw [Packet.Header6.destination_packet, Packet.Header6.destination_packet] at destination
    unfold toNode Packet.V6.canonicalHeader at destination
    rw [if_pos limited, receiver, limited] at destination
    exact image_limitedBroadcast_ne _ destination
  · intro unlimited
    have head : toNode far original there = original.canonicalHeader := by
      unfold toNode Packet.V6.canonicalHeader
      rw [if_neg unlimited, receiver, mirrored.nat64]
    rw [canonical, head]

section Agreement

variable {near far : Tunnel} {here there : Address.V4} {data buffer room : Bytes}
  {original : Packet.V6} {n : Nat} {source destination : UInt16}

-- From a port below the threshold, a packet leaves as it would without a tunnel.
theorem encapsulate_crossing (known : near.context.host = some here)
    (quiet : near.hook = Dns64.passthrough) (read : Packet.V6.read data = .ok original)
    (source_port : original.segment.sourcePort? = some source)
    (receiver : original.destination = near.context.nat64.image there)
    (emitted : (near.encapsulate data buffer).verdict = .emitted n)
    (below : source < near.context.threshold) :
    n = 20 + original.segment.bytes.length ∧
      ∃ header, Crossing original here there header (near.encapsulate data buffer) := by
  have bypass := (bypasses_of_port source_port).trans (decide_eq_true below)
  rw [encapsulate_plain read bypass] at emitted ⊢
  exact plainOut_crossing known quiet read (kind_of_port source_port) receiver emitted

theorem encapsulate_outer (mirrored : Mirrored near far here there)
    (read : Packet.V6.read data = .ok original)
    (source_port : original.segment.sourcePort? = some source)
    (emitted : (near.encapsulate data buffer).verdict = .emitted n)
    (tunneled : near.context.threshold ≤ source) :
    ∃ outer, Packet.V4.read (near.encapsulate data buffer).packet = .ok outer ∧
      isFramed far.context outer.segment = true := by
  have bypass := (bypasses_of_port source_port).trans
    (decide_eq_false (UInt16.not_lt.mpr tunneled))
  obtain ⟨host, length, known, _, framed⟩ := encapsulate_framed read bypass emitted
  cases Option.some.inj (mirrored.host.symm.trans known)
  have read_outer := framed.carries.read_packet
  rw [← framed.packet_eq] at read_outer
  exact ⟨_, read_outer, (accepted_outer mirrored.paired framed.carries).1⟩

-- The form that was made and the form that it is taken for.
theorem forms_agree (mirrored : Mirrored near far here there)
    (read : Packet.V6.read data = .ok original)
    (source_port : original.segment.sourcePort? = some source)
    (destination_port : original.segment.destinationPort? = some destination)
    (receiver : original.destination = near.context.nat64.image there)
    (emitted : (near.encapsulate data buffer).verdict = .emitted n) :
    ∃ outer, Packet.V4.read (near.encapsulate data buffer).packet = .ok outer ∧
      ((isFramed far.context outer.segment = !bypasses near.context original.segment) ↔
        near.context.threshold ≤ source ∨ destination < near.context.threshold) := by
  rw [bypasses_of_port source_port]
  by_cases tunneled : near.context.threshold ≤ source
  · obtain ⟨outer, read_outer, framed⟩ :=
      encapsulate_outer mirrored read source_port emitted tunneled
    refine ⟨outer, read_outer, ?_⟩
    rw [framed, decide_eq_false (UInt16.not_lt.mpr tunneled)]
    exact ⟨fun _ => .inl tunneled, fun _ => rfl⟩
  · have below := UInt16.not_le.mp tunneled
    obtain ⟨_, header, crossing⟩ :=
      encapsulate_crossing mirrored.host mirrored.quiet read source_port receiver emitted below
    have read_outer := crossing.carries.read_packet
    rw [← crossing.packet] at read_outer
    refine ⟨_, read_outer, ?_⟩
    rw [isFramed_of_port (crossing.carries.destinationPort?_packet.trans destination_port),
      mirrored.exempts_far, decide_eq_true below]
    simp [tunneled]

theorem refused_above (mirrored : Mirrored near far here there)
    (read : Packet.V6.read data = .ok original)
    (source_port : original.segment.sourcePort? = some source)
    (destination_port : original.segment.destinationPort? = some destination)
    (receiver : original.destination = near.context.nat64.image there)
    (emitted : (near.encapsulate data buffer).verdict = .emitted n)
    (below : source < near.context.threshold) (above : near.context.threshold ≤ destination) :
    (far.decapsulate (near.encapsulate data buffer).packet room).verdict
      = .dropped (if original.segment.kind = .udp then .peerPort else .carrierNotUdp) := by
  obtain ⟨_, header, crossing⟩ :=
    encapsulate_crossing mirrored.host mirrored.quiet read source_port receiver emitted below
  exact crossing_refused mirrored crossing source_port destination_port below above room

theorem returned_iff (mirrored : Mirrored near far here there)
    (read : Packet.V6.read data = .ok original)
    (source_port : original.segment.sourcePort? = some source)
    (destination_port : original.segment.destinationPort? = some destination)
    (sender : original.source = near.context.nat64.image here)
    (receiver : original.destination = near.context.nat64.image there)
    (emitted : (near.encapsulate data buffer).verdict = .emitted n)
    (enough : 40 + original.segment.bytes.length ≤ room.length) :
    (far.decapsulate (near.encapsulate data buffer).packet room).verdict
          = .emitted (40 + original.segment.bytes.length) ∧
        (far.decapsulate (near.encapsulate data buffer).packet room).packet = original.canonical ↔
      near.context.threshold ≤ source ∨
        destination < near.context.threshold ∧ there ≠ .limitedBroadcast := by
  by_cases tunneled : near.context.threshold ≤ source
  · have bypass := (bypasses_of_port source_port).trans
      (decide_eq_false (UInt16.not_lt.mpr tunneled))
    have returned := framed_roundTrip mirrored.host mirrored.paired mirrored.quiet
      mirrored.quiet_far read bypass emitted enough
    exact ⟨fun _ => .inl tunneled, fun _ => returned⟩
  · have below := UInt16.not_le.mp tunneled
    by_cases translated : destination < near.context.threshold
    · obtain ⟨_, header, crossing⟩ :=
        encapsulate_crossing mirrored.host mirrored.quiet read source_port receiver emitted below
      obtain ⟨verdict, packet⟩ := crossing_translated mirrored crossing (kind_of_port source_port)
        destination_port sender translated enough
      rw [packet, toNode_packet_eq_canonical mirrored read receiver]
      constructor
      · rintro ⟨_, unlimited⟩
        exact .inr ⟨translated, unlimited⟩
      · rintro (above | ⟨_, unlimited⟩)
        · exact absurd above tunneled
        · exact ⟨verdict, unlimited⟩
    · rw [refused_above mirrored read source_port destination_port receiver emitted below
        (UInt16.not_lt.mp translated)]
      simp [tunneled, translated]

end Agreement

-- Exactly which packets the far end takes for what they are, and what becomes of the others.
theorem framing_agreement {near far : Tunnel} {here there : Address.V4} {data buffer room : Bytes}
    {original : Packet.V6} {n : Nat} {source destination : UInt16}
    (mirrored : Mirrored near far here there) (read : Packet.V6.read data = .ok original)
    (source_port : original.segment.sourcePort? = some source)
    (destination_port : original.segment.destinationPort? = some destination)
    (sender : original.source = near.context.nat64.image here)
    (receiver : original.destination = near.context.nat64.image there)
    (emitted : (near.encapsulate data buffer).verdict = .emitted n)
    (enough : 40 + original.segment.bytes.length ≤ room.length) :
    (∃ outer, Packet.V4.read (near.encapsulate data buffer).packet = .ok outer ∧
      ((isFramed far.context outer.segment = !bypasses near.context original.segment) ↔
        near.context.threshold ≤ source ∨ destination < near.context.threshold)) ∧
    ((far.decapsulate (near.encapsulate data buffer).packet room).verdict
          = .emitted (40 + original.segment.bytes.length) ∧
        (far.decapsulate (near.encapsulate data buffer).packet room).packet = original.canonical ↔
      near.context.threshold ≤ source ∨
        destination < near.context.threshold ∧ there ≠ .limitedBroadcast) ∧
    Packet.V6.Restates original.canonical original ∧
    (source < near.context.threshold → near.context.threshold ≤ destination →
      (far.decapsulate (near.encapsulate data buffer).packet room).verdict
        = .dropped (if original.segment.kind = .udp then .peerPort else .carrierNotUdp)) :=
  ⟨forms_agree mirrored read source_port destination_port receiver emitted,
    returned_iff mirrored read source_port destination_port sender receiver emitted enough,
    Packet.V6.restates_canonical read,
    refused_above mirrored read source_port destination_port receiver emitted⟩

-- Two hosts that are each other's remote end, and a datagram of three bytes between them.
def west : Tunnel where
  context := {
    host := some ⟨0x0a000002#32⟩
    netmask := ⟨0xffffff00#32⟩
    remote := ⟨⟨0xc6336401#32⟩, 9000⟩ }

def east : Tunnel where
  context := {
    host := some ⟨0xc6336401#32⟩
    netmask := ⟨0xffffff00#32⟩
    localV6 := some ⟨0xffffc6336401#128⟩
    remote := ⟨⟨0x0a000002#32⟩, 9000⟩ }

theorem mirrored_west_east : Mirrored west east ⟨0x0a000002#32⟩ ⟨0xc6336401#32⟩ := by
  refine ⟨rfl, rfl, rfl, rfl, rfl, rfl, rfl, by decide, by decide, by decide, by decide, rfl, rfl⟩

def between (source destination : UInt16) : Bytes :=
  [0x60, 0, 0, 0, 0, 11, 17, 61] ++ Address.V6.octets ⟨0xffff0a000002#128⟩
    ++ Address.V6.octets ⟨0xffffc6336401#128⟩
    ++ (Wire.encodeWord source ++ Wire.encodeWord destination ++ [0, 11, 0, 0, 0x6e, 0x74, 0x70])

def betweenRead (source destination : UInt16) : Packet.V6 :=
  ⟨between source destination, ⟨.udp, (between source destination).drop 40⟩⟩

theorem framing_agreement_low_ports :
    (east.decapsulate (west.encapsulate (between 123 123) blank).packet blank).packet
        = (betweenRead 123 123).canonical ∧
      Packet.V6.Restates
        (east.decapsulate (west.encapsulate (between 123 123) blank).packet blank).packet
        (betweenRead 123 123) := by
  have read : Packet.V6.read (between 123 123) = .ok (betweenRead 123 123) := by rfl
  have source_port : (betweenRead 123 123).segment.sourcePort? = some 123 := by rfl
  have destination_port : (betweenRead 123 123).segment.destinationPort? = some 123 := by rfl
  have sender : (betweenRead 123 123).source
      = west.context.nat64.image ⟨0x0a000002#32⟩ := by rfl
  have receiver : (betweenRead 123 123).destination
      = west.context.nat64.image ⟨0xc6336401#32⟩ := by rfl
  have emitted : (west.encapsulate (between 123 123) blank).verdict = .emitted 31 := by rfl
  have enough : 40 + (betweenRead 123 123).segment.bytes.length ≤ blank.length := by decide
  obtain ⟨_, restored, restates, _⟩ := framing_agreement mirrored_west_east read source_port
    destination_port sender receiver emitted enough
  obtain ⟨_, packet⟩ := restored.mpr (.inr ⟨by decide, by decide⟩)
  exact ⟨packet, packet ▸ restates⟩

-- From a low port to a high one: sent plain by the peer, and refused for not being the peer.
theorem framing_disagreement_high_port :
    Mirrored west east ⟨0x0a000002#32⟩ ⟨0xc6336401#32⟩ ∧
      Packet.V6.read (between 123 5000) = .ok (betweenRead 123 5000) ∧
      bypasses west.context (betweenRead 123 5000).segment = true ∧
      (west.encapsulate (between 123 5000) blank).verdict = .emitted 31 ∧
      (east.decapsulate (west.encapsulate (between 123 5000) blank).packet blank).verdict
        = .dropped .peerPort ∧
      Drop.kind .peerPort = .wrongTunnelPeer :=
  ⟨mirrored_west_east, by rfl, by rfl, by rfl, by rfl, by rfl⟩

end Nat64Gateway.Tunnel
