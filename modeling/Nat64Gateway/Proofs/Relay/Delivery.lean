import Nat64Gateway.Proofs.Relay.Reactions
import Nat64Gateway.Proofs.Tunnel.Agreement
import Nat64Gateway.Relay.Network

namespace Nat64Gateway

namespace Tunnel

def Restores (context : Context) (data : Bytes) (original : Packet.V6) : Prop :=
  ∀ (far : Tunnel) (room : Bytes), far.context = context → far.hook = Dns64.passthrough →
    room.length = Relay.maxPacket →
      (far.decapsulate data room).verdict = .emitted (40 + original.segment.bytes.length) ∧
        (far.decapsulate data room).packet = original.canonical

-- The room was checked for the frame, which is longer than what the IPv6 header adds.
theorem encapsulate_room {tunnel : Tunnel} {data buffer : Bytes} {original : Packet.V6} {n : Nat}
    (read : Packet.V6.read data = .ok original)
    (tunneled : bypasses tunnel.context original.segment = false)
    (emitted : (tunnel.encapsulate data buffer).verdict = .emitted n) :
    40 + original.segment.bytes.length ≤ buffer.length := by
  have framed : 36 ≤ framing original.segment.protocol := by
    unfold framing Endpoint.Block.length
    split <;> omega
  unfold encapsulate at emitted
  simp only [read, tunneled, Bool.false_eq_true, if_false] at emitted
  cases known : tunnel.context.host with
  | none =>
    simp only [known] at emitted
    cases emitted
  | some host =>
    simp only [known] at emitted
    split at emitted
    · cases emitted
    · omega

end Tunnel

namespace Relay

-- Senders on a segment that the tunnel takes everything from.
def Tunneled (context : Context) (data : Bytes) : Prop :=
  ∀ packet port, Packet.V6.read (data.take maxPacket) = .ok packet →
    packet.segment.sourcePort? = some port → context.threshold ≤ port

structure Coupled (tunnel : End → Tunnel) (host : End → Address.V4) : Prop where
  known : ∀ place, (tunnel place).context.host = some (host place)
  remote : ∀ place, (tunnel place).context.remote
    = ⟨host place.other, (tunnel place.other).context.localPort⟩
  local_port : ∀ place, (tunnel place).context.threshold ≤ (tunnel place).context.localPort
  portOrder : ∀ place, (tunnel place.other).context.portOrder = (tunnel place).context.portOrder
  quiet : ∀ place, (tunnel place).hook = Dns64.passthrough

theorem Coupled.paired {tunnel : End → Tunnel} {host : End → Address.V4} {near far : Tunnel}
    (coupled : Coupled tunnel host) (place : End) (here : near.context = (tunnel place).context)
    (there : far.context = (tunnel place.other).context) :
    Tunnel.Paired near far (host place) := by
  have back := coupled.remote place.other
  rw [End.other_other] at back
  refine ⟨?_, ?_, ?_⟩
  · rw [there, here, back]
  · rw [there, here, coupled.remote place]
    exact coupled.local_port place.other
  · rw [there, here]
    exact coupled.portOrder place

theorem Coupled.restores {tunnel : End → Tunnel} {host : End → Address.V4} {near : Tunnel}
    {data buffer : Bytes} {n : Nat} (coupled : Coupled tunnel host) (place : End)
    (here : near.context = (tunnel place).context) (quiet : near.hook = Dns64.passthrough)
    (permitted : Tunneled (tunnel place).context data) (room : buffer.length = maxPacket)
    (emitted : (near.encapsulate (data.take maxPacket) buffer).verdict = .emitted n) :
    ∃ original, Packet.V6.read (data.take maxPacket) = .ok original ∧
      Tunnel.Restores (tunnel place.other).context
        (near.encapsulate (data.take maxPacket) buffer).packet original := by
  obtain ⟨original, read, _⟩ := Tunnel.encapsulate_emitted emitted
  have tunneled : Tunnel.bypasses near.context original.segment = false := by
    rw [here]
    exact Tunnel.bypasses_eq_false fun port found => permitted original port read found
  have known : near.context.host = some (host place) := by
    rw [here]
    exact coupled.known place
  have enough := Tunnel.encapsulate_room read tunneled emitted
  refine ⟨original, read, ?_⟩
  intro far other there quiet_far size
  exact Tunnel.framed_roundTrip known (coupled.paired place here there) quiet quiet_far read
    tunneled emitted (by rw [size, ← room]; exact enough)

namespace Network

variable {Peer : Type} {tunnel : End → Tunnel} {address : End → Peer} {host : End → Address.V4}

-- Sent on one segment is what was received on the other, to whoever was last heard from there.
structure Accounted (place : End) (recipient : Peer) (data : Bytes) (earlier : List (Entry Peer)) :
    Prop where
  recipient : lastHeard place earlier = some recipient
  original : ∃ sender source packet, .heard place.other sender source ∈ earlier ∧
    Packet.V6.read (source.take maxPacket) = .ok packet ∧ data = packet.canonical ∧
    Packet.V6.Restates data packet

def Explained (log : List (Entry Peer)) : Prop :=
  ∀ later earlier place recipient data, log = later ++ .told place recipient data :: earlier →
    Accounted place recipient data earlier

theorem explained_nil : Explained ([] : List (Entry Peer)) := by
  intro later earlier place recipient data split
  cases later <;> cases split

theorem explained_cons {entry : Entry Peer} {log : List (Entry Peer)} (explained : Explained log)
    (new : ∀ place recipient data, entry = .told place recipient data →
      Accounted place recipient data log) : Explained (entry :: log) := by
  intro later earlier place recipient data split
  cases later with
  | nil =>
    cases split
    exact new place recipient data rfl
  | cons newest later =>
    cases split
    exact explained later earlier place recipient data rfl

-- A datagram in flight that will come out as what it was made from.
structure Carried (tunnel : End → Tunnel) (log : List (Entry Peer)) (flight : Flight) : Prop where
  heard : ∃ sender, .heard flight.origin sender flight.source ∈ log
  short : flight.data.length ≤ maxPacket
  restores : ∃ original, Packet.V6.read (flight.source.take maxPacket) = .ok original ∧
    Tunnel.Restores (tunnel flight.origin.other).context flight.data original

theorem Carried.later {log : List (Entry Peer)} {flight : Flight}
    (carried : Carried tunnel log flight) (newer : List (Entry Peer)) :
    Carried tunnel (newer ++ log) flight := by
  obtain ⟨sender, heard⟩ := carried.heard
  exact ⟨⟨sender, List.mem_append_right newer heard⟩, carried.short, carried.restores⟩

theorem carried_launched {place : End} {data : Bytes} {n : Nat} {peer : Peer} {heard : Option Peer}
    {relay : Relay Peer} {log : List (Entry Peer)} (coupled : Coupled tunnel host)
    (running : Running (tunnel place) peer heard relay)
    (permitted : Tunneled (tunnel place).context data)
    (emitted : (relay.tunnel.encapsulate (data.take maxPacket) relay.scratch).verdict = .emitted n)
    (noted : ∃ sender, .heard place sender data ∈ log) :
    Carried tunnel log
      ⟨place, data, (relay.tunnel.encapsulate (data.take maxPacket) relay.scratch).packet⟩ := by
  have kept := Tunnel.encapsulate_length_buffer relay.tunnel (data.take maxPacket) relay.scratch
  have inside : (relay.tunnel.encapsulate (data.take maxPacket) relay.scratch).packet.length
      ≤ (relay.tunnel.encapsulate (data.take maxPacket) relay.scratch).buffer.length :=
    List.length_take_le' ..
  have short := Nat.le_trans inside (Nat.le_of_eq (kept.trans running.scratch))
  exact ⟨noted, short, coupled.restores place running.context
    (running.hook.trans (coupled.quiet place)) permitted running.scratch emitted⟩

structure Invariant (tunnel : End → Tunnel) (address : End → Peer) (network : Network Peer) :
    Prop where
  running : ∀ place, Running (tunnel place) (address place.other) (lastHeard place network.log)
    (network.relay place)
  carried : ∀ flight ∈ network.inFlight, Carried tunnel network.log flight
  explained : Explained network.log

theorem invariant_start (tunnel : End → Tunnel) (address : End → Peer) :
    Invariant tunnel address (start tunnel address) :=
  ⟨fun place => running_start (tunnel place) (address place.other), nofun, explained_nil⟩

variable [DecidableEq Peer] {network : Network Peer}

theorem step_heard (relay : Relay Peer) (sender : Peer) (data : Bytes) :
    (relay.step ⟨.segment, sender, data⟩).2 = [] ∨
      ∃ n, (relay.tunnel.encapsulate (data.take maxPacket) relay.scratch).verdict = .emitted n ∧
        (relay.step ⟨.segment, sender, data⟩).2 = [⟨.uplink, relay.uplinkPeer,
          (relay.tunnel.encapsulate (data.take maxPacket) relay.scratch).packet⟩] := by
  have form := stepped relay ⟨.segment, sender, data⟩
  generalize relay.step ⟨.segment, sender, data⟩ = result at form ⊢
  cases form with
  | outward =>
    cases verdict : (relay.tunnel.encapsulate (data.take maxPacket) relay.scratch).verdict with
    | dropped cause => exact .inl (sent_of_dropped verdict ..)
    | emitted n =>
      exact .inr ⟨n, rfl, sent_of_emitted verdict (Tunnel.encapsulate_nonempty verdict) ..⟩
  | inward side => cases side
  | stranger side => cases side
  | early side => cases side

theorem step_unheard {flight : Flight} {relay : Relay Peer}
    (quiet : relay.tunnel.hook = Dns64.passthrough)
    (running : Running (tunnel flight.origin.other) (address flight.origin) none relay) :
    (relay.step ⟨.uplink, address flight.origin, flight.data⟩).2 = [] := by
  have faithful : relay.tunnel.hook.Local := quiet ▸ Dns64.passthrough_local
  exact (reacts_step _ faithful running.scratch).early rfl running.segmentPeer

-- The reaction of one end to a datagram from the other, if there is someone to tell.
theorem step_delivered {flight : Flight} {recipient : Peer} {relay : Relay Peer}
    {original : Packet.V6} (quiet : relay.tunnel.hook = Dns64.passthrough)
    (running : Running (tunnel flight.origin.other) (address flight.origin) (some recipient) relay)
    (short : flight.data.length ≤ maxPacket)
    (restores : Tunnel.Restores (tunnel flight.origin.other).context flight.data original) :
    (relay.step ⟨.uplink, address flight.origin, flight.data⟩).2
      = [⟨.segment, recipient, original.canonical⟩] := by
  have faithful : relay.tunnel.hook.Local := quiet ▸ Dns64.passthrough_local
  have reacts := reacts_step ⟨.uplink, address flight.origin, flight.data⟩ faithful running.scratch
  have whole : flight.data.take maxPacket = flight.data := List.take_of_length_le short
  obtain ⟨verdict, packet⟩ := restores relay.tunnel relay.scratch running.context quiet
    running.scratch
  have answers := reacts.inward rfl running.uplinkPeer.symm recipient running.segmentPeer
    relay.scratch running.scratch
  simp only [whole] at answers
  rw [answers.emitted _ verdict, packet]

theorem running_receive {place : End} {received : Received Peer} {earlier log : List (Entry Peer)}
    (running : ∀ other, Running (tunnel other) (address other.other) (lastHeard other earlier)
      (network.relay other))
    (heard : ∀ other, lastHeard other log
      = if other = place ∧ received.side = .segment then some received.sender
        else lastHeard other earlier) (other : End) :
    Running (tunnel other) (address other.other) (lastHeard other log)
      ((network.receive place received).relay other) := by
  rw [heard]
  unfold receive
  by_cases same : other = place
  · subst same
    simp only [if_true, true_and]
    exact running_step received (running other)
  · simp only [same, if_false, false_and]
    exact running other

theorem invariant_hear (coupled : Coupled tunnel host) (place : End) (sender : Peer) (data : Bytes)
    (permitted : Tunneled (tunnel place).context data)
    (invariant : Invariant tunnel address network) :
    Invariant tunnel address (network.hear place sender data) := by
  obtain ⟨running, carried, explained⟩ := invariant
  have reaction := step_heard (network.relay place) sender data
  have log : (network.hear place sender data).log
      = .heard place sender data :: network.log := by
    change told place ((network.relay place).step ⟨.segment, sender, data⟩).2 ++ _ = _
    rcases reaction with sent | ⟨n, emitted, sent⟩ <;> rw [sent] <;> rfl
  have heard : ∀ other, lastHeard other (.heard place sender data :: network.log)
      = if other = place ∧ Side.segment = .segment then some sender
        else lastHeard other network.log := by
    intro other
    by_cases same : other = place
    · simp [lastHeard, same]
    · simp [lastHeard, same, Ne.symm same]
  have kept : ∀ flight ∈ network.inFlight,
      Carried tunnel (.heard place sender data :: network.log) flight :=
    fun flight present => (carried flight present).later [_]
  refine ⟨?_, ?_, ?_⟩
  · rw [log]
    exact running_receive running heard
  -- What was in flight only needs its origin in a log that has grown; what is new was just heard.
  · rw [log]
    change ∀ flight ∈ launched place data
      ((network.relay place).step ⟨.segment, sender, data⟩).2 ++ network.inFlight, _
    rcases reaction with sent | ⟨n, emitted, sent⟩
    · rw [sent]
      exact kept
    · rw [sent]
      intro flight present
      rcases List.mem_cons.mp present with rfl | present
      · exact carried_launched coupled (running place) permitted emitted
          ⟨sender, List.mem_cons_self⟩
      · exact kept flight present
  · rw [log]
    exact explained_cons explained nofun

theorem invariant_deliver (coupled : Coupled tunnel host) {flight : Flight}
    (present : flight ∈ network.inFlight) (invariant : Invariant tunnel address network) :
    Invariant tunnel address (network.deliver address flight) := by
  obtain ⟨running, carried, explained⟩ := invariant
  obtain ⟨heard, short, original, read, restores⟩ := carried flight present
  have served := running flight.origin.other
  rw [End.other_other] at served
  have quiet := served.hook.trans (coupled.quiet flight.origin.other)
  have log : (network.deliver address flight).log
      = told flight.origin.other ((network.relay flight.origin.other).step
          ⟨.uplink, address flight.origin, flight.data⟩).2 ++ network.log := rfl
  have inFlight : (network.deliver address flight).inFlight
      = launched flight.origin.other flight.data ((network.relay flight.origin.other).step
          ⟨.uplink, address flight.origin, flight.data⟩).2 ++ network.inFlight := rfl
  have unheard : ∀ other, lastHeard other network.log
      = if other = flight.origin.other ∧ Side.uplink = .segment then some (address flight.origin)
        else lastHeard other network.log := by
    intro other
    simp
  cases known : lastHeard flight.origin.other network.log with
  | none =>
    -- Nobody is there to be told, so the datagram is lost and the log stays.
    rw [step_unheard quiet (known ▸ served)] at log inFlight
    refine ⟨?_, ?_, ?_⟩
    · rw [log]
      exact running_receive running unheard
    · rw [log, inFlight]
      exact carried
    · rw [log]
      exact explained
  | some recipient =>
    rw [step_delivered quiet (known ▸ served) short restores] at log inFlight
    refine ⟨?_, ?_, ?_⟩
    · rw [log]
      exact running_receive running unheard
    · rw [log, inFlight]
      exact fun other left => (carried other left).later [_]
    · rw [log]
      refine explained_cons explained ?_
      intro place told data same
      cases same
      obtain ⟨sender, heard⟩ := heard
      refine ⟨known, sender, flight.source, original, ?_, read, rfl,
        Packet.V6.restates_canonical read⟩
      rw [End.other_other]
      exact heard

theorem invariant_step (coupled : Coupled tunnel host) {next : Network Peer}
    (step : Step address (fun place => Tunneled (tunnel place).context) network next)
    (invariant : Invariant tunnel address network) : Invariant tunnel address next := by
  cases step with
  | hear place sender data permitted =>
    exact invariant_hear coupled place sender data permitted invariant
  | deliver flight present => exact invariant_deliver coupled present invariant
  | lose kept present =>
    exact ⟨invariant.running, fun flight left => invariant.carried flight (present flight left),
      invariant.explained⟩

theorem invariant_reached (coupled : Coupled tunnel host)
    (reached : Reached tunnel address (fun place => Tunneled (tunnel place).context) network) :
    Invariant tunnel address network := by
  induction reached with
  | start => exact invariant_start tunnel address
  | step _ step ih => exact invariant_step coupled step ih

-- Nothing else reaches a segment, and nothing that reaches it from the other end is dropped.
theorem delivered_canonical (coupled : Coupled tunnel host)
    (reached : Reached tunnel address (fun place => Tunneled (tunnel place).context) network) :
    Explained network.log ∧
      ∀ flight ∈ network.inFlight, ∀ recipient,
        lastHeard flight.origin.other network.log = some recipient →
          ∃ sender original, .heard flight.origin sender flight.source ∈ network.log ∧
            Packet.V6.read (flight.source.take maxPacket) = .ok original ∧
            ((network.relay flight.origin.other).step
                ⟨.uplink, address flight.origin, flight.data⟩).2
              = [⟨.segment, recipient, original.canonical⟩] ∧
            Packet.V6.Restates original.canonical original := by
  obtain ⟨running, carried, explained⟩ := invariant_reached coupled reached
  refine ⟨explained, ?_⟩
  intro flight present recipient known
  obtain ⟨⟨sender, heard⟩, short, original, read, restores⟩ := carried flight present
  have served := running flight.origin.other
  rw [End.other_other, known] at served
  have quiet := served.hook.trans (coupled.quiet flight.origin.other)
  exact ⟨sender, original, heard, read, step_delivered quiet served short restores,
    Packet.V6.restates_canonical read⟩

-- Two ends, the right of which is heard from first, and a datagram from the left to the right.
def ends : End → Tunnel
  | .left => Tunnel.west
  | .right => Tunnel.east

def hosts : End → Address.V4
  | .left => ⟨0x0a000002#32⟩
  | .right => ⟨0xc6336401#32⟩

def ports : End → Nat
  | .left => 1
  | .right => 2

theorem coupled_ends : Coupled ends hosts := by
  refine ⟨?_, ?_, ?_, ?_, ?_⟩
  · rintro (_ | _) <;> rfl
  · rintro (_ | _) <;> rfl
  · rintro (_ | _) <;> decide
  · rintro (_ | _) <;> rfl
  · rintro (_ | _) <;> rfl

def crossed : Flight where
  origin := .left
  source := Tunnel.between 5000 6000
  data := (Tunnel.west.encapsulate (Tunnel.between 5000 6000) Tunnel.blank).packet

def departing : Network Nat :=
  ((start ends ports).hear .right 7 []).hear .left 5 (Tunnel.between 5000 6000)

theorem reached_departing :
    Reached ends ports (fun place => Tunneled (ends place).context) departing := by
  refine .step (.step .start (.hear .right 7 [] ?_)) (.hear .left 5 (Tunnel.between 5000 6000) ?_)
  · intro packet port read
    cases read
  · intro packet port read found
    have same : Packet.V6.read ((Tunnel.between 5000 6000).take maxPacket)
        = .ok (Tunnel.betweenRead 5000 6000) := by rfl
    cases Except.ok.inj (same.symm.trans read)
    cases found
    decide

theorem delivered_canonical_west_east :
    (departing.deliver ports crossed).log
        = [.told .right 7 (Tunnel.betweenRead 5000 6000).canonical,
            .heard .left 5 (Tunnel.between 5000 6000), .heard .right 7 []] ∧
      Accounted .right 7 (Tunnel.betweenRead 5000 6000).canonical
        [.heard .left 5 (Tunnel.between 5000 6000), .heard .right 7 []] ∧
      ((departing.relay .right).step ⟨.uplink, 1, crossed.data⟩).2
        = [⟨.segment, 7, (Tunnel.betweenRead 5000 6000).canonical⟩] ∧
      Packet.V6.Restates (Tunnel.betweenRead 5000 6000).canonical
        (Tunnel.betweenRead 5000 6000) := by
  have present : crossed ∈ departing.inFlight := by decide +kernel
  have reached := reached_departing.step (.deliver crossed present)
  have log : (departing.deliver ports crossed).log
      = [.told .right 7 (Tunnel.betweenRead 5000 6000).canonical,
          .heard .left 5 (Tunnel.between 5000 6000), .heard .right 7 []] := by decide +kernel
  have same : Packet.V6.read ((Tunnel.between 5000 6000).take maxPacket)
      = .ok (Tunnel.betweenRead 5000 6000) := by rfl
  obtain ⟨explained, _⟩ := delivered_canonical coupled_ends reached
  obtain ⟨_, arrives⟩ := delivered_canonical coupled_ends reached_departing
  obtain ⟨_, original, _, read, sent, restates⟩ := arrives crossed present 7 (by decide +kernel)
  cases Except.ok.inj (same.symm.trans read)
  exact ⟨log, explained [] _ .right 7 _ log, sent, restates⟩

end Network
end Relay
end Nat64Gateway
