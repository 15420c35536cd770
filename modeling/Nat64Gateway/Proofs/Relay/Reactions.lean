import Nat64Gateway.Proofs.Tunnel.Scratch
import Nat64Gateway.Relay

namespace Nat64Gateway

namespace Tunnel

theorem withNotice_agrees (family : Family) (outcome : Outcome) :
    (withNotice family outcome).Agrees outcome := by
  unfold withNotice
  cases outcome.verdict with
  | emitted length => exact ⟨rfl, rfl, rfl⟩
  | dropped cause => exact ⟨rfl, rfl, rfl⟩

theorem withNotice_buffer (family : Family) (outcome : Outcome) :
    (withNotice family outcome).buffer = outcome.buffer := by
  unfold withNotice
  cases outcome.verdict with
  | emitted length => rfl
  | dropped cause => rfl

theorem encapsulate_nonempty {tunnel : Tunnel} {data buffer : Bytes} {n : Nat}
    (emitted : (tunnel.encapsulate data buffer).verdict = .emitted n) : n ≠ 0 := by
  obtain ⟨_, _, _, departed, _⟩ := encapsulate_departed emitted
  have least := departed.least
  omega

theorem decapsulate_nonempty {tunnel : Tunnel} {data buffer : Bytes} {n : Nat}
    (emitted : (tunnel.decapsulate data buffer).verdict = .emitted n) : n ≠ 0 := by
  obtain ⟨_, _, _, arrived, _⟩ := decapsulate_arrived emitted
  have least := arrived.least
  omega

end Tunnel

namespace Relay

variable {Peer : Type}

section Replies

theorem sent_of_agrees {first second : Outcome} (agrees : first.Agrees second) (side : Side)
    (recipient : Peer) :
    Reply.sent ⟨side, recipient, first⟩ = Reply.sent ⟨side, recipient, second⟩ := by
  have length : first.length = second.length := by
    unfold Outcome.length
    rw [agrees.verdict]
  unfold Reply.sent
  rw [length, agrees.packet]

theorem length_sent (side : Side) (recipient : Peer) (outcome : Outcome) :
    (Reply.sent ⟨side, recipient, outcome⟩).length ≤ 1 := by
  unfold Reply.sent
  split <;> simp

theorem sent_of_emitted {outcome : Outcome} {n : Nat} (emitted : outcome.verdict = .emitted n)
    (some_left : n ≠ 0) (side : Side) (recipient : Peer) :
    Reply.sent ⟨side, recipient, outcome⟩ = [⟨side, recipient, outcome.packet⟩] := by
  unfold Reply.sent Outcome.length
  simp only [emitted, if_neg some_left]

theorem sent_of_dropped {outcome : Outcome} {cause : Drop}
    (dropped : outcome.verdict = .dropped cause) (side : Side) (recipient : Peer) :
    Reply.sent ⟨side, recipient, outcome⟩ = [] := by
  unfold Reply.sent Outcome.length
  simp only [dropped, if_true]

-- What an outcome is answered with: one datagram that is the packet, or nothing if there is none.
structure Answers (side : Side) (recipient : Peer) (outcome : Outcome)
    (reaction : List (Sent Peer)) : Prop where
  dropped : ∀ cause, outcome.verdict = .dropped cause → reaction = []
  emitted : ∀ n, outcome.verdict = .emitted n → reaction = [⟨side, recipient, outcome.packet⟩]

theorem Answers.unique {side : Side} {recipient : Peer} {outcome : Outcome}
    {reaction second : List (Sent Peer)} (answers : Answers side recipient outcome reaction)
    (again : Answers side recipient outcome second) : reaction = second := by
  cases verdict : outcome.verdict with
  | dropped cause => exact (answers.dropped cause verdict).trans (again.dropped cause verdict).symm
  | emitted n => exact (answers.emitted n verdict).trans (again.emitted n verdict).symm

theorem answers_sent {outcome : Outcome} (nonempty : ∀ n, outcome.verdict = .emitted n → n ≠ 0)
    (side : Side) (recipient : Peer) :
    Answers side recipient outcome (Reply.sent ⟨side, recipient, outcome⟩) :=
  ⟨fun _ dropped => sent_of_dropped dropped side recipient,
    fun n emitted => sent_of_emitted emitted (nonempty n emitted) side recipient⟩

theorem side_sent {side : Side} {recipient : Peer} {outcome : Outcome} {sent : Sent Peer}
    (present : sent ∈ Reply.sent ⟨side, recipient, outcome⟩) : sent.side = side := by
  unfold Reply.sent at present
  split at present
  · cases present
  · cases List.mem_singleton.mp present
    rfl

-- What is sent is a front of the buffer, and not an empty one.
theorem size_sent {side : Side} {recipient : Peer} {outcome : Outcome} {sent : Sent Peer}
    (room : outcome.buffer.length = maxPacket)
    (present : sent ∈ Reply.sent ⟨side, recipient, outcome⟩) :
    sent.data ≠ [] ∧ sent.data.length ≤ maxPacket := by
  unfold Reply.sent at present
  split at present
  · cases present
  · rename_i emitted
    cases List.mem_singleton.mp present
    have length : outcome.packet.length = min outcome.length maxPacket := by
      rw [← room]
      exact List.length_take
    refine ⟨?_, ?_⟩
    · intro empty
      have none_left := length.symm.trans (congrArg List.length empty)
      unfold maxPacket at none_left
      simp only [List.length_nil] at none_left
      simp only at emitted
      omega
    · exact Nat.le_trans (Nat.le_of_eq length) (Nat.min_le_right ..)

end Replies

def lastSender (history : List (Received Peer)) : Option Peer :=
  (history.reverse.find? (·.side = .segment)).map Received.sender

theorem lastSender_append (history : List (Received Peer)) (received : Received Peer) :
    lastSender (history ++ [received])
      = if received.side = .segment then some received.sender else lastSender history := by
  unfold lastSender
  rw [List.reverse_append, List.reverse_singleton, List.singleton_append, List.find?_cons]
  cases received.side with
  | segment => simp
  | uplink => simp

def toUplink (reactions : List (List (Sent Peer))) : Nat :=
  reactions.flatten.countP (·.side = .uplink)

section Step

variable {relay : Relay Peer} {received : Received Peer}

-- What a datagram comes to on either side, if it is handled at all.
def outward (relay : Relay Peer) (received : Received Peer) : Outcome :=
  relay.tunnel.encapsulate (received.data.take maxPacket) relay.scratch

def inward (relay : Relay Peer) (received : Received Peer) : Outcome :=
  relay.tunnel.decapsulate (received.data.take maxPacket) relay.scratch

-- One identification for each datagram that goes out, as long as the hook leaves the length alone.
theorem sent_outward (quiet : relay.tunnel.hook = Dns64.passthrough)
    (room : relay.scratch.length = maxPacket) :
    (relay.outward received).nextId
      = relay.tunnel.nextId
        + UInt16.ofNat ((Reply.sent ⟨.uplink, relay.uplinkPeer, relay.outward received⟩).countP
            (·.side = .uplink)) := by
  have small : relay.scratch.length ≤ Datagram.maxLength := by
    rw [room]
    decide
  have outcome : Tunnel.Handled relay.tunnel (received.data.take maxPacket) relay.scratch
      (relay.outward received) := Tunnel.handled ..
  cases outcome with
  | accepted n verdict used =>
    rw [used, sent_of_emitted verdict (Tunnel.encapsulate_nonempty verdict)]
    rfl
  | exceeded verdict used exceeds =>
    rw [Tunnel.frameExceeds_passthrough quiet small] at exceeds
    cases exceeds
  | refused cause verdict kept =>
    rw [kept, sent_of_dropped verdict]
    exact (UInt16.add_zero _).symm

theorem sent_inward (recipient : Peer) :
    (Reply.sent ⟨.segment, recipient, relay.inward received⟩).countP (·.side = .uplink) = 0 := by
  rw [List.countP_eq_zero]
  intro sent present
  rw [side_sent present]
  decide

end Step

theorem toUplink_append (reactions : List (List (Sent Peer))) (reaction : List (Sent Peer)) :
    toUplink (reactions ++ [reaction])
      = toUplink reactions + reaction.countP (·.side = .uplink) := by
  unfold toUplink
  rw [List.flatten_append, List.countP_append, List.flatten_singleton]

-- The state that a relay has come to, as far as it goes on to matter.
structure Running (tunnel : Tunnel) (uplinkPeer : Peer) (heard : Option Peer)
    (relay : Relay Peer) : Prop where
  context : relay.tunnel.context = tunnel.context
  hook : relay.tunnel.hook = tunnel.hook
  uplinkPeer : relay.uplinkPeer = uplinkPeer
  segmentPeer : relay.segmentPeer = heard
  scratch : relay.scratch.length = maxPacket

def start (tunnel : Tunnel) (uplinkPeer : Peer) : Relay Peer :=
  { tunnel, uplinkPeer }

theorem running_start (tunnel : Tunnel) (uplinkPeer : Peer) :
    Running tunnel uplinkPeer none (start tunnel uplinkPeer) :=
  ⟨rfl, rfl, rfl, rfl, List.length_replicate⟩

variable [DecidableEq Peer]

theorem run_append (relay : Relay Peer) (before later : List (Received Peer)) :
    relay.run (before ++ later)
      = (((relay.run before).1.run later).1,
          (relay.run before).2 ++ ((relay.run before).1.run later).2) := by
  induction before generalizing relay with
  | nil => rfl
  | cons received before ih =>
    have rest := ih (relay.step received).1
    simp only [List.cons_append, run, rest]

theorem length_run (relay : Relay Peer) (history : List (Received Peer)) :
    (relay.run history).2.length = history.length := by
  induction history generalizing relay with
  | nil => rfl
  | cons received later ih => exact congrArg (· + 1) (ih (relay.step received).1)

inductive Stepped (relay : Relay Peer) (received : Received Peer) :
    Relay Peer × List (Sent Peer) → Prop where
  | outward (side : received.side = .segment) :
      Stepped relay received
        ({ relay.after (Tunnel.withNotice .v6 (relay.outward received)) with
            segmentPeer := some received.sender },
          Reply.sent ⟨.uplink, relay.uplinkPeer, relay.outward received⟩)
  | inward (side : received.side = .uplink) (known : received.sender = relay.uplinkPeer)
      (recipient : Peer) (heard : relay.segmentPeer = some recipient) :
      Stepped relay received
        (relay.after (Tunnel.withNotice .v4 (relay.inward received)),
          Reply.sent ⟨.segment, recipient, relay.inward received⟩)
  | stranger (side : received.side = .uplink) (unknown : received.sender ≠ relay.uplinkPeer) :
      Stepped relay received (relay, [])
  | early (side : received.side = .uplink) (known : received.sender = relay.uplinkPeer)
      (unheard : relay.segmentPeer = none) : Stepped relay received (relay, [])

theorem stepped (relay : Relay Peer) (received : Received Peer) :
    Stepped relay received (relay.step received) := by
  unfold step handle
  cases side : received.side with
  | segment =>
    have sent := sent_of_agrees (Tunnel.withNotice_agrees .v6 (relay.outward received))
      .uplink relay.uplinkPeer
    simp only [fromSegment, Option.toList_some, List.flatMap_singleton]
    rw [← outward, sent]
    exact .outward side
  | uplink =>
    simp only [fromUplink]
    by_cases unknown : received.sender ≠ relay.uplinkPeer
    · rw [if_pos unknown]
      exact .stranger side unknown
    rw [if_neg unknown]
    cases heard : relay.segmentPeer with
    | none => exact .early side (Decidable.not_not.mp unknown) heard
    | some recipient =>
      have sent := sent_of_agrees (Tunnel.withNotice_agrees .v4 (relay.inward received))
        .segment recipient
      simp only [Option.toList_some, List.flatMap_singleton]
      rw [← inward, sent]
      exact .inward side (Decidable.not_not.mp unknown) recipient heard

theorem running_step {tunnel : Tunnel} {uplinkPeer : Peer} {heard : Option Peer}
    {relay : Relay Peer} (received : Received Peer)
    (running : Running tunnel uplinkPeer heard relay) :
    Running tunnel uplinkPeer (if received.side = .segment then some received.sender else heard)
      (relay.step received).1 := by
  obtain ⟨context, hook, peer, segmentPeer, scratch⟩ := running
  have form := stepped relay received
  generalize relay.step received = result at form ⊢
  cases form with
  | outward side =>
    have kept := Tunnel.encapsulate_length_buffer relay.tunnel (received.data.take maxPacket)
      relay.scratch
    rw [if_pos side]
    refine ⟨context, hook, peer, rfl, ?_⟩
    exact (congrArg List.length (Tunnel.withNotice_buffer ..)).trans (kept.trans scratch)
  | inward side known recipient served =>
    have kept := Tunnel.decapsulate_length_buffer relay.tunnel (received.data.take maxPacket)
      relay.scratch
    rw [if_neg (by rw [side]; decide)]
    refine ⟨context, hook, peer, segmentPeer, ?_⟩
    exact (congrArg List.length (Tunnel.withNotice_buffer ..)).trans (kept.trans scratch)
  | stranger side =>
    rw [if_neg (by rw [side]; decide)]
    exact ⟨context, hook, peer, segmentPeer, scratch⟩
  | early side =>
    rw [if_neg (by rw [side]; decide)]
    exact ⟨context, hook, peer, segmentPeer, scratch⟩

theorem step_nextId {relay : Relay Peer} (received : Received Peer)
    (quiet : relay.tunnel.hook = Dns64.passthrough) (room : relay.scratch.length = maxPacket) :
    (relay.step received).1.tunnel.nextId
      = relay.tunnel.nextId
        + UInt16.ofNat ((relay.step received).2.countP (·.side = .uplink)) := by
  have form := stepped relay received
  generalize relay.step received = result at form ⊢
  cases form with
  | outward side => exact (Tunnel.withNotice_agrees ..).nextId.trans (sent_outward quiet room)
  | inward side known recipient served =>
    rw [sent_inward]
    exact ((Tunnel.withNotice_agrees ..).nextId.trans (Tunnel.decapsulate_nextId ..)).trans
      (UInt16.add_zero _).symm
  | stranger => exact (UInt16.add_zero _).symm
  | early => exact (UInt16.add_zero _).symm

-- The same after a whole history, with the identifications counted.
structure Settled (tunnel : Tunnel) (uplinkPeer : Peer) (history : List (Received Peer))
    (result : Relay Peer × List (List (Sent Peer))) : Prop where
  running : Running tunnel uplinkPeer (lastSender history) result.1
  nextId : result.1.tunnel.nextId = tunnel.nextId + UInt16.ofNat (toUplink result.2)

theorem settled_step {tunnel : Tunnel} {uplinkPeer : Peer} {history : List (Received Peer)}
    {relay : Relay Peer} {reactions : List (List (Sent Peer))} (received : Received Peer)
    (quiet : tunnel.hook = Dns64.passthrough)
    (settled : Settled tunnel uplinkPeer history (relay, reactions)) :
    Settled tunnel uplinkPeer (history ++ [received])
      ((relay.step received).1, reactions ++ [(relay.step received).2]) := by
  obtain ⟨running, nextId⟩ := settled
  refine ⟨?_, ?_⟩
  · rw [lastSender_append]
    exact running_step received running
  · have used := step_nextId received (running.hook.trans quiet) running.scratch
    simp only at nextId
    rw [toUplink_append, UInt16.ofNat_add, ← UInt16.add_assoc, ← nextId]
    exact used

theorem settled_run {tunnel : Tunnel} {uplinkPeer : Peer} {history : List (Received Peer)}
    {relay : Relay Peer} {reactions : List (List (Sent Peer))} (later : List (Received Peer))
    (quiet : tunnel.hook = Dns64.passthrough)
    (settled : Settled tunnel uplinkPeer history (relay, reactions)) :
    Settled tunnel uplinkPeer (history ++ later)
      ((relay.run later).1, reactions ++ (relay.run later).2) := by
  induction later generalizing history relay reactions with
  | nil =>
    simp only [run, List.append_nil]
    exact settled
  | cons received later ih =>
    have rest := ih (settled_step received quiet settled)
    simp only [List.append_assoc, List.singleton_append] at rest
    exact rest

theorem settled_start {tunnel : Tunnel} (quiet : tunnel.hook = Dns64.passthrough)
    (uplinkPeer : Peer) (history : List (Received Peer)) :
    Settled tunnel uplinkPeer history ((start tunnel uplinkPeer).run history) := by
  have fresh : Settled tunnel uplinkPeer [] (start tunnel uplinkPeer, []) :=
    ⟨running_start tunnel uplinkPeer, (UInt16.add_zero _).symm⟩
  exact settled_run history quiet fresh

-- What is sent in answer to a datagram, given the next identification and the last sender. The
-- buffer may hold anything.
structure Reacts (tunnel : Tunnel) (uplinkPeer : Peer) (heard : Option Peer)
    (received : Received Peer) (reaction : List (Sent Peer)) : Prop where
  single : reaction.length ≤ 1
  outward : received.side = .segment → ∀ buffer : Bytes, buffer.length = maxPacket →
    Answers .uplink uplinkPeer (tunnel.encapsulate (received.data.take maxPacket) buffer) reaction
  inward : received.side = .uplink → received.sender = uplinkPeer →
    ∀ recipient, heard = some recipient → ∀ buffer : Bytes, buffer.length = maxPacket →
      Answers .segment recipient (tunnel.decapsulate (received.data.take maxPacket) buffer) reaction
  stranger : received.side = .uplink → received.sender ≠ uplinkPeer → reaction = []
  early : received.side = .uplink → heard = none → reaction = []
  sizes : ∀ sent ∈ reaction, sent.data ≠ [] ∧ sent.data.length ≤ maxPacket

theorem reacts_step {relay : Relay Peer} (received : Received Peer)
    (faithful : relay.tunnel.hook.Local) (room : relay.scratch.length = maxPacket) :
    Reacts relay.tunnel relay.uplinkPeer relay.segmentPeer received (relay.step received).2 := by
  have form := stepped relay received
  generalize relay.step received = result at form ⊢
  cases form with
  | outward side =>
    have kept := Tunnel.encapsulate_length_buffer relay.tunnel (received.data.take maxPacket)
      relay.scratch
    refine ⟨length_sent .., ?_, ?_, ?_, ?_, fun _ present => size_sent (kept.trans room) present⟩
    · intro _ buffer other
      -- The relay's own scratch buffer is exchanged for the one of the statement.
      have agrees := Tunnel.encapsulate_agrees faithful (received.data.take maxPacket)
        (room.trans other.symm)
      rw [outward, sent_of_agrees agrees]
      exact answers_sent (fun _ => Tunnel.encapsulate_nonempty) ..
    all_goals
      intro uplink
      cases side.symm.trans uplink
  | inward side known recipient heard =>
    have kept := Tunnel.decapsulate_length_buffer relay.tunnel (received.data.take maxPacket)
      relay.scratch
    refine ⟨length_sent .., ?_, ?_, ?_, ?_, fun _ present => size_sent (kept.trans room) present⟩
    · intro segment
      cases side.symm.trans segment
    · intro _ _ other same buffer enough
      cases Option.some.inj (heard.symm.trans same)
      have agrees := Tunnel.decapsulate_agrees faithful (received.data.take maxPacket)
        (room.trans enough.symm)
      rw [inward, sent_of_agrees agrees]
      exact answers_sent (fun _ => Tunnel.decapsulate_nonempty) ..
    · intro _ unknown
      exact absurd known unknown
    · intro _ unheard
      rw [heard] at unheard
      cases unheard
  | stranger side unknown =>
    refine ⟨Nat.zero_le _, ?_, ?_, fun _ _ => rfl, fun _ _ => rfl, nofun⟩
    · intro segment
      cases side.symm.trans segment
    · intro _ known
      exact absurd known unknown
  | early side known unheard =>
    refine ⟨Nat.zero_le _, ?_, ?_, fun _ _ => rfl, fun _ _ => rfl, nofun⟩
    · intro segment
      cases side.symm.trans segment
    · intro _ _ recipient heard
      rw [unheard] at heard
      cases heard

theorem Reacts.unique {tunnel : Tunnel} {uplinkPeer : Peer} {heard : Option Peer}
    {received : Received Peer} {reaction second : List (Sent Peer)}
    (reacts : Reacts tunnel uplinkPeer heard received reaction)
    (again : Reacts tunnel uplinkPeer heard received second) : reaction = second := by
  have room : (List.replicate maxPacket (0 : UInt8)).length = maxPacket := List.length_replicate
  cases side : received.side with
  | segment => exact (reacts.outward side _ room).unique (again.outward side _ room)
  | uplink =>
    by_cases known : received.sender = uplinkPeer
    · cases heard with
      | none => exact (reacts.early side rfl).trans (again.early side rfl).symm
      | some recipient =>
        exact (reacts.inward side known recipient rfl _ room).unique
          (again.inward side known recipient rfl _ room)
    · exact (reacts.stranger side known).trans (again.stranger side known).symm

def numbered (tunnel : Tunnel) (uplinkPeer : Peer) (history : List (Received Peer)) : Tunnel :=
  { tunnel with
    nextId := tunnel.nextId
      + UInt16.ofNat (toUplink ((start tunnel uplinkPeer).run history).2) }

theorem reaction_at (relay : Relay Peer) (before later : List (Received Peer))
    (received : Received Peer) :
    (relay.run (before ++ received :: later)).2[before.length]?
      = some ((relay.run before).1.step received).2 := by
  rw [run_append, List.getElem?_append_right (Nat.le_of_eq (length_run ..)), length_run,
    Nat.sub_self]
  rfl

theorem reacts_after {tunnel : Tunnel} (quiet : tunnel.hook = Dns64.passthrough)
    (uplinkPeer : Peer) (before : List (Received Peer)) (received : Received Peer) :
    Reacts (numbered tunnel uplinkPeer before) uplinkPeer (lastSender before) received
      (((start tunnel uplinkPeer).run before).1.step received).2 := by
  obtain ⟨⟨context, hook, peer, segmentPeer, scratch⟩, nextId⟩ :=
    settled_start quiet uplinkPeer before
  have current : ((start tunnel uplinkPeer).run before).1.tunnel
      = numbered tunnel uplinkPeer before := by
    unfold numbered
    rw [← nextId, ← context, ← hook]
  have faithful : ((start tunnel uplinkPeer).run before).1.tunnel.hook.Local := by
    rw [hook, quiet]
    exact Dns64.passthrough_local
  have reacts := reacts_step received faithful scratch
  rwa [current, peer, segmentPeer] at reacts

-- The relay's rule, at every point of every run, and what of the past it does not depend on.
theorem relay_reactions {tunnel : Tunnel} (quiet : tunnel.hook = Dns64.passthrough)
    (uplinkPeer : Peer) (before : List (Received Peer)) (received : Received Peer) :
    ∃ reaction,
      (∀ later, ((start tunnel uplinkPeer).run (before ++ received :: later)).2[before.length]?
        = some reaction) ∧
      Reacts (numbered tunnel uplinkPeer before) uplinkPeer (lastSender before) received
        reaction ∧
      (∀ other later, lastSender other = lastSender before →
        (numbered tunnel uplinkPeer other).nextId = (numbered tunnel uplinkPeer before).nextId →
          ((start tunnel uplinkPeer).run (other ++ received :: later)).2[other.length]?
            = some reaction) := by
  have reacts := reacts_after quiet uplinkPeer before received
  refine ⟨_, fun later => reaction_at .., reacts, ?_⟩
  intro other later heard same
  have again := reacts_after quiet uplinkPeer other received
  have current : numbered tunnel uplinkPeer other = numbered tunnel uplinkPeer before :=
    congrArg (fun nextId => { tunnel with nextId }) same
  rw [current, heard] at again
  rw [reaction_at, again.unique reacts]

-- Two histories that end with the same sender, and a datagram that is sent on in answer.
theorem relay_reactions_loop :
    ∃ reaction : List (Sent Nat),
      ((start Tunnel.loop 9).run
          ([⟨.segment, 1, []⟩] ++ [⟨.segment, 2, Tunnel.datagram⟩])).2[1]? = some reaction ∧
        reaction = [⟨.uplink, 9, (Tunnel.loop.encapsulate Tunnel.datagram Tunnel.blank).packet⟩] ∧
        ((start Tunnel.loop 9).run
          ([⟨.segment, 7, [0]⟩, ⟨.uplink, 9, [1]⟩, ⟨.segment, 1, []⟩]
            ++ [⟨.segment, 2, Tunnel.datagram⟩])).2[3]? = some reaction := by
  have quiet : Tunnel.loop.hook = Dns64.passthrough := rfl
  obtain ⟨reaction, stands, reacts, same⟩ :=
    relay_reactions quiet 9 [⟨.segment, 1, []⟩] ⟨.segment, 2, Tunnel.datagram⟩
  refine ⟨reaction, stands [], ?_, same [⟨.segment, 7, [0]⟩, ⟨.uplink, 9, [1]⟩, ⟨.segment, 1, []⟩]
    [] rfl (by decide +kernel)⟩
  exact ((reacts.outward rfl (List.replicate maxPacket 0) List.length_replicate).emitted 65
    (by decide +kernel)).trans (by decide +kernel)

end Relay
end Nat64Gateway
