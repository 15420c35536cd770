import Nat64Gateway.Proofs.Relay.Reactions

namespace Nat64Gateway.Relay

variable {Peer : Type}

def isOutbound (received : Received Peer) : Bool :=
  received.side = .segment

-- A history without some of its uplink datagrams; `gone` tells them by their places.
def without (gone : Nat → Bool) (history : List (Received Peer)) : List (Received Peer) :=
  (history.zipIdx.filter fun entry => isOutbound entry.1 || !gone entry.2).map Prod.fst

def sentOn (side : Side) (reactions : List (List (Sent Peer))) : List (Sent Peer) :=
  reactions.flatten.filter (·.side = side)

theorem outbound_without (gone : Nat → Bool) (history : List (Received Peer)) :
    (without gone history).filter isOutbound = history.filter isOutbound := by
  have kept : (fun entry : Received Peer × Nat =>
      (isOutbound ∘ Prod.fst) entry && (isOutbound entry.1 || !gone entry.2))
        = isOutbound ∘ Prod.fst := by
    funext entry
    rw [Function.comp_apply, Bool.and_or_distrib_left, Bool.and_self, Bool.or_eq_left_iff_imp]
    exact fun outbound => (Bool.and_eq_true_iff.mp outbound).1
  unfold without
  rw [List.filter_map, List.filter_filter, kept, ← List.filter_map, List.zipIdx_map_fst]

variable [DecidableEq Peer]

def exchanges (relay : Relay Peer) (history : List (Received Peer)) :
    List (Received Peer × List (Sent Peer)) :=
  history.zip (relay.run history).2

theorem exchanges_cons (relay : Relay Peer) (received : Received Peer)
    (later : List (Received Peer)) :
    exchanges relay (received :: later)
      = (received, (relay.step received).2) :: exchanges (relay.step received).1 later :=
  rfl

-- The senders that a relay listens to, once it knows whom to tell.
def listensTo (uplinkPeer : Peer) (received : Received Peer) : Bool :=
  isOutbound received || received.sender = uplinkPeer

-- Entries about datagrams, without those about strangers' and those about what came from the uplink
-- before the segment was heard from.
def heeded {α : Type} (uplinkPeer : Peer) (datagram : α → Received Peer) (entries : List α) :
    List α :=
  (entries.dropWhile fun entry => !isOutbound (datagram entry)).filter fun entry =>
    listensTo uplinkPeer (datagram entry)

section Step

variable {relay : Relay Peer} {received : Received Peer}

theorem side_step {sent : Sent Peer} (present : sent ∈ (relay.step received).2) :
    sent.side ≠ received.side := by
  have form := stepped relay received
  generalize relay.step received = result at form present
  cases form with
  | outward side =>
    rw [side_sent present, side]
    decide
  | inward side =>
    rw [side_sent present, side]
    decide
  | stranger => cases present
  | early => cases present

-- Nothing else goes to the uplink than what is said on the segment.
theorem filter_step (relay : Relay Peer) (received : Received Peer) :
    (relay.step received).2.filter (·.side = .uplink)
      = if isOutbound received then (relay.step received).2 else [] := by
  cases side : received.side with
  | segment =>
    have outbound : isOutbound received = true := decide_eq_true side
    rw [if_pos outbound, List.filter_eq_self]
    intro sent present
    cases other : sent.side with
    | segment => exact absurd (other.trans side.symm) (side_step present)
    | uplink => rfl
  | uplink =>
    rw [if_neg (by simp [isOutbound, side]), List.filter_eq_nil_iff]
    intro sent present uplink
    exact side_step present ((of_decide_eq_true uplink).trans side.symm)

theorem step_uplinkPeer (relay : Relay Peer) (received : Received Peer) :
    (relay.step received).1.uplinkPeer = relay.uplinkPeer := by
  have form := stepped relay received
  generalize relay.step received = result at form ⊢
  cases form <;> rfl

theorem step_idle (inbound : isOutbound received = false)
    (idle : received.sender ≠ relay.uplinkPeer ∨ relay.segmentPeer = none) :
    relay.step received = (relay, []) := by
  have form := stepped relay received
  generalize relay.step received = result at form ⊢
  cases form with
  | outward side =>
    unfold isOutbound at inbound
    simp [side] at inbound
  | inward _ known recipient heard =>
    rcases idle with unknown | unheard
    · exact absurd known unknown
    · rw [heard] at unheard
      cases unheard
  | stranger => rfl
  | early => rfl

theorem run_cons_idle (idle : relay.step received = (relay, [])) (later : List (Received Peer)) :
    relay.run (received :: later) = ((relay.run later).1, [] :: (relay.run later).2) := by
  simp only [run, idle]

end Step

-- Without the datagrams that find the relay idle, a run comes to the same.
structure Spared (relay : Relay Peer) (history kept : List (Received Peer))
    (remaining : List (Received Peer × List (Sent Peer))) : Prop where
  exchanges : exchanges relay kept = remaining
  sent : (relay.run kept).2.flatten = (relay.run history).2.flatten
  final : (relay.run kept).1 = (relay.run history).1

namespace Spared

variable {relay : Relay Peer} {received : Received Peer} {later kept : List (Received Peer)}
  {remaining : List (Received Peer × List (Sent Peer))}

theorem refl (relay : Relay Peer) (history : List (Received Peer)) :
    Spared relay history history (Relay.exchanges relay history) :=
  ⟨rfl, rfl, rfl⟩

theorem keep (rest : Spared (relay.step received).1 later kept remaining) :
    Spared relay (received :: later) (received :: kept)
      ((received, (relay.step received).2) :: remaining) := by
  refine ⟨congrArg (_ :: ·) rest.exchanges, ?_, rest.final⟩
  exact congrArg ((relay.step received).2 ++ ·) rest.sent

theorem skip (idle : relay.step received = (relay, []))
    (rest : Spared relay later kept remaining) :
    Spared relay (received :: later) kept remaining := by
  refine ⟨rest.exchanges, ?_, ?_⟩
  · rw [run_cons_idle idle]
    exact rest.sent
  · rw [run_cons_idle idle]
    exact rest.final

end Spared

theorem spared_strangers (relay : Relay Peer) (history : List (Received Peer)) :
    Spared relay history (history.filter (listensTo relay.uplinkPeer))
      ((exchanges relay history).filter fun entry => listensTo relay.uplinkPeer entry.1) := by
  induction history generalizing relay with
  | nil => exact .refl relay []
  | cons received later ih =>
    have rest := ih (relay.step received).1
    rw [step_uplinkPeer] at rest
    simp only [exchanges_cons, List.filter_cons]
    cases heard : listensTo relay.uplinkPeer received with
    | true => exact rest.keep
    | false =>
      obtain ⟨inbound, unknown⟩ := Bool.or_eq_false_iff.mp heard
      have idle := step_idle inbound (.inl (of_decide_eq_false unknown))
      rw [idle] at rest ⊢
      exact rest.skip idle

theorem spared_early {relay : Relay Peer} (unheard : relay.segmentPeer = none)
    (history : List (Received Peer)) :
    Spared relay history (history.dropWhile fun received => !isOutbound received)
      ((exchanges relay history).dropWhile fun entry => !isOutbound entry.1) := by
  induction history with
  | nil => exact .refl relay []
  | cons received later ih =>
    simp only [exchanges_cons, List.dropWhile_cons]
    cases outbound : isOutbound received with
    | true => exact .refl relay (received :: later)
    | false =>
      have idle := step_idle outbound (.inr unheard)
      rw [idle]
      exact ih.skip idle

-- Whoever is not listened to, and whoever speaks too early, is not noticed.
theorem spared_heeded {relay : Relay Peer} (unheard : relay.segmentPeer = none)
    (history : List (Received Peer)) :
    Spared relay history (heeded relay.uplinkPeer id history)
      (heeded relay.uplinkPeer Prod.fst (exchanges relay history)) := by
  have early := spared_early unheard history
  have strangers := spared_strangers relay (history.dropWhile fun received => !isOutbound received)
  rw [early.exchanges] at strangers
  exact ⟨strangers.exchanges, strangers.sent.trans early.sent, strangers.final.trans early.final⟩

section Outbound

-- Two relays that differ in what they hold of earlier datagrams and in whom they have heard from.
structure Alike (first second : Relay Peer) : Prop where
  tunnel : first.tunnel = second.tunnel
  uplinkPeer : first.uplinkPeer = second.uplinkPeer
  scratch : first.scratch.length = maxPacket
  scratch_other : second.scratch.length = maxPacket

variable {first second : Relay Peer} {received : Received Peer}

theorem step_tunnel {relay : Relay Peer} (received : Received Peer)
    (quiet : relay.tunnel.hook = Dns64.passthrough) (scratch : relay.scratch.length = maxPacket) :
    (relay.step received).1.tunnel
        = { relay.tunnel with
            nextId := relay.tunnel.nextId
              + UInt16.ofNat ((relay.step received).2.countP (·.side = .uplink)) } ∧
      (relay.step received).1.scratch.length = maxPacket := by
  have same : Running relay.tunnel relay.uplinkPeer relay.segmentPeer relay :=
    ⟨rfl, rfl, rfl, rfl, scratch⟩
  obtain ⟨context, hook, _, _, kept⟩ := running_step received same
  refine ⟨?_, kept⟩
  simp only [← step_nextId received quiet scratch, ← context, ← hook]

theorem alike_of_inbound (alike : Alike first second)
    (quiet : first.tunnel.hook = Dns64.passthrough) (inbound : isOutbound received = false) :
    Alike (first.step received).1 second := by
  have silent : (first.step received).2.countP (·.side = .uplink) = 0 := by
    rw [List.countP_eq_length_filter, filter_step, inbound]
    rfl
  obtain ⟨tunnel, kept⟩ := step_tunnel received quiet alike.scratch
  refine ⟨?_, (step_uplinkPeer ..).trans alike.uplinkPeer, kept, alike.scratch_other⟩
  rw [tunnel, silent, ← alike.tunnel]
  exact congrArg (fun nextId => { first.tunnel with nextId }) (UInt16.add_zero _)

theorem step_outbound (alike : Alike first second)
    (quiet : first.tunnel.hook = Dns64.passthrough) (outbound : isOutbound received = true) :
    (first.step received).2 = (second.step received).2 ∧
      Alike (first.step received).1 (second.step received).1 := by
  have side : received.side = .segment := of_decide_eq_true outbound
  have quiet_other : second.tunnel.hook = Dns64.passthrough := alike.tunnel ▸ quiet
  have faithful : first.tunnel.hook.Local := quiet.symm ▸ Dns64.passthrough_local
  have faithful_other : second.tunnel.hook.Local := quiet_other.symm ▸ Dns64.passthrough_local
  have reacts := reacts_step received faithful alike.scratch
  have reacts_other := reacts_step received faithful_other alike.scratch_other
  have answers := reacts.outward side _ alike.scratch
  rw [alike.tunnel, alike.uplinkPeer] at answers
  have reaction : (first.step received).2 = (second.step received).2 :=
    answers.unique (reacts_other.outward side _ alike.scratch)
  obtain ⟨tunnel, kept⟩ := step_tunnel received quiet alike.scratch
  obtain ⟨tunnel_other, kept_other⟩ := step_tunnel received quiet_other alike.scratch_other
  refine ⟨reaction, ?_, ?_, kept, kept_other⟩
  · rw [tunnel, tunnel_other, reaction, alike.tunnel]
  · rw [step_uplinkPeer, step_uplinkPeer, alike.uplinkPeer]

-- The segment's datagrams are answered as in the run in which they are all there is.
theorem exchanges_outbound (alike : Alike first second)
    (quiet : first.tunnel.hook = Dns64.passthrough) (history : List (Received Peer)) :
    (exchanges first history).filter (fun entry => isOutbound entry.1)
      = exchanges second (history.filter isOutbound) := by
  induction history generalizing first second with
  | nil => rfl
  | cons received later ih =>
    obtain ⟨tunnel, _⟩ := step_tunnel received quiet alike.scratch
    have quiet_next : (first.step received).1.tunnel.hook = Dns64.passthrough := by
      rw [tunnel]
      exact quiet
    simp only [exchanges_cons, List.filter_cons]
    cases outbound : isOutbound received with
    | true =>
      obtain ⟨reaction, next⟩ := step_outbound alike quiet outbound
      simp only [if_true, exchanges_cons, ih next quiet_next, reaction]
    | false => exact ih (alike_of_inbound alike quiet outbound) quiet_next

theorem sentOn_uplink (relay : Relay Peer) (history : List (Received Peer)) :
    sentOn .uplink (relay.run history).2
      = ((exchanges relay history).filter fun entry => isOutbound entry.1).flatMap Prod.snd := by
  induction history generalizing relay with
  | nil => rfl
  | cons received later ih =>
    have split : sentOn .uplink (relay.run (received :: later)).2
        = (relay.step received).2.filter (·.side = .uplink)
          ++ sentOn .uplink ((relay.step received).1.run later).2 := List.filter_append ..
    rw [split, ih, filter_step]
    simp only [exchanges_cons, List.filter_cons]
    cases isOutbound received with
    | true => rfl
    | false => rfl

end Outbound

-- Neither what is ignored nor what the uplink says at all reaches where it should not.
theorem noninterference {tunnel : Tunnel} (quiet : tunnel.hook = Dns64.passthrough)
    (uplinkPeer : Peer) (history : List (Received Peer)) :
    (exchanges (start tunnel uplinkPeer) (heeded uplinkPeer id history)
          = heeded uplinkPeer Prod.fst (exchanges (start tunnel uplinkPeer) history) ∧
        emitted ((start tunnel uplinkPeer).run (heeded uplinkPeer id history)).2
          = emitted ((start tunnel uplinkPeer).run history).2 ∧
        ((start tunnel uplinkPeer).run (heeded uplinkPeer id history)).1
          = ((start tunnel uplinkPeer).run history).1) ∧
      (∀ gone,
        (exchanges (start tunnel uplinkPeer) (without gone history)).filter
              (fun entry => isOutbound entry.1)
            = (exchanges (start tunnel uplinkPeer) history).filter
              (fun entry => isOutbound entry.1) ∧
          sentOn .uplink ((start tunnel uplinkPeer).run (without gone history)).2
            = sentOn .uplink ((start tunnel uplinkPeer).run history).2) := by
  have room : (start tunnel uplinkPeer).scratch.length = maxPacket := List.length_replicate
  have alike : Alike (start tunnel uplinkPeer) (start tunnel uplinkPeer) := ⟨rfl, rfl, room, room⟩
  obtain ⟨remaining, sent, final⟩ : Spared (start tunnel uplinkPeer) history
      (heeded uplinkPeer id history)
      (heeded uplinkPeer Prod.fst (exchanges (start tunnel uplinkPeer) history)) :=
    spared_heeded rfl history
  refine ⟨⟨remaining, congrArg (List.map Sent.data) sent, final⟩, ?_⟩
  intro gone
  have outbound : (exchanges (start tunnel uplinkPeer) (without gone history)).filter
        (fun entry => isOutbound entry.1)
      = (exchanges (start tunnel uplinkPeer) history).filter (fun entry => isOutbound entry.1) := by
    rw [exchanges_outbound alike quiet, exchanges_outbound alike quiet, outbound_without]
  refine ⟨outbound, ?_⟩
  rw [sentOn_uplink, sentOn_uplink, outbound]

-- A stranger and a hasty peer, then a packet each way, then the stranger again.
def lively : List (Received Nat) := [
  ⟨.uplink, 9, [1]⟩,
  ⟨.uplink, 5, [2]⟩,
  ⟨.segment, 2, Tunnel.datagram⟩,
  ⟨.uplink, 9, (Tunnel.loop.encapsulate Tunnel.datagram Tunnel.blank).packet⟩,
  ⟨.uplink, 5, Tunnel.datagram⟩,
  ⟨.segment, 3, Tunnel.datagram⟩]

theorem noninterference_loop :
    ((start Tunnel.loop 9).run [
          ⟨.segment, 2, Tunnel.datagram⟩,
          ⟨.uplink, 9, (Tunnel.loop.encapsulate Tunnel.datagram Tunnel.blank).packet⟩,
          ⟨.segment, 3, Tunnel.datagram⟩]).1
        = ((start Tunnel.loop 9).run lively).1 ∧
      sentOn .uplink ((start Tunnel.loop 9).run [
          ⟨.segment, 2, Tunnel.datagram⟩,
          ⟨.segment, 3, Tunnel.datagram⟩]).2
        = sentOn .uplink ((start Tunnel.loop 9).run lively).2 := by
  have quiet : Tunnel.loop.hook = Dns64.passthrough := rfl
  obtain ⟨⟨_, _, final⟩, unmoved⟩ := noninterference quiet 9 lively
  exact ⟨final, (unmoved fun _ => true).2⟩

end Nat64Gateway.Relay
