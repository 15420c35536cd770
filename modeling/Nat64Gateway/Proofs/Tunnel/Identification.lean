import Nat64Gateway.Proofs.Tunnel.RoundTrip
import Nat64Gateway.Tunnel.Session

namespace Nat64Gateway

def Outcome.accepted (outcome : Outcome) : Bool :=
  match outcome.verdict with
  | .emitted _ => true
  | .dropped _ => false

theorem Outcome.accepted_iff {outcome : Outcome} :
    outcome.accepted = true ↔ ∃ n, outcome.verdict = .emitted n := by
  unfold accepted
  cases outcome.verdict with
  | emitted length => simp
  | dropped cause => simp

namespace Nat64

variable {target : Family}

theorem Plan.emit_nextId (plan : Plan target) (hook : Dns64.Hook) (nextId : UInt16)
    (buffer : Bytes) : (plan.emit hook nextId buffer).nextId
      = if (plan.emit hook nextId buffer).accepted then (identify target nextId).2 else nextId := by
  cases sized : plan.size hook buffer with
  | error cause =>
    rw [emit_refused nextId sized]
    rfl
  | ok length =>
    obtain ⟨placed, fits⟩ := size_eq_ok.mp sized
    unfold emit finish
    simp only [placed, if_neg (Nat.not_lt.mpr fits)]
    rfl

theorem translate_nextId (hook : Dns64.Hook) (nextId : UInt16) (warnings : List Log.Line)
    (text : String) (planned : Except Drop (Plan target)) (buffer : Bytes) :
    (translate hook nextId warnings text planned buffer).nextId
      = if (translate hook nextId warnings text planned buffer).accepted then
          (identify target nextId).2
        else nextId := by
  cases planned with
  | error cause => rfl
  | ok plan => exact plan.emit_nextId hook nextId buffer

theorem Plan.emit_nextId_v6 (plan : Plan .v6) (hook : Dns64.Hook) (nextId : UInt16)
    (buffer : Bytes) : (plan.emit hook nextId buffer).nextId = nextId :=
  (plan.emit_nextId hook nextId buffer).trans (ite_self _)

theorem ToV6.run_nextId (context : Context) (hook : Dns64.Hook) (nextId : UInt16)
    (packet : Packet.V4) (buffer : Bytes) :
    (ToV6.run context hook nextId packet buffer).nextId = nextId :=
  (translate_nextId ..).trans (ite_self _)

end Nat64

namespace Tunnel

theorem Flow.emit_nextId (flow : Flow) (tunnel : Tunnel) (hopLimit : UInt8) (buffer : Bytes) :
    (flow.emit tunnel hopLimit buffer).nextId = tunnel.nextId :=
  Nat64.Plan.emit_nextId_v6 ..

theorem unframe_nextId (tunnel : Tunnel) (packet : Packet.V4) (buffer : Bytes) :
    (tunnel.unframe packet buffer).nextId = tunnel.nextId := by
  unfold unframe
  cases checkPeer tunnel.context packet with
  | error cause => rfl
  | ok passed =>
    cases flowOf tunnel.context packet buffer.length with
    | error cause => rfl
    | ok flow => exact flow.emit_nextId tunnel packet.timeToLive buffer

theorem decapsulate_nextId (tunnel : Tunnel) (data buffer : Bytes) :
    (tunnel.decapsulate data buffer).nextId = tunnel.nextId := by
  unfold decapsulate
  cases Packet.V4.read data with
  | error fault => rfl
  | ok packet =>
    dsimp only
    split
    · exact unframe_nextId ..
    · exact Nat64.ToV6.run_nextId ..

-- The plain packet was complete when it turned out that its frame is too long.
def frameExceeds (tunnel : Tunnel) (data buffer : Bytes) : Bool :=
  match Packet.V6.read data with
  | .error _ => false
  | .ok packet =>
    let plain := tunnel.plainOut packet buffer
    let needed := framing packet.segment.protocol
    !bypasses tunnel.context packet.segment && tunnel.context.host.isSome
      && 20 + packet.segment.bytes.length + needed ≤ buffer.length
      && plain.accepted && min buffer.length Datagram.maxLength < plain.length + needed

inductive Handled (tunnel : Tunnel) (data buffer : Bytes) (outcome : Outcome) : Prop where
  | accepted (n : Nat) (verdict : outcome.verdict = .emitted n)
      (used : outcome.nextId = tunnel.nextId + 1)
      (fits : tunnel.frameExceeds data buffer = false)
  | exceeded (verdict : outcome.verdict = .dropped .framedExceedsBuffer)
      (used : outcome.nextId = tunnel.nextId + 1)
      (exceeds : tunnel.frameExceeds data buffer = true)
  | refused (cause : Drop) (verdict : outcome.verdict = .dropped cause)
      (kept : outcome.nextId = tunnel.nextId)
      (never : tunnel.frameExceeds data buffer = false)

theorem plainOut_nextId (tunnel : Tunnel) (packet : Packet.V6) (buffer : Bytes) :
    (tunnel.plainOut packet buffer).nextId
      = if (tunnel.plainOut packet buffer).accepted then tunnel.nextId + 1 else tunnel.nextId :=
  Nat64.translate_nextId ..

theorem frame_handled {tunnel : Tunnel} {data buffer : Bytes} {packet : Packet.V6}
    {host : Address.V4} (read : Packet.V6.read data = .ok packet)
    (tunneled : bypasses tunnel.context packet.segment = false)
    (known : tunnel.context.host = some host)
    (room : 20 + packet.segment.bytes.length + framing packet.segment.protocol ≤ buffer.length) :
    Handled tunnel data buffer (tunnel.frame host packet (tunnel.plainOut packet buffer)) := by
  have used := tunnel.plainOut_nextId packet buffer
  have exceeds : tunnel.frameExceeds data buffer
      = ((tunnel.plainOut packet buffer).accepted
        && decide (min buffer.length Datagram.maxLength
          < (tunnel.plainOut packet buffer).length + framing packet.segment.protocol)) := by
    unfold frameExceeds
    simp [read, tunneled, known, room]
  unfold frame
  cases verdict : (tunnel.plainOut packet buffer).verdict with
  | dropped cause =>
    have dropped : (tunnel.plainOut packet buffer).accepted = false := by
      unfold Outcome.accepted
      rw [verdict]
    rw [dropped] at used exceeds
    exact .refused cause verdict used exceeds
  | emitted length =>
    have accepted := Outcome.accepted_iff.mpr ⟨length, verdict⟩
    obtain ⟨_, departed⟩ := plainOut_emitted read verdict
    have total : (tunnel.plainOut packet buffer).length = length := by
      unfold Outcome.length
      rw [verdict]
    rw [accepted, if_pos rfl] at used
    rw [accepted, total, Bool.true_and] at exceeds
    rw [departed.kept]
    dsimp only
    split
    · rename_i long
      exact .exceeded rfl used (exceeds.trans (decide_eq_true (by omega)))
    · rename_i short
      exact .accepted _ rfl used (exceeds.trans (decide_eq_false (by omega)))

theorem handled (tunnel : Tunnel) (data buffer : Bytes) :
    Handled tunnel data buffer (tunnel.encapsulate data buffer) := by
  cases read : Packet.V6.read data with
  | error fault =>
    have never : tunnel.frameExceeds data buffer = false := by
      unfold frameExceeds
      rw [read]
    unfold encapsulate
    rw [read]
    exact .refused _ rfl rfl never
  | ok packet =>
    cases bypass : bypasses tunnel.context packet.segment with
    | true =>
      have never : tunnel.frameExceeds data buffer = false := by
        unfold frameExceeds
        simp [read, bypass]
      have used := tunnel.plainOut_nextId packet buffer
      rw [encapsulate_plain read bypass]
      cases verdict : (tunnel.plainOut packet buffer).verdict with
      | dropped cause =>
        unfold Outcome.accepted at used
        rw [verdict] at used
        exact .refused cause verdict used never
      | emitted length =>
        rw [Outcome.accepted_iff.mpr ⟨length, verdict⟩, if_pos rfl] at used
        exact .accepted length verdict used never
    | false =>
      unfold encapsulate
      simp only [read, bypass, Bool.false_eq_true, if_false]
      cases known : tunnel.context.host with
      | none =>
        have never : tunnel.frameExceeds data buffer = false := by
          unfold frameExceeds
          simp [read, known]
        exact .refused _ rfl rfl never
      | some host =>
        dsimp only
        split
        · rename_i narrow
          have never : tunnel.frameExceeds data buffer = false := by
            unfold frameExceeds
            simp [read, Nat.not_le.mpr narrow]
          exact .refused _ rfl rfl never
        · rename_i room
          exact frame_handled read bypass known (Nat.not_lt.mp room)

theorem dropped_of_frameExceeds {tunnel : Tunnel} {data buffer : Bytes}
    (exceeds : tunnel.frameExceeds data buffer = true) :
    (tunnel.encapsulate data buffer).verdict = .dropped .framedExceedsBuffer := by
  cases handled tunnel data buffer with
  | accepted n verdict used fits =>
    rw [exceeds] at fits
    cases fits
  | exceeded verdict => exact verdict
  | refused cause verdict kept never =>
    rw [exceeds] at never
    cases never

theorem encapsulate_identification {tunnel : Tunnel} {data buffer : Bytes} {n : Nat}
    (emitted : (tunnel.encapsulate data buffer).verdict = .emitted n) :
    ∃ sent, Packet.V4.read (tunnel.encapsulate data buffer).packet = .ok sent ∧
      sent.identification = tunnel.nextId := by
  obtain ⟨original, read, _⟩ := encapsulate_emitted emitted
  cases bypass : bypasses tunnel.context original.segment with
  | true =>
    obtain ⟨_, sound, short, _⟩ := Packet.V6.segment_of_read read
    rw [encapsulate_plain read bypass] at emitted ⊢
    obtain ⟨plan, kind, length, _, _, emission⟩ := Nat64.ToV4.run_emitted sound short emitted
    exact ⟨_, emission.read_v4, Packet.Header4.identification_packet ..⟩
  | false =>
    obtain ⟨host, length, _, _, framed⟩ := encapsulate_framed read bypass emitted
    have read_sent := framed.carries.read_packet
    rw [← framed.packet_eq] at read_sent
    exact ⟨_, read_sent, Packet.Header4.identification_packet ..⟩

def accepts (tunnel : Tunnel) : Operation → Bool
  | .encapsulate hook data buffer => ((tunnel.meeting hook).encapsulate data buffer).accepted
  | .decapsulate .. | .configure _ => false

def overflows (tunnel : Tunnel) : Operation → Bool
  | .encapsulate hook data buffer => (tunnel.meeting hook).frameExceeds data buffer
  | .decapsulate .. | .configure _ => false

theorem configure_nextId (tunnel : Tunnel) (setting : Context.Setting) :
    (tunnel.configure setting).nextId = tunnel.nextId := by
  unfold configure
  cases tunnel.context.apply setting with
  | ok result => rfl
  | error fault => rfl

theorem perform_nextId (tunnel : Tunnel) (operation : Operation) :
    (tunnel.perform operation).nextId
      = tunnel.nextId
        + UInt16.ofNat ((tunnel.accepts operation).toNat + (tunnel.overflows operation).toNat) := by
  cases operation with
  | encapsulate hook data buffer =>
    have outcome := handled (tunnel.meeting hook) data buffer
    unfold perform accepts overflows after
    dsimp only
    cases outcome with
    | accepted n verdict used fits =>
      rw [used, fits, Outcome.accepted_iff.mpr ⟨n, verdict⟩]
      rfl
    | exceeded verdict used exceeds =>
      unfold Outcome.accepted
      rw [used, exceeds, verdict]
      rfl
    | refused cause verdict kept never =>
      unfold Outcome.accepted
      rw [kept, never, verdict]
      exact (UInt16.add_zero _).symm
  | decapsulate hook data buffer =>
    exact (decapsulate_nextId ..).trans (UInt16.add_zero _).symm
  | configure setting => exact (configure_nextId ..).trans (UInt16.add_zero _).symm

theorem reach_nextId (tunnel : Tunnel) (operations : List Operation) :
    (tunnel.reach operations).nextId
      = tunnel.nextId
        + UInt16.ofNat (tunnel.count accepts operations + tunnel.count overflows operations) := by
  induction operations generalizing tunnel with
  | nil => exact (UInt16.add_zero _).symm
  | cons operation later ih =>
    have step := tunnel.perform_nextId operation
    have rest := ih (tunnel.perform operation)
    rw [step, UInt16.add_assoc, ← UInt16.ofNat_add] at rest
    refine rest.trans (congrArg (fun used => tunnel.nextId + UInt16.ofNat used) ?_)
    simp only [count]
    omega

-- A hook that leaves the length alone overflows only what is too long for any packet.
theorem frameExceeds_passthrough {tunnel : Tunnel} {data buffer : Bytes}
    (quiet : tunnel.hook = Dns64.passthrough) (small : buffer.length ≤ Datagram.maxLength) :
    tunnel.frameExceeds data buffer = false := by
  unfold frameExceeds
  cases read : Packet.V6.read data with
  | error fault => rfl
  | ok packet =>
    dsimp only
    cases verdict : (tunnel.plainOut packet buffer).verdict with
    | dropped cause =>
      unfold Outcome.accepted
      simp [verdict]
    | emitted length =>
      obtain ⟨_, _, _, size, _⟩ := plainOut_passthrough quiet read verdict
      have total : (tunnel.plainOut packet buffer).length = 20 + packet.segment.bytes.length := by
        unfold Outcome.length
        rw [verdict]
        exact size
      rw [total]
      by_cases room :
          20 + packet.segment.bytes.length + framing packet.segment.protocol ≤ buffer.length
      · have enough : ¬ min buffer.length Datagram.maxLength
            < 20 + packet.segment.bytes.length + framing packet.segment.protocol := by omega
        simp [enough]
      · simp [room]

theorem reach_toNat (tunnel : Tunnel) (operations : List Operation) :
    (tunnel.reach operations).nextId.toNat
      = (tunnel.nextId.toNat + tunnel.count accepts operations
          + tunnel.count overflows operations) % 65536 := by
  rw [reach_nextId, UInt16.toNat_add, UInt16.toNat_ofNat']
  omega

theorem reach_append (tunnel : Tunnel) (operations : List Operation) (operation : Operation) :
    tunnel.reach (operations ++ [operation]) = (tunnel.reach operations).perform operation :=
  List.foldl_append ..

-- At every point of every run: how far the counter is, and who moves it.
theorem identifications_along (tunnel : Tunnel) (before : List Operation) :
    (tunnel.reach before).nextId.toNat
        = (tunnel.nextId.toNat + tunnel.count accepts before
            + tunnel.count overflows before) % 65536 ∧
      (∀ hook data buffer n,
        (((tunnel.reach before).meeting hook).encapsulate data buffer).verdict = .emitted n →
          ∃ sent,
            Packet.V4.read (((tunnel.reach before).meeting hook).encapsulate data buffer).packet
              = .ok sent ∧
            sent.identification.toNat
              = (tunnel.nextId.toNat + tunnel.count accepts before
                  + tunnel.count overflows before) % 65536) ∧
      (∀ operation, (tunnel.reach before).accepts operation = false →
        (tunnel.reach before).overflows operation = false →
          (tunnel.reach (before ++ [operation])).nextId = (tunnel.reach before).nextId) ∧
      (∀ hook data buffer, (tunnel.reach before).overflows (.encapsulate hook data buffer) = true →
        (((tunnel.reach before).meeting hook).encapsulate data buffer).verdict
          = .dropped .framedExceedsBuffer) := by
  refine ⟨reach_toNat .., ?_, ?_, ?_⟩
  · intro hook data buffer n emitted
    obtain ⟨sent, read, same⟩ := encapsulate_identification emitted
    refine ⟨sent, read, ?_⟩
    rw [same]
    exact reach_toNat ..
  · intro operation refused fits
    rw [reach_append, perform_nextId, refused, fits]
    exact UInt16.add_zero _
  · intro hook data buffer overflow
    exact dropped_of_frameExceeds overflow

-- A DNS64 service that adds a byte to every message, and a query that has just room for its frame.
def appending : Dns64.Hook where
  edit _ room length :=
    (if length < room.length then Wire.overwrite room length [0] else room, length + 1)
  length_edit _ room length := by
    dsimp only
    split
    · rename_i inside
      exact Wire.length_overwrite inside
    · rfl

def query : Bytes :=
  datagram.take 40 ++ [0x13, 0x88, 0, 53, 0, 9, 0x26, 0x16, 7]

def scarce : Bytes := List.replicate 65 0

theorem identifications_along_loop :
    ∃ sent,
      Packet.V4.read (((loop.reach [.encapsulate appending query blank,
          .decapsulate appending query blank]).meeting appending).encapsulate datagram blank).packet
        = .ok sent ∧
      sent.identification.toNat = 1 := by
  obtain ⟨_, carried, _⟩ := identifications_along loop
    [.encapsulate appending query blank, .decapsulate appending query blank]
  exact carried appending datagram blank 65 (by rfl)

-- The query is dropped, and yet the datagram behind it, the first to get through, is not the first
-- to use an identification.
theorem identification_skipped :
    ((loop.meeting appending).encapsulate query scarce).verdict = .dropped .framedExceedsBuffer ∧
      loop.nextId = 0 ∧ loop.count accepts [.encapsulate appending query scarce] = 0 ∧
      ∃ sent,
        Packet.V4.read (((loop.reach [.encapsulate appending query scarce]).meeting
            appending).encapsulate datagram blank).packet = .ok sent ∧
        sent.identification = 1 ∧
        sent.identification.toNat ≠ (loop.nextId.toNat
          + loop.count accepts [.encapsulate appending query scarce]) % 65536 := by
  refine ⟨by rfl, rfl, by rfl, ?_⟩
  exact ⟨_, by rfl, by rfl, by decide⟩

end Tunnel
end Nat64Gateway
