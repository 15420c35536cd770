import Nat64Gateway.Proofs.Guarded.Datagram
import Nat64Gateway.Proofs.Guarded.Header
import Nat64Gateway.Proofs.Guarded.Packet
import Nat64Gateway.Proofs.Nat64.Translation

namespace Nat64Gateway.Guarded

variable {target : Family}

def echoType (source target : Family) (carried : Icmp.Kind → Option Icmp.Kind) (cause : Drop)
    (bytes : Bytes) : Checked (Except Drop UInt8) :=
  match Icmp.Message.read source bytes with
  | .error fault => .ok (.error (.unreadable fault))
  | .ok message => do
    let kind ← messageKind message
    match carried kind with
    | none => .ok (.error cause)
    | some echo => .ok (.ok (echo.type target))

theorem echoType_eq (source target : Family) (carried : Icmp.Kind → Option Icmp.Kind)
    (cause : Drop) (bytes : Bytes) :
    echoType source target carried cause bytes
      = .ok (match Icmp.Message.read source bytes with
        | .error fault => .error (.unreadable fault)
        | .ok message =>
          match carried message.kind with
          | none => .error cause
          | some echo => .ok (echo.type target)) := by
  unfold echoType
  cases read : Icmp.Message.read source bytes with
  | error fault => rfl
  | ok message =>
    dsimp only
    rw [messageKind_eq read, ok_bind]
    cases carried message.kind <;> rfl

-- The segment stays as it came; its new type stands beside it.
def convert (source : Family) (segment : Segment) :
    Checked (Except Drop (Protocol × Option UInt8)) :=
  match segment.kind with
  | .udp => .ok (.ok (.udp, none))
  | .tcp => .ok (.ok (.tcp, none))
  | .icmp family =>
    if family ≠ source then .ok (.error (Nat64.misplaced source))
    else do
      let type? ← echoType source source.other (Nat64.carried? source) (Nat64.notCarried source)
        segment.bytes
      .ok (type?.map fun type => ((Segment.Kind.icmp source.other).protocol, some type))

theorem convert_eq (source : Family) (segment : Segment) :
    ∃ converted, convert source segment = .ok converted ∧
      Nat64.convert source segment
        = converted.map fun found => (found.1, withType found.2 segment.bytes) := by
  obtain ⟨kind, bytes⟩ := segment
  cases kind with
  | udp => exact ⟨_, rfl, rfl⟩
  | tcp => exact ⟨_, rfl, rfl⟩
  | icmp family =>
    unfold convert Nat64.convert
    dsimp only
    by_cases other : family ≠ source
    · rw [if_pos other, if_pos other]
      exact ⟨_, rfl, rfl⟩
    rw [if_neg other, if_neg other, echoType_eq, ok_bind]
    refine ⟨_, rfl, ?_⟩
    cases Icmp.Message.read source bytes with
    | error fault => rfl
    | ok message =>
      dsimp only
      cases Nat64.carried? source message.kind <;> rfl

-- The plan of the model, which has the new type in its segment already.
def typed (plan : Nat64.Plan target) (type? : Option UInt8) : Nat64.Plan target :=
  { plan with segment := withType type? plan.segment }

theorem header_typed (plan : Nat64.Plan target) (type? : Option UInt8) :
    (typed plan type?).header = plan.header := by
  cases target <;> rfl

def dropped (placed : Datagram.Placement) (nextId : UInt16) (cause : Drop) : Outcome :=
  { Outcome.refuse placed.buffer nextId cause with calls := placed.calls }

def finish (header : UInt16 → Nat → Packet.Header target) (nextId : UInt16)
    (placed : Datagram.Placement) : Checked Outcome :=
  match placed.length with
  | .error cause => .ok (dropped placed nextId cause)
  | .ok length =>
    if Datagram.maxLength < target.counted + length then
      .ok (dropped placed nextId (Nat64.exceedsLength target))
    else do
      let (identification, later) := Nat64.identify target nextId
      let buffer ← closed (header identification length) length placed.buffer
      .ok {
        verdict := .emitted (target.headerLength + length), buffer
        nextId := later
        calls := placed.calls }

def emit (plan : Nat64.Plan target) (type? : Option UInt8) (hook : Dns64.Hook) (nextId : UInt16)
    (buffer : Bytes) : Checked Outcome := do
  let placed ← place hook plan.message buffer target.headerLength plan.segment type?
  finish plan.header nextId placed

section Emit

variable {plan : Nat64.Plan target} {kind : Segment.Kind} {buffer : Bytes}

theorem finish_eq (hook : Dns64.Hook) (nextId : UInt16) (ready : plan.Ready kind buffer.length) :
    finish plan.header nextId (plan.place hook buffer)
      = .ok (plan.emit hook nextId buffer) := by
  cases sized : plan.size hook buffer with
  | error cause =>
    rw [Nat64.Plan.emit_refused nextId sized]
    unfold Nat64.Plan.size at sized
    unfold finish
    cases answer : (plan.place hook buffer).length with
    | error reason =>
      rw [answer] at sized
      cases sized
      rfl
    | ok length =>
      rw [answer] at sized
      obtain ⟨long, refused⟩ | ⟨_, passed⟩ := ite_eq_iff.mp sized
      · cases refused
        exact if_pos long
      · cases passed
  | ok length =>
    obtain ⟨answer, fits⟩ := Nat64.Plan.size_eq_ok.mp sized
    have emission := Nat64.Plan.emission nextId ready sized
    have inside : target.headerLength + length ≤ (plan.place hook buffer).buffer.length :=
      ready.length_place.symm ▸ emission.placed.inside
    have carries : (plan.header nextId length).Carries kind
        (((plan.place hook buffer).buffer.drop target.headerLength).take length) :=
      emission.carries
    unfold finish Nat64.Plan.emit Nat64.finish
    simp only [answer, if_neg (Nat.not_lt.mpr fits), Nat64.identify_fst, closed_eq inside carries,
      ok_bind]

theorem emit_eq {type? : Option UInt8} (hook : Dns64.Hook) (nextId : UInt16)
    (ready : (typed plan type?).Ready kind buffer.length) :
    emit plan type? hook nextId buffer = .ok ((typed plan type?).emit hook nextId buffer) := by
  have placed : place hook plan.message buffer target.headerLength plan.segment type?
      = .ok ((typed plan type?).place hook buffer) := place_eq ready.long ready.room
  unfold emit
  rw [placed, ok_bind, ← header_typed plan type?]
  exact finish_eq hook nextId ready

end Emit

def describe : Family → Bytes → Checked (Except Fault String)
  | .v4, data => do
    let packet? ← V4.read data
    match packet? with
    | .error fault => .ok (.error fault)
    | .ok packet => do
      let text ← V4.text packet
      .ok (.ok text)
  | .v6, data => do
    let packet? ← V6.read data
    match packet? with
    | .error fault => .ok (.error fault)
    | .ok packet => do
      let text ← V6.text packet
      .ok (.ok text)

theorem describe_eq (family : Family) (data : Bytes) :
    describe family data = .ok (Nat64.describe family data) := by
  unfold describe Nat64.describe
  cases family with
  | v4 =>
    dsimp only
    rw [V4.read_eq, ok_bind]
    cases read : Packet.V4.read data with
    | error fault => rfl
    | ok packet =>
      dsimp only
      rw [V4.text_eq (V4.held read)]
      rfl
  | v6 =>
    dsimp only
    rw [V6.read_eq, ok_bind]
    cases read : Packet.V6.read data with
    | error fault => rfl
    | ok packet =>
      dsimp only
      rw [V6.text_eq (V6.held read)]
      rfl

def report (target : Family) (text : Checked String) (outcome : Outcome) :
    Checked (List Log.Line) :=
  match outcome.verdict with
  | .dropped _ => .ok []
  | .emitted length => do
    let written ← sliceTo outcome.buffer length
    let result? ← describe target written
    match result? with
    | .error _ => .ok []
    | .ok right => do
      let left ← text
      .ok [⟨.trace, .nat64, "Translated " ++ left ++ " to " ++ right⟩]

theorem report_eq {outcome : Outcome} (text : String)
    (inside : outcome.length ≤ outcome.buffer.length) :
    report target (.ok text) outcome = .ok (Nat64.report target text outcome) := by
  unfold report Nat64.report Outcome.packet
  unfold Outcome.length at *
  cases verdict : outcome.verdict with
  | dropped cause => rfl
  | emitted length =>
    rw [verdict] at inside
    dsimp only at inside ⊢
    rw [sliceTo_eq inside, ok_bind, describe_eq, ok_bind]
    cases Nat64.describe target (outcome.buffer.take length) <;> rfl

def translate (hook : Dns64.Hook) (nextId : UInt16) (warnings : Checked (List Log.Line))
    (text : Checked String) (planned : Checked (Except Drop (Nat64.Plan target × Option UInt8)))
    (buffer : Bytes) : Checked Outcome := do
  let complaints ← warnings
  let planned ← planned
  let outcome ←
    match planned with
    | .error cause => .ok (.refuse buffer nextId cause)
    | .ok (plan, type?) => emit plan type? hook nextId buffer
  let trace ← report target text outcome
  .ok ((outcome.followedBy trace).precededBy complaints)

theorem translate_eq {planned : Except Drop (Nat64.Plan target × Option UInt8)}
    {known : Nat64.Plan target → Segment.Kind → Prop} {buffer : Bytes} (hook : Dns64.Hook)
    (nextId : UInt16) (warnings : List Log.Line) (text : String)
    (prepared : Nat64.Prepared (planned.map fun found => typed found.1 found.2) known
      buffer.length) :
    translate hook nextId (.ok warnings) (.ok text) (.ok planned) buffer
      = .ok (Nat64.translate hook nextId warnings text
          (planned.map fun found => typed found.1 found.2) buffer) := by
  unfold translate Nat64.translate
  rw [ok_bind, ok_bind]
  cases planned with
  | error cause =>
    dsimp only [Except.map]
    rw [ok_bind, report_eq text (Nat.zero_le _), ok_bind]
  | ok found =>
    obtain ⟨plan, type?⟩ := found
    obtain ⟨_, _, ready⟩ := prepared _ rfl
    dsimp only [Except.map]
    rw [emit_eq hook nextId ready, ok_bind,
      report_eq text (Nat64.Plan.length_emit_le nextId ready), ok_bind]

end Nat64Gateway.Guarded
