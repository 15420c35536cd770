import Nat64Gateway.Proofs.Emission

namespace Nat64Gateway.Nat64

inductive Converted (source : Family) : Segment → Segment.Kind → Bytes → Prop where
  | udp (bytes : Bytes) : Converted source ⟨.udp, bytes⟩ .udp bytes
  | tcp (bytes : Bytes) : Converted source ⟨.tcp, bytes⟩ .tcp bytes
  | echo (bytes : Bytes) (kind : Icmp.Kind) (long : 8 ≤ bytes.length)
      (carried : carried? source
        (Icmp.Kind.ofHeader source (Wire.byte bytes 0) (Wire.byte bytes 1)) = some kind) :
      Converted source ⟨.icmp source, bytes⟩ (.icmp source.other)
        (Wire.overwrite bytes 0 [kind.type source.other])

section Convert

variable {source : Family} {segment : Segment} {kind : Segment.Kind} {bytes : Bytes}

theorem convert_icmp_eq_ok {whole : Bytes} {protocol : Protocol}
    (converted : convert source ⟨.icmp source, whole⟩ = .ok (protocol, bytes)) :
    protocol = (Segment.Kind.icmp source.other).protocol ∧
      Converted source ⟨.icmp source, whole⟩ (.icmp source.other) bytes := by
  unfold convert at converted
  simp only [ne_eq, not_true_eq_false, if_false] at converted
  cases read : Icmp.Message.read source whole with
  | error fault => simp [read] at converted
  | ok message =>
    obtain ⟨long, rfl⟩ := Icmp.Message.read_eq_ok read
    cases found : carried? source (Icmp.Message.kind ⟨source, whole⟩) with
    | none => simp [read, found] at converted
    | some echo =>
      simp only [read, found] at converted
      cases converted
      exact ⟨rfl, .echo _ _ long found⟩

theorem convert_eq_ok {protocol : Protocol} : convert source segment = .ok (protocol, bytes) ↔
    ∃ kind, Segment.Kind.protocol kind = protocol ∧ Converted source segment kind bytes := by
  constructor
  · obtain ⟨kind, whole⟩ := segment
    intro converted
    cases kind with
    | udp => cases converted; exact ⟨.udp, rfl, .udp _⟩
    | tcp => cases converted; exact ⟨.tcp, rfl, .tcp _⟩
    | icmp family =>
      by_cases misplaced : family ≠ source
      · simp [convert, misplaced] at converted
      · cases Decidable.not_not.mp misplaced
        obtain ⟨rfl, shape⟩ := convert_icmp_eq_ok converted
        exact ⟨_, rfl, shape⟩
  · rintro ⟨kind, rfl, converted⟩
    cases converted with
    | udp => rfl
    | tcp => rfl
    | echo _ _ long carried =>
      simp only [convert, Icmp.Message.read_of_long long, Icmp.Message.kind, carried, ne_eq,
        not_true_eq_false, if_false]

namespace Converted

theorem length_eq (converted : Converted source segment kind bytes) :
    bytes.length = segment.bytes.length := by
  cases converted with
  | udp => rfl
  | tcp => rfl
  | echo _ _ long => exact Wire.length_overwrite (Nat.le_trans (by decide : 0 + 1 ≤ 8) long)

theorem sound (converted : Converted source segment kind bytes) (whole : segment.Sound) :
    Segment.Sound ⟨kind, bytes⟩ := by
  cases converted with
  | udp => exact whole
  | tcp => exact whole
  | echo bytes _ long =>
    have asked : Segment.Sound ⟨.icmp source.other, bytes⟩ := Nat.le_trans (by decide : 4 ≤ 8) long
    exact asked.overwrite (Nat.le_trans (by decide : 0 + 1 ≤ 8) long) (.inr (Nat.le_refl _))

theorem length_ge (converted : Converted source segment kind bytes) (whole : segment.Sound) :
    8 ≤ bytes.length := by
  rw [converted.length_eq]
  cases converted with
  | udp => exact whole.1
  | tcp => exact whole.ports (.inr rfl)
  | echo _ _ long => exact long

theorem protocol_eq (converted : Converted source segment kind bytes) :
    segment.protocol = .udp ∨ segment.protocol = .tcp ∨
      segment.protocol = (Segment.Kind.icmp source).protocol := by
  cases converted with
  | udp => exact .inl rfl
  | tcp => exact .inr (.inl rfl)
  | echo => exact .inr (.inr rfl)

-- Segments with ports are carried on as they are.
theorem same_of_ports (converted : Converted source segment kind bytes)
    (carries : segment.kind = .udp ∨ segment.kind = .tcp) :
    kind = segment.kind ∧ bytes = segment.bytes := by
  cases converted with
  | udp => exact ⟨rfl, rfl⟩
  | tcp => exact ⟨rfl, rfl⟩
  | echo => rcases carries with udp | tcp <;> contradiction

theorem of_ports (carries : segment.kind = .udp ∨ segment.kind = .tcp) :
    Converted source segment segment.kind segment.bytes := by
  obtain ⟨kind, bytes⟩ := segment
  rcases carries with udp | tcp
  · cases udp
    exact .udp bytes
  · cases tcp
    exact .tcp bytes

theorem same_ports (converted : Converted source segment kind bytes) :
    Segment.sourcePort? ⟨kind, bytes⟩ = segment.sourcePort? ∧
      Segment.destinationPort? ⟨kind, bytes⟩ = segment.destinationPort? := by
  cases converted with
  | udp => exact ⟨rfl, rfl⟩
  | tcp => exact ⟨rfl, rfl⟩
  | echo => exact ⟨rfl, rfl⟩

-- Only UDP is a carrier of DNS messages, on both sides.
theorem kind_udp (converted : Converted source segment kind bytes) :
    segment.kind = .udp ↔ kind = .udp := by
  cases converted <;> simp

end Converted

theorem Converted.ready {target : Family} {plan : Plan target} {capacity : Nat}
    {direction : Dns64.Direction} {port? : Option UInt16}
    (converted : Converted source segment kind plan.segment) (whole : segment.Sound)
    (short : segment.bytes.length ≤ Datagram.maxLength) (named : kind.protocol = plan.protocol)
    (message : plan.message =
      if segment.kind = .udp && port? = some Dns64.port then some direction else none)
    (room : target.headerLength + plan.segment.length ≤ capacity) : plan.Ready kind capacity := by
  refine ⟨named, converted.sound whole, ?_, converted.length_ge whole, ?_, room⟩
  · intro carries
    rw [message, Option.isSome_ite, Bool.and_eq_true] at carries
    exact converted.kind_udp.mp (of_decide_eq_true carries.1)
  · exact Nat.le_trans (Nat.le_of_eq converted.length_eq) short

end Convert

def Prepared {target : Family} (planned : Except Drop (Plan target))
    (known : Plan target → Segment.Kind → Prop) (capacity : Nat) : Prop :=
  ∀ plan, planned = .ok plan → ∃ kind, known plan kind ∧ plan.Ready kind capacity

section Translate

variable {target : Family} {hook : Dns64.Hook} {nextId : UInt16} {warnings : List Log.Line}
  {text : String} {planned : Except Drop (Plan target)}
  {known : Plan target → Segment.Kind → Prop} {buffer : Bytes} {n : Nat}

theorem translate_emitted
    (emitted : (translate hook nextId warnings text planned buffer).verdict = .emitted n) :
    ∃ plan, planned = .ok plan ∧ (plan.emit hook nextId buffer).verdict = .emitted n := by
  cases planned with
  | error cause => cases emitted
  | ok plan => exact ⟨plan, rfl, emitted⟩

-- The packet is the one of the plan; only the log tells more.
theorem translate_emission (prepared : Prepared planned known buffer.length)
    (emitted : (translate hook nextId warnings text planned buffer).verdict = .emitted n) :
    ∃ plan kind length, known plan kind ∧ n = target.headerLength + length ∧
      plan.Emission kind hook nextId buffer
        (translate hook nextId warnings text planned buffer) length := by
  obtain ⟨plan, rfl, verdict⟩ := translate_emitted emitted
  obtain ⟨kind, decided, ready⟩ := prepared plan rfl
  obtain ⟨length, total, emission⟩ := Plan.emit_emitted ready verdict
  exact ⟨plan, kind, length, decided, total, emission.relog _⟩

-- Past a hook that changes nothing, a packet gets through if there is a plan for it and its length
-- can be stated.
theorem translate_passthrough_iff {length : Nat} (prepared : Prepared planned known buffer.length)
    (all : ∀ plan kind, known plan kind → planned = .ok plan ∧ plan.segment.length = length) :
    (translate Dns64.passthrough nextId warnings text planned buffer).verdict = .emitted n ↔
      (∃ plan kind, known plan kind) ∧ n = target.headerLength + length ∧
        target.counted + length ≤ Datagram.maxLength := by
  constructor
  · intro emitted
    obtain ⟨plan, found, emitted⟩ := translate_emitted emitted
    obtain ⟨kind, decided, ready⟩ := prepared plan found
    obtain ⟨_, rfl⟩ := all plan kind decided
    exact ⟨⟨plan, kind, decided⟩, (Plan.emit_passthrough_iff ready).mp emitted⟩
  · rintro ⟨⟨plan, kind, decided⟩, total⟩
    obtain ⟨rfl, rfl⟩ := all plan kind decided
    obtain ⟨_, _, ready⟩ := prepared plan rfl
    have emitted : (plan.emit Dns64.passthrough nextId buffer).verdict = .emitted n :=
      (Plan.emit_passthrough_iff ready).mpr total
    exact emitted

end Translate
end Nat64Gateway.Nat64
