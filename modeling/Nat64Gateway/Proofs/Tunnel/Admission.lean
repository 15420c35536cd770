import Nat64Gateway.Proofs.Prefix
import Nat64Gateway.Proofs.Tunnel.RoundTrip

namespace Nat64Gateway

theorem Icmp.Kind.exists_echo_iff (family : Family) {type code : UInt8} :
    (∃ kind, (ofHeader family type code).echo? = some kind) ↔
      (type = requestType family ∨ type = replyType family) ∧ code = 0 := by
  unfold ofHeader
  by_cases request : type = requestType family ∧ code = 0
  · rw [if_pos request]
    exact ⟨fun _ => ⟨.inl request.1, request.2⟩, fun _ => ⟨.echoRequest, rfl⟩⟩
  rw [if_neg request]
  by_cases reply : type = replyType family ∧ code = 0
  · rw [if_pos reply]
    exact ⟨fun _ => ⟨.inr reply.1, reply.2⟩, fun _ => ⟨.echoReply, rfl⟩⟩
  rw [if_neg reply]
  constructor
  · rintro ⟨_, none⟩
    cases none
  · rintro ⟨asks | answers, code⟩
    · exact absurd ⟨asks, code⟩ request
    · exact absurd ⟨answers, code⟩ reply

namespace Segment

-- The segments that can leave, by the protocol that the header names and the bytes behind it.
inductive Form (next : UInt8) (payload : Bytes) : Kind → Nat → Prop where
  | udp (named : next = 17) (least : 8 ≤ Wire.number payload 4 2)
      (most : Wire.number payload 4 2 ≤ payload.length) :
      Form next payload .udp (Wire.number payload 4 2)
  | tcp (named : next = 6) (least : 20 ≤ 4 * ((Wire.byte payload 12).toNat / 16))
      (most : 4 * ((Wire.byte payload 12).toNat / 16) ≤ payload.length) :
      Form next payload .tcp payload.length
  | echo (named : next = 58) (least : 8 ≤ payload.length)
      (type : Wire.byte payload 0 = 128 ∨ Wire.byte payload 0 = 129)
      (code : Wire.byte payload 1 = 0) : Form next payload (.icmp .v6) payload.length

section Form

variable {next : UInt8} {payload : Bytes} {segment : Segment}

theorem next_of_read (found : read ⟨next⟩ payload = .ok segment) :
    segment.kind.protocol.number = next :=
  congrArg Protocol.number (read_eq_ok found).1

theorem sound_tcp_iff : Sound ⟨.tcp, payload⟩ ↔
    20 ≤ 4 * ((Wire.byte payload 12).toNat / 16) ∧
      4 * ((Wire.byte payload 12).toNat / 16) ≤ payload.length := by
  rw [Nat.mul_comm]
  rfl

theorem word_of_read (found : read ⟨next⟩ payload = .ok segment)
    (carries : segment.kind = .udp ∨ segment.kind = .tcp) {offset : Nat} (port : offset + 2 ≤ 4) :
    Wire.word segment.bytes offset = Wire.word payload offset := by
  obtain ⟨_, sound, cut, _⟩ := read_eq_ok found
  have long := sound.ports carries
  unfold Wire.word
  rw [cut, Wire.number_take (by omega)]

theorem form_of_read (found : read ⟨next⟩ payload = .ok segment) {kind : Kind} {bytes : Bytes}
    (converted : Nat64.Converted .v6 segment kind bytes) :
    Form next payload segment.kind segment.bytes.length := by
  have named := next_of_read found
  cases converted with
  | udp whole =>
    cases named
    obtain ⟨least, most, cut⟩ := readUdp_iff.mp found
    cases cut
    rw [List.length_take_of_le most]
    exact .udp rfl least most
  | tcp whole =>
    cases named
    obtain ⟨sound, cut⟩ := readTcp_iff.mp found
    cases cut
    obtain ⟨least, most⟩ := sound_tcp_iff.mp sound
    exact .tcp rfl least most
  | echo whole kind long echoes =>
    cases named
    obtain ⟨cut, _⟩ := readIcmp_eq_ok found
    cases cut
    obtain ⟨type, code⟩ := (Icmp.Kind.exists_echo_iff .v6).mp ⟨kind, echoes⟩
    exact .echo rfl long type code

-- Exactly these are read, and have a form in IPv4.
theorem form_iff {kind : Kind} {length : Nat} : Form next payload kind length ↔
    ∃ segment, read ⟨next⟩ payload = .ok segment ∧
      (∃ target bytes, Nat64.Converted .v6 segment target bytes) ∧
      segment.kind = kind ∧ segment.bytes.length = length := by
  constructor
  · intro form
    cases form with
    | udp named least most =>
      cases named
      exact ⟨_, readUdp_iff.mpr ⟨least, most, rfl⟩, ⟨_, _, .udp _⟩, rfl,
        List.length_take_of_le most⟩
    | tcp named least most =>
      cases named
      exact ⟨_, readTcp_iff.mpr ⟨sound_tcp_iff.mpr ⟨least, most⟩, rfl⟩, ⟨_, _, .tcp _⟩, rfl, rfl⟩
    | echo named least type code =>
      cases named
      have sound : Sound ⟨.icmp .v6, payload⟩ := Nat.le_trans (by decide : 4 ≤ 8) least
      obtain ⟨kind, echoes⟩ := (Icmp.Kind.exists_echo_iff .v6).mpr ⟨type, code⟩
      exact ⟨_, readIcmp_of_sound sound, ⟨_, _, .echo _ kind least echoes⟩, rfl, rfl⟩
  · rintro ⟨segment, found, ⟨target, bytes, converted⟩, rfl, rfl⟩
    exact form_of_read found converted

end Form
end Segment

namespace Tunnel

def FromLowPort (context : Context) (kind : Segment.Kind) (payload : Bytes) : Prop :=
  (kind = .udp ∨ kind = .tcp) ∧ Wire.word payload 0 < context.threshold

instance (context : Context) (kind : Segment.Kind) (payload : Bytes) :
    Decidable (FromLowPort context kind payload) :=
  inferInstanceAs (Decidable (_ ∧ _))

theorem bypasses_iff {context : Context} {next : UInt8} {payload : Bytes} {segment : Segment}
    (found : Segment.read ⟨next⟩ payload = .ok segment) :
    bypasses context segment = true ↔ FromLowPort context segment.kind payload := by
  have first : segment.kind = .udp ∨ segment.kind = .tcp →
      Wire.word segment.bytes 0 = Wire.word payload 0 := by
    intro carries
    exact Segment.word_of_read found carries (by decide)
  obtain ⟨kind, bytes⟩ := segment
  unfold bypasses FromLowPort Segment.sourcePort?
  cases kind with
  | udp => simp [Context.exempts, ← first (.inl rfl)]
  | tcp => simp [Context.exempts, ← first (.inr rfl)]
  | icmp family => simp

theorem plainOut_iff {tunnel : Tunnel} {data buffer : Bytes} {original : Packet.V6} {n : Nat}
    (quiet : tunnel.hook = Dns64.passthrough) (read : Packet.V6.read data = .ok original) :
    (tunnel.plainOut original buffer).verdict = .emitted n ↔
      (∃ plan kind, Nat64.ToV4.Planned tunnel.context original buffer.length plan kind) ∧
        n = 20 + original.segment.bytes.length ∧ n ≤ Datagram.maxLength := by
  obtain ⟨_, sound, short, _⟩ := Packet.V6.segment_of_read read
  unfold plainOut
  rw [quiet]
  exact Nat64.ToV4.run_passthrough_iff sound short

-- The frame adds its own length, and that is all that may go wrong with it.
theorem frame_iff {tunnel : Tunnel} {host : Address.V4} {data buffer : Bytes}
    {original : Packet.V6} {n : Nat} (read : Packet.V6.read data = .ok original) :
    (tunnel.frame host original (tunnel.plainOut original buffer)).verdict = .emitted n ↔
      ∃ length, (tunnel.plainOut original buffer).verdict = .emitted length ∧
        n = length + framing original.segment.protocol ∧
        n ≤ buffer.length ∧ n ≤ Datagram.maxLength := by
  unfold frame
  cases verdict : (tunnel.plainOut original buffer).verdict with
  | dropped cause => simp [verdict]
  | emitted length =>
    obtain ⟨_, departed⟩ := plainOut_emitted read verdict
    simp only [departed.kept]
    by_cases room : buffer.length < length + framing original.segment.protocol ∨
        Datagram.maxLength < length + framing original.segment.protocol
    · rw [if_pos room]
      constructor
      · nofun
      · rintro ⟨_, same, rfl, fits, short⟩
        cases same
        omega
    · rw [if_neg room]
      constructor
      · intro emitted
        cases emitted
        exact ⟨length, rfl, rfl, by omega, by omega⟩
      · rintro ⟨_, same, rfl, _⟩
        cases same
        rfl

theorem framing_eq (segment : Segment) :
    framing segment.protocol = if segment.kind = .udp then 36 else 44 := by
  obtain ⟨kind, bytes⟩ := segment
  cases kind with
  | udp => rfl
  | tcp => rfl
  | icmp family => cases family <;> rfl

structure Accepts (context : Context) (original : Packet.V6) (capacity n : Nat) : Prop where
  converts : ∃ kind bytes, Nat64.Converted .v6 original.segment kind bytes
  covered : context.nat64.covers original.destination = true
  sender : context.host.isSome ∨ bypasses context original.segment = true ∧
    ⟨original.destination.bits.setWidth 32⟩ = Address.V4.limitedBroadcast
  size : n = 20 + original.segment.bytes.length
    + if bypasses context original.segment then 0 else framing original.segment.protocol
  room : n ≤ capacity
  short : n ≤ Datagram.maxLength

section Encapsulate

variable {tunnel : Tunnel} {data buffer : Bytes} {original : Packet.V6} {n : Nat}

theorem encapsulate_plain_iff (quiet : tunnel.hook = Dns64.passthrough)
    (read : Packet.V6.read data = .ok original)
    (bypass : bypasses tunnel.context original.segment = true) :
    (tunnel.encapsulate data buffer).verdict = .emitted n ↔
      Accepts tunnel.context original buffer.length n := by
  rw [encapsulate_plain read bypass, plainOut_iff quiet read, Nat64.ToV4.exists_planned_iff]
  constructor
  · rintro ⟨⟨converts, covered, sender, room⟩, rfl, short⟩
    refine ⟨converts, covered, sender.imp_right (⟨bypass, ·⟩), ?_, room, short⟩
    rw [if_pos bypass, Nat.add_zero]
  · rintro ⟨converts, covered, sender, size, room, short⟩
    rw [if_pos bypass, Nat.add_zero] at size
    exact ⟨⟨converts, covered, sender.imp_right And.right, size ▸ room⟩, size, short⟩

theorem encapsulate_framed_iff (quiet : tunnel.hook = Dns64.passthrough)
    (read : Packet.V6.read data = .ok original)
    (tunneled : bypasses tunnel.context original.segment = false) :
    (tunnel.encapsulate data buffer).verdict = .emitted n ↔
      Accepts tunnel.context original buffer.length n := by
  have no_bypass : ¬ bypasses tunnel.context original.segment = true := by
    rw [tunneled]
    exact Bool.false_ne_true
  constructor
  · intro emitted
    obtain ⟨same_original, same_read, form⟩ := encapsulate_emitted emitted
    cases Except.ok.inj (read.symm.trans same_read)
    cases form with
    | plain bypass => exact absurd bypass no_bypass
    | framed host known _ same =>
      rw [same] at emitted
      obtain ⟨length, plain, rfl, room, short⟩ := (frame_iff read).mp emitted
      obtain ⟨planned, rfl, _⟩ := (plainOut_iff quiet read).mp plain
      obtain ⟨converts, covered, _, _⟩ := Nat64.ToV4.exists_planned_iff.mp planned
      refine ⟨converts, covered, .inl (by rw [known]; rfl), ?_, room, short⟩
      rw [if_neg no_bypass]
  · rintro ⟨converts, covered, sender, size, room, short⟩
    rw [if_neg no_bypass] at size
    obtain ⟨host, known⟩ : ∃ host, tunnel.context.host = some host := by
      obtain known | ⟨bypass, _⟩ := sender
      · exact Option.isSome_iff_exists.mp known
      · exact absurd bypass no_bypass
    have planned := Nat64.ToV4.exists_planned_iff.mpr ⟨converts, covered,
      .inl (Option.isSome_iff_exists.mpr ⟨host, known⟩),
      (by omega : 20 + original.segment.bytes.length ≤ buffer.length)⟩
    have plain := (plainOut_iff quiet read).mpr ⟨planned, rfl, by omega⟩
    unfold encapsulate
    simp only [read, if_neg no_bypass, known]
    rw [if_neg (by omega)]
    exact (frame_iff read).mpr ⟨_, plain, size, room, short⟩

theorem encapsulate_iff (quiet : tunnel.hook = Dns64.passthrough)
    (read : Packet.V6.read data = .ok original) :
    (tunnel.encapsulate data buffer).verdict = .emitted n ↔
      Accepts tunnel.context original buffer.length n := by
  cases bypass : bypasses tunnel.context original.segment with
  | true => exact encapsulate_plain_iff quiet read bypass
  | false => exact encapsulate_framed_iff quiet read bypass

end Encapsulate

-- All that is asked of a packet, in terms of its own bytes, and how long it becomes.
structure Admitted (context : Context) (data : Bytes) (capacity : Nat) (kind : Segment.Kind)
    (length n : Nat) : Prop where
  header : 40 ≤ data.length
  version : (Wire.byte data 0).toNat / 16 = 6
  total : 40 + Wire.number data 4 2 ≤ data.length
  form : Segment.Form (Wire.byte data 6) (Packet.V6.payload data) kind length
  covered : ∀ index < context.nat64.length,
    (Address.V6.ofOctets (Wire.field data 24 16)).bits.getMsbD index
      = context.nat64.address.bits.getMsbD index
  sender : context.host.isSome ∨ FromLowPort context kind (Packet.V6.payload data) ∧
    Wire.field data 36 4 = [255, 255, 255, 255]
  size : n = 20 + length + if FromLowPort context kind (Packet.V6.payload data) then 0
    else if kind = .udp then 36 else 44
  fits : n ≤ min capacity 65535

-- The end of the destination, as an address and as four bytes.
theorem limitedBroadcast_iff {data : Bytes} (long : 40 ≤ data.length) :
    ⟨(Address.V6.ofOctets (Wire.field data 24 16)).bits.setWidth 32⟩
        = Address.V4.limitedBroadcast ↔ Wire.field data 36 4 = [255, 255, 255, 255] := by
  have last : Wire.field (Address.V6.ofOctets (Wire.field data 24 16)).octets 12 4
      = Wire.field data 36 4 := by
    rw [Address.V6.octets_ofOctets (Wire.length_field (by omega))]
    exact Wire.field_field data 24 (by decide)
  have width : (Wire.field data 36 4).length = 4 := Wire.length_field (by omega)
  rw [← Prefix.ofOctets_field, last]
  constructor
  · intro everyone
    rw [← Address.V4.octets_ofOctets width, everyone]
    rfl
  · intro ones
    rw [ones]
    rfl

theorem accepts_iff {context : Context} {data : Bytes} {original : Packet.V6} {capacity n : Nat}
    (read : Packet.V6.read data = .ok original) :
    Accepts context original capacity n ↔
      Admitted context data capacity original.segment.kind original.segment.bytes.length n := by
  obtain ⟨⟨version, total⟩, cut, found⟩ := Packet.V6.read_iff.mp read
  have header : 40 ≤ data.length := Nat.le_of_add_right_le total
  have destination : original.destination = .ofOctets (Wire.field data 24 16) := by
    unfold Packet.V6.destination
    rw [cut, Wire.field_take (Nat.le_add_right 40 _)]
  have bypass : bypasses context original.segment = true ↔
      FromLowPort context original.segment.kind (Packet.V6.payload data) := bypasses_iff found
  constructor
  · rintro ⟨converts, covered, sender, size, room, short⟩
    rw [destination, Prefix.covers_iff] at covered
    rw [destination, limitedBroadcast_iff header, bypass] at sender
    simp only [bypass, framing_eq] at size
    obtain ⟨_, _, converted⟩ := converts
    exact ⟨header, version, total, Segment.form_of_read found converted, covered, sender, size,
      Nat.le_min.mpr ⟨room, short⟩⟩
  · rintro ⟨_, _, _, form, covered, sender, size, fits⟩
    rw [← destination, ← Prefix.covers_iff] at covered
    rw [← limitedBroadcast_iff header, ← bypass, ← destination] at sender
    simp only [← bypass, ← framing_eq] at size
    obtain ⟨segment, same, converts, _⟩ := Segment.form_iff.mp form
    cases Except.ok.inj (found.symm.trans same)
    exact ⟨converts, covered, sender, size, (Nat.le_min.mp fits).1, (Nat.le_min.mp fits).2⟩

theorem encapsulate_emitted_iff {tunnel : Tunnel} (quiet : tunnel.hook = Dns64.passthrough)
    (data buffer : Bytes) (n : Nat) :
    (tunnel.encapsulate data buffer).verdict = .emitted n ↔
      ∃ kind length, Admitted tunnel.context data buffer.length kind length n := by
  constructor
  · intro emitted
    obtain ⟨original, read, _⟩ := encapsulate_emitted emitted
    exact ⟨_, _, (accepts_iff read).mp ((encapsulate_iff quiet read).mp emitted)⟩
  · rintro ⟨kind, length, admitted⟩
    obtain ⟨segment, found, _, rfl, rfl⟩ := Segment.form_iff.mp admitted.form
    have read : Packet.V6.read data
        = .ok ⟨data.take (40 + Wire.number data 4 2), segment⟩ :=
      Packet.V6.read_iff.mpr ⟨⟨admitted.version, admitted.total⟩, rfl, found⟩
    exact (encapsulate_iff quiet read).mpr ((accepts_iff read).mpr admitted)

theorem encapsulate_emitted_iff_tight :
    (loop.encapsulate datagram (List.replicate 65 0)).verdict = .emitted 65 := by
  have quiet : loop.hook = Dns64.passthrough := rfl
  have form : Segment.Form (Wire.byte datagram 6) (Packet.V6.payload datagram) .udp 9 :=
    .udp (by decide) (by decide) (by decide)
  exact (encapsulate_emitted_iff quiet datagram (List.replicate 65 0) 65).mpr
    ⟨.udp, 9, by decide, by decide, by decide, form, by decide, .inl rfl, by decide, by decide⟩

end Tunnel
end Nat64Gateway
