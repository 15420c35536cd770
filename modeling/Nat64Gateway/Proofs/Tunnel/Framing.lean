import Nat64Gateway.Proofs.Nat64.ToV4
import Nat64Gateway.Tunnel.Encapsulation

namespace Nat64Gateway.Tunnel

def outerSegment (context : Context) (packet : Packet.V6) (inner : Bytes) : Bytes :=
  outerUdpHeader context (8 + Endpoint.Block.length + inner.length)
    ++ (blockOf packet).encode context.portOrder ++ inner

def outerHeader (tunnel : Tunnel) (host : Address.V4) (packet : Packet.V6) (inner : Bytes) :
    Packet.Header4 where
  typeOfService := Marker.typeOfService packet.segment.protocol
  totalLength := 20 + (8 + Endpoint.Block.length + inner.length)
  identification := tunnel.nextId
  timeToLive := packet.hopLimit
  protocol := .udp
  source := host
  destination := tunnel.context.remote.address

theorem framed_eq (tunnel : Tunnel) (host : Address.V4) (packet : Packet.V6) (inner : Bytes) :
    tunnel.framed host packet inner
      = (tunnel.outerHeader host packet inner).assemble
          (outerSegment tunnel.context packet inner) :=
  rfl

section OuterSegment

variable (context : Context) (packet : Packet.V6) (inner : Bytes)

@[simp] theorem length_outerUdpHeader (length : Nat) :
    (outerUdpHeader context length).length = 8 := by
  simp [outerUdpHeader]

theorem length_outerSegment :
    (outerSegment context packet inner).length = 8 + Endpoint.Block.length + inner.length := by
  simp [outerSegment, Nat.add_assoc]

theorem sound_outerSegment (fits : 8 + Endpoint.Block.length + inner.length ≤ 65535) :
    Segment.Sound ⟨.udp, outerSegment context packet inner⟩ := by
  have length := length_outerSegment context packet inner
  refine ⟨?_, ?_⟩
  · simp only [length]
    omega
  · have field : Wire.field (outerSegment context packet inner) 4 2
        = Wire.encode 2 (8 + Endpoint.Block.length + inner.length) := by
      unfold outerSegment outerUdpHeader
      simp only [List.append_assoc]
      rw [← List.append_assoc]
      exact Wire.field_between (by simp) (Wire.length_encode ..)
    simp only [length]
    unfold Wire.number
    rw [field, Wire.decode_encode_two (by omega)]

theorem field_outerSegment_ports :
    Wire.field (outerSegment context packet inner) 0 4
      = Wire.encodeWord context.localPort ++ Wire.encodeWord context.remote.port := by
  unfold outerSegment outerUdpHeader
  simp only [List.append_assoc]
  rw [← List.append_assoc]
  exact Wire.field_prefix (by simp)

theorem words_outerSegment :
    Wire.word (outerSegment context packet inner) 0 = context.localPort ∧
      Wire.word (outerSegment context packet inner) 2 = context.remote.port :=
  Wire.words_of_field (field_outerSegment_ports context packet inner)

theorem drop_outerSegment :
    (outerSegment context packet inner).drop 8
      = (blockOf packet).encode context.portOrder ++ inner := by
  unfold outerSegment
  rw [List.append_assoc, List.drop_append_of_le_length (by simp),
    List.drop_of_length_le (by simp), List.nil_append]

end OuterSegment

theorem carries_outerSegment (tunnel : Tunnel) (host : Address.V4) (packet : Packet.V6)
    {inner : Bytes} (fits : 20 + (8 + Endpoint.Block.length + inner.length) ≤ 65535) :
    (tunnel.outerHeader host packet inner).Carries .udp
      (outerSegment tunnel.context packet inner) := by
  refine ⟨sound_outerSegment _ _ _ (by omega), rfl, ?_, fits⟩
  rw [length_outerSegment]
  rfl

inductive Sent (tunnel : Tunnel) (packet : Packet.V6) (buffer : Bytes) (outcome : Outcome) :
    Prop where
  | plain (bypass : bypasses tunnel.context packet.segment = true)
      (same : outcome = tunnel.plainOut packet buffer)
  | framed (host : Address.V4) (known : tunnel.context.host = some host)
      (tunneled : bypasses tunnel.context packet.segment = false)
      (same : outcome = tunnel.frame host packet (tunnel.plainOut packet buffer))

theorem encapsulate_emitted {tunnel : Tunnel} {data buffer : Bytes} {n : Nat}
    (emitted : (tunnel.encapsulate data buffer).verdict = .emitted n) :
    ∃ packet, Packet.V6.read data = .ok packet ∧
      Sent tunnel packet buffer (tunnel.encapsulate data buffer) := by
  unfold encapsulate at emitted ⊢
  cases read : Packet.V6.read data with
  | error fault =>
    rw [read] at emitted
    cases emitted
  | ok packet =>
    rw [read] at emitted
    simp only at emitted ⊢
    refine ⟨packet, rfl, ?_⟩
    cases bypass : bypasses tunnel.context packet.segment with
    | true => exact .plain bypass (if_pos rfl)
    | false =>
      simp only [bypass, Bool.false_eq_true, if_false] at emitted ⊢
      cases known : tunnel.context.host with
      | none =>
        simp only [known] at emitted
        cases emitted
      | some host =>
        simp only [known] at emitted ⊢
        split at emitted
        · cases emitted
        · rename_i room
          rw [if_neg room]
          exact .framed host known bypass rfl

-- Where the inner segment starts is where it is moved to, less what is put in front of it.
theorem innerStart_add_framing (protocol : Protocol) :
    innerStart protocol + framing protocol = 64 := by
  unfold innerStart framing
  split <;> rfl

theorem length_framed {protocol : Protocol} {length : Nat} (least : innerStart protocol ≤ length) :
    length + framing protocol
      = 20 + (8 + Endpoint.Block.length + (length - innerStart protocol)) := by
  have target := innerStart_add_framing protocol
  unfold Endpoint.Block.length
  omega

structure Framed (tunnel : Tunnel) (host : Address.V4) (packet : Packet.V6) (inner : Bytes)
    (plain outcome : Outcome) (n : Nat) : Prop where
  carries : (tunnel.outerHeader host packet inner).Carries .udp
    (outerSegment tunnel.context packet inner)
  total : (tunnel.outerHeader host packet inner).totalLength = n
  fits : n ≤ plain.buffer.length
  verdict : outcome.verdict = .emitted n
  buffer_eq : outcome.buffer
    = ((tunnel.outerHeader host packet inner).packet .udp
        (outerSegment tunnel.context packet inner)).bytes ++ plain.buffer.drop n
  nextId_eq : outcome.nextId = plain.nextId

theorem frame_emitted {tunnel : Tunnel} {host : Address.V4} {packet : Packet.V6}
    {plain : Outcome} {n : Nat}
    (complete : ∀ length, plain.verdict = .emitted length →
      innerStart packet.segment.protocol ≤ length ∧ plain.packet.length = length)
    (emitted : (tunnel.frame host packet plain).verdict = .emitted n) :
    (∃ length, plain.verdict = .emitted length) ∧
      Framed tunnel host packet (plain.packet.drop (innerStart packet.segment.protocol)) plain
        (tunnel.frame host packet plain) n := by
  unfold frame at emitted ⊢
  cases verdict : plain.verdict with
  | dropped cause =>
    simp only [verdict] at emitted
    cases emitted
  | emitted length =>
    obtain ⟨front, whole⟩ := complete length verdict
    simp only [verdict] at emitted ⊢
    split at emitted
    · cases emitted
    · rename_i room
      rw [if_neg room]
      cases emitted
      have inner : (plain.packet.drop (innerStart packet.segment.protocol)).length
          = length - innerStart packet.segment.protocol := by
        rw [List.length_drop, whole]
      have total : 20 + (8 + Endpoint.Block.length
            + (plain.packet.drop (innerStart packet.segment.protocol)).length)
          = length + framing packet.segment.protocol := by
        rw [inner, length_framed front]
      unfold Datagram.maxLength at room
      have carries := tunnel.carries_outerSegment host packet
        (by omega : 20 + (8 + Endpoint.Block.length
          + (plain.packet.drop (innerStart packet.segment.protocol)).length) ≤ 65535)
      refine ⟨⟨length, rfl⟩, carries, total, by omega, rfl, ?_, rfl⟩
      exact congrArg (· ++ _) ((tunnel.framed_eq host packet _).trans carries.assemble_eq)

namespace Framed

variable {tunnel : Tunnel} {host : Address.V4} {packet : Packet.V6} {inner : Bytes}
  {plain outcome : Outcome} {n : Nat}

theorem length_packet (framed : Framed tunnel host packet inner plain outcome n) :
    ((tunnel.outerHeader host packet inner).packet .udp
      (outerSegment tunnel.context packet inner)).bytes.length = n := by
  rw [framed.carries.length_packet, framed.total]

theorem packet_eq (framed : Framed tunnel host packet inner plain outcome n) :
    outcome.packet
      = ((tunnel.outerHeader host packet inner).packet .udp
          (outerSegment tunnel.context packet inner)).bytes :=
  Outcome.packet_of_front framed.verdict framed.buffer_eq framed.length_packet

theorem length_buffer (framed : Framed tunnel host packet inner plain outcome n) :
    outcome.buffer.length = plain.buffer.length :=
  Outcome.length_of_front framed.buffer_eq framed.length_packet framed.fits

end Framed
end Nat64Gateway.Tunnel
