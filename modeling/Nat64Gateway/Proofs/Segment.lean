import Nat64Gateway.Proofs.Checksum.Filled
import Nat64Gateway.Segment

namespace Nat64Gateway

section Checks

variable {refused : Prop} [Decidable refused]

-- Readers make their checks in a row. An answer that is not the first refusal says that the first
-- check was passed, and is what the others came to.
theorem past_iff {α : Type} {first next answer : α} (other : first ≠ answer) :
    (if refused then first else next) = answer ↔ ¬refused ∧ next = answer := by
  by_cases met : refused
  · rw [if_pos met]
    exact ⟨fun same => absurd same other, fun passed => absurd met passed.1⟩
  · rw [if_neg met]
    exact ⟨fun answered => ⟨met, answered⟩, And.right⟩

theorem passed_iff {ε α : Type} {cause : ε} {next : Except ε α} {answer : α} :
    (if refused then .error cause else next) = .ok answer ↔ ¬refused ∧ next = .ok answer :=
  past_iff nofun

theorem faultless_iff {ε : Type} {fault : ε} {next : Option ε} :
    (if refused then some fault else next) = none ↔ ¬refused ∧ next = none :=
  past_iff nofun

end Checks

namespace Icmp.Message

variable {family : Family} {bytes : Bytes}

-- A message is any eight bytes and what follows them.
theorem read_eq_ok {message : Message} (accepted : read family bytes = .ok message) :
    8 ≤ bytes.length ∧ message = ⟨family, bytes⟩ := by
  obtain ⟨short, answer⟩ := passed_iff.mp accepted
  cases answer
  exact ⟨Nat.not_lt.mp short, rfl⟩

theorem read_of_long (long : 8 ≤ bytes.length) : read family bytes = .ok ⟨family, bytes⟩ :=
  if_neg (Nat.not_lt.mpr long)

end Icmp.Message

namespace Segment

-- The segment's own account of its length agrees with its bytes.
def Sound (segment : Segment) : Prop :=
  match segment.kind with
  | .udp => 8 ≤ segment.bytes.length ∧ Wire.number segment.bytes 4 2 = segment.bytes.length
  | .tcp =>
    20 ≤ tcpHeaderLength segment.bytes ∧ tcpHeaderLength segment.bytes ≤ segment.bytes.length
  | .icmp _ => 4 ≤ segment.bytes.length

-- First byte and byte count of what a reader takes the length from.
def Kind.lengthField : Kind → Nat × Nat
  | .udp => (4, 2)
  | .tcp => (12, 1)
  | .icmp _ => (0, 0)

theorem Kind.ofProtocol?_protocol (kind : Kind) : ofProtocol? kind.protocol = some kind := by
  cases kind with
  | udp => rfl
  | tcp => rfl
  | icmp family => cases family <;> rfl

theorem Kind.protocol_of_ofProtocol? {protocol : Protocol} {kind : Kind}
    (found : ofProtocol? protocol = some kind) : kind.protocol = protocol := by
  unfold ofProtocol? at found
  rcases ite_eq_iff.mp found with ⟨same, found⟩ | ⟨_, found⟩
  · cases found
    exact same.symm
  rcases ite_eq_iff.mp found with ⟨same, found⟩ | ⟨_, found⟩
  · cases found
    exact same.symm
  rcases ite_eq_iff.mp found with ⟨same, found⟩ | ⟨_, found⟩
  · cases found
    exact same.symm
  rcases ite_eq_iff.mp found with ⟨same, found⟩ | ⟨_, found⟩
  · cases found
    exact same.symm
  · cases found

-- The first check says no more than the other two.
theorem readUdp_iff {bytes : Bytes} {segment : Segment} : readUdp bytes = .ok segment ↔
    8 ≤ Wire.number bytes 4 2 ∧ Wire.number bytes 4 2 ≤ bytes.length ∧
      ⟨.udp, bytes.take (Wire.number bytes 4 2)⟩ = segment := by
  unfold readUdp
  rw [passed_iff, passed_iff, passed_iff, Except.ok.injEq]
  constructor
  · rintro ⟨_, long, inside, cut⟩
    exact ⟨Nat.not_lt.mp long, Nat.not_lt.mp inside, cut⟩
  · rintro ⟨long, inside, cut⟩
    exact ⟨Nat.not_lt.mpr (Nat.le_trans long inside), Nat.not_lt.mpr long, Nat.not_lt.mpr inside,
      cut⟩

theorem readUdp_eq_ok {bytes : Bytes} {segment : Segment} (accepted : readUdp bytes = .ok segment) :
    segment.kind = .udp ∧ segment.Sound ∧ segment.bytes = bytes.take segment.bytes.length := by
  obtain ⟨long, inside, rfl⟩ := readUdp_iff.mp accepted
  have length : (bytes.take (Wire.number bytes 4 2)).length = Wire.number bytes 4 2 :=
    List.length_take_of_le inside
  refine ⟨rfl, ⟨?_, ?_⟩, ?_⟩
  · rw [length]
    exact long
  · rw [length]
    exact Wire.number_take (Nat.le_trans (by decide : 4 + 2 ≤ 8) long)
  · rw [length]

theorem readTcp_iff {bytes : Bytes} {segment : Segment} : readTcp bytes = .ok segment ↔
    Sound ⟨.tcp, bytes⟩ ∧ ⟨.tcp, bytes⟩ = segment := by
  unfold readTcp
  rw [passed_iff, passed_iff, passed_iff, Except.ok.injEq]
  constructor
  · rintro ⟨_, inside, offset, whole⟩
    exact ⟨⟨Nat.not_lt.mp offset, Nat.not_lt.mp inside⟩, whole⟩
  · rintro ⟨⟨offset, inside⟩, whole⟩
    exact ⟨Nat.not_lt.mpr (Nat.le_trans offset inside), Nat.not_lt.mpr inside,
      Nat.not_lt.mpr offset, whole⟩

theorem readTcp_eq_ok {bytes : Bytes} {segment : Segment} (accepted : readTcp bytes = .ok segment) :
    segment = ⟨.tcp, bytes⟩ ∧ segment.Sound := by
  obtain ⟨sound, rfl⟩ := readTcp_iff.mp accepted
  exact ⟨rfl, sound⟩

theorem readIcmp_eq_ok {family : Family} {bytes : Bytes} {segment : Segment}
    (accepted : readIcmp family bytes = .ok segment) :
    segment = ⟨.icmp family, bytes⟩ ∧ segment.Sound := by
  unfold readIcmp at accepted
  obtain ⟨header, accepted⟩ := passed_iff.mp accepted
  cases accepted
  exact ⟨rfl, Nat.not_lt.mp header⟩

-- Only UDP leaves bytes behind.
theorem read_eq_ok {protocol : Protocol} {bytes : Bytes} {segment : Segment}
    (accepted : read protocol bytes = .ok segment) :
    segment.protocol = protocol ∧ segment.Sound ∧
      segment.bytes = bytes.take segment.bytes.length ∧
      (segment.kind ≠ .udp → segment.bytes = bytes) := by
  unfold read at accepted
  cases found : Kind.ofProtocol? protocol with
  | none =>
    rw [found] at accepted
    cases accepted
  | some kind =>
    have named := Kind.protocol_of_ofProtocol? found
    rw [found] at accepted
    cases kind with
    | udp =>
      obtain ⟨kind, sound, cut⟩ := readUdp_eq_ok accepted
      refine ⟨?_, sound, cut, fun other => absurd kind other⟩
      rw [Segment.protocol, kind, named]
    | tcp =>
      obtain ⟨rfl, sound⟩ := readTcp_eq_ok accepted
      exact ⟨named, sound, (List.take_length ..).symm, fun _ => rfl⟩
    | icmp family =>
      obtain ⟨rfl, sound⟩ := readIcmp_eq_ok accepted
      exact ⟨named, sound, (List.take_length ..).symm, fun _ => rfl⟩

namespace Sound

theorem length_ge {segment : Segment} (sound : segment.Sound) :
    segment.protocol.checksumOffset + 2 ≤ segment.bytes.length := by
  obtain ⟨kind, bytes⟩ := segment
  cases kind with
  | udp => exact sound.1
  | tcp =>
    have long : 20 ≤ bytes.length := Nat.le_trans sound.1 sound.2
    exact Nat.le_trans (by decide : 16 + 2 ≤ 20) long
  | icmp family => cases family <;> exact sound

theorem header {segment : Segment} (sound : segment.Sound) (udp : segment.kind = .udp) :
    8 ≤ segment.bytes.length := by
  obtain ⟨kind, bytes⟩ := segment
  cases udp
  exact sound.1

theorem ports {segment : Segment} (sound : segment.Sound)
    (carries : segment.kind = .udp ∨ segment.kind = .tcp) : 8 ≤ segment.bytes.length := by
  obtain ⟨kind, bytes⟩ := segment
  rcases carries with rfl | rfl
  · exact sound.1
  · have long : 20 ≤ bytes.length := Nat.le_trans sound.1 sound.2
    exact Nat.le_trans (by decide) long

theorem overwrite {kind : Kind} {bytes new : Bytes} {offset : Nat}
    (sound : Segment.Sound ⟨kind, bytes⟩) (inside : offset + new.length ≤ bytes.length)
    (apart : offset + new.length ≤ kind.lengthField.1 ∨
      kind.lengthField.1 + kind.lengthField.2 ≤ offset) :
    Segment.Sound ⟨kind, Wire.overwrite bytes offset new⟩ := by
  have length := Wire.length_overwrite inside
  cases kind with
  | udp =>
    have field : Wire.number (Wire.overwrite bytes offset new) 4 2 = Wire.number bytes 4 2 :=
      Wire.number_overwrite_of_disjoint apart.symm inside
    exact ⟨length.symm ▸ sound.1, (field.trans sound.2).trans length.symm⟩
  | tcp =>
    have field : Wire.byte (Wire.overwrite bytes offset new) 12 = Wire.byte bytes 12 :=
      Wire.byte_overwrite_of_disjoint apart.symm inside
    have same : tcpHeaderLength (Wire.overwrite bytes offset new) = tcpHeaderLength bytes := by
      unfold tcpHeaderLength
      rw [field]
    exact ⟨same.symm ▸ sound.1, same.symm ▸ length.symm ▸ sound.2⟩
  | icmp family => exact Nat.le_trans sound (Nat.le_of_eq length.symm)

theorem sealedSegment {kind : Kind} {bytes : Bytes} (sound : Segment.Sound ⟨kind, bytes⟩)
    (family : Family) (header : Bytes) :
    Segment.Sound ⟨kind, Checksum.sealedSegment family header kind.protocol bytes⟩ := by
  apply sound.overwrite
  · rw [Wire.length_encode]
    exact sound.length_ge
  · cases kind with
    | udp => exact .inr (by decide)
    | tcp => exact .inr (by decide)
    | icmp family => exact .inr (Nat.zero_le _)

end Sound

theorem readUdp_of_sound {bytes : Bytes} (sound : Sound ⟨.udp, bytes⟩) (rest : Bytes) :
    readUdp (bytes ++ rest) = .ok ⟨.udp, bytes⟩ := by
  obtain ⟨header, length_field⟩ := sound
  simp only at header length_field
  have whole : (bytes ++ rest).length = bytes.length + rest.length := List.length_append
  have number : Wire.number (bytes ++ rest) 4 2 = bytes.length := by
    unfold Wire.number at length_field ⊢
    rw [Wire.field_append_left _ (by omega), length_field]
  unfold readUdp
  rw [number, if_neg (by omega), if_neg (by omega), if_neg (by omega), List.take_left]

theorem readTcp_of_sound {bytes : Bytes} (sound : Sound ⟨.tcp, bytes⟩) :
    readTcp bytes = .ok ⟨.tcp, bytes⟩ :=
  readTcp_iff.mpr ⟨sound, rfl⟩

theorem readIcmp_of_sound {family : Family} {bytes : Bytes} (sound : Sound ⟨.icmp family, bytes⟩) :
    readIcmp family bytes = .ok ⟨.icmp family, bytes⟩ :=
  if_neg (Nat.not_lt.mpr sound)

theorem read_of_sound {segment : Segment} (sound : segment.Sound) :
    read segment.protocol segment.bytes = .ok segment := by
  obtain ⟨kind, bytes⟩ := segment
  unfold read protocol
  rw [Kind.ofProtocol?_protocol]
  cases kind with
  | udp =>
    have whole := readUdp_of_sound sound []
    rwa [List.append_nil] at whole
  | tcp => exact readTcp_of_sound sound
  | icmp family => exact readIcmp_of_sound sound

-- The ports of a segment are its first four bytes, whatever follows them.
theorem ports_of_field {kind : Kind} {left right : Bytes}
    (same : Wire.field left 0 4 = Wire.field right 0 4) :
    sourcePort? ⟨kind, left⟩ = sourcePort? ⟨kind, right⟩ ∧
      destinationPort? ⟨kind, left⟩ = destinationPort? ⟨kind, right⟩ := by
  have source : Wire.word left 0 = Wire.word right 0 :=
    Wire.word_of_field same (by decide : 0 + 2 ≤ 4)
  have destination : Wire.word left 2 = Wire.word right 2 := by
    have second := Wire.word_of_field same (by decide : 2 + 2 ≤ 4)
    rwa [Nat.zero_add] at second
  cases kind with
  | udp => exact ⟨congrArg some source, congrArg some destination⟩
  | tcp => exact ⟨congrArg some source, congrArg some destination⟩
  | icmp => exact ⟨rfl, rfl⟩

theorem checksumOffset_ge_ports {kind : Kind} (carries : kind = .udp ∨ kind = .tcp) :
    4 ≤ kind.protocol.checksumOffset := by
  rcases carries with rfl | rfl <;> decide

-- The ports of a segment are not moved by its checksum.
theorem ports_sealedSegment {kind : Kind} {bytes : Bytes} (sound : Sound ⟨kind, bytes⟩)
    (carries : kind = .udp ∨ kind = .tcp) (family : Family) (header : Bytes) :
    Wire.field (Checksum.sealedSegment family header kind.protocol bytes) 0 4
      = Wire.field bytes 0 4 :=
  Wire.field_overwrite_of_disjoint (.inl (checksumOffset_ge_ports carries))
    (by rw [Wire.length_encode]; exact sound.length_ge)

theorem sourcePort?_sealedSegment {kind : Kind} {bytes : Bytes} (sound : Sound ⟨kind, bytes⟩)
    (family : Family) (header : Bytes) :
    sourcePort? ⟨kind, Checksum.sealedSegment family header kind.protocol bytes⟩
      = sourcePort? ⟨kind, bytes⟩ := by
  cases kind with
  | udp => exact (ports_of_field (ports_sealedSegment sound (.inl rfl) family header)).1
  | tcp => exact (ports_of_field (ports_sealedSegment sound (.inr rfl) family header)).1
  | icmp _ => rfl

theorem destinationPort?_sealedSegment {kind : Kind} {bytes : Bytes} (sound : Sound ⟨kind, bytes⟩)
    (family : Family) (header : Bytes) :
    destinationPort? ⟨kind, Checksum.sealedSegment family header kind.protocol bytes⟩
      = destinationPort? ⟨kind, bytes⟩ := by
  cases kind with
  | udp => exact (ports_of_field (ports_sealedSegment sound (.inl rfl) family header)).2
  | tcp => exact (ports_of_field (ports_sealedSegment sound (.inr rfl) family header)).2
  | icmp _ => rfl

end Segment
end Nat64Gateway
