import Nat64Gateway.Proofs.Nat64.ToV6

namespace Nat64Gateway

namespace Subnet

variable {host address other : Address.V4} {length : Nat}

def mask (length : Nat) : Address.V4 :=
  ⟨BitVec.allOnes 32 <<< (32 - length)⟩

def Member (host : Address.V4) (length : Nat) (address : Address.V4) : Prop :=
  ∀ index < length, address.bits.getMsbD index = host.bits.getMsbD index

structure Last (host : Address.V4) (length : Nat) (address : Address.V4) : Prop where
  member : Member host length address
  greatest : ∀ other, Member host length other → other.bits.toNat ≤ address.bits.toNat

def filled (host netmask : Address.V4) : Address.V4 :=
  ⟨(host.bits &&& netmask.bits) ||| ~~~netmask.bits⟩

theorem getMsbD_mask (short : length ≤ 32) (index : Nat) :
    (mask length).bits.getMsbD index = decide (index < length) := by
  have place : index + (32 - length) < 32 ↔ index < length := by omega
  unfold mask
  rw [BitVec.getMsbD_shiftLeft, BitVec.getMsbD_allOnes, decide_eq_decide]
  exact place

theorem mask_full_iff (short : length ≤ 32) :
    (mask length).bits = BitVec.allOnes 32 ↔ length = 32 := by
  constructor
  · intro full
    have last := getMsbD_mask short 31
    rw [full, BitVec.getMsbD_allOnes] at last
    have reached : 31 < length := of_decide_eq_true last.symm
    omega
  · rintro rfl
    rfl

theorem getMsbD_filled (short : length ≤ 32) {index : Nat} (inside : index < 32) :
    (filled host (mask length)).bits.getMsbD index
      = if index < length then host.bits.getMsbD index else true := by
  unfold filled
  rw [BitVec.getMsbD_or, BitVec.getMsbD_and, BitVec.getMsbD_not, getMsbD_mask short]
  split
  · rename_i front
    simp [front]
  · rename_i behind
    simp [behind, inside]

theorem filled_member (short : length ≤ 32) : Member host length (filled host (mask length)) := by
  intro index front
  rw [getMsbD_filled short (Nat.lt_of_lt_of_le front short), if_pos front]

theorem member_le_filled (short : length ≤ 32) (member : Member host length other) :
    other.bits.toNat ≤ (filled host (mask length)).bits.toNat := by
  have covered : other.bits &&& (filled host (mask length)).bits = other.bits := by
    apply BitVec.eq_of_getMsbD_eq
    intro index inside
    rw [BitVec.getMsbD_and, getMsbD_filled short inside]
    split
    · rename_i front
      rw [member index front, Bool.and_self]
    · exact Bool.and_true _
  rw [← covered, BitVec.toNat_and]
  exact Nat.and_le_right

theorem last_iff (short : length ≤ 32) :
    Last host length address ↔ address = filled host (mask length) := by
  constructor
  · intro last
    have below := member_le_filled short last.member
    have above := last.greatest _ (filled_member short)
    exact congrArg Address.V4.mk (BitVec.eq_of_toNat_eq (Nat.le_antisymm below above))
  · rintro rfl
    exact ⟨filled_member short, fun _ member => member_le_filled short member⟩

-- The host is known, and its netmask has so many leading bits and no others.
structure Configured (context : Context) (host : Address.V4) (length : Nat) : Prop where
  short : length ≤ 32
  host : context.host = some host
  netmask : context.netmask = mask length

theorem subnetBroadcast?_eq {context : Context} (configured : Configured context host length) :
    context.subnetBroadcast?
      = if length = 32 then none else some (filled host (mask length)) := by
  unfold Context.subnetBroadcast?
  rw [configured.netmask, configured.host]
  simp only [mask_full_iff configured.short]
  rfl

theorem isBroadcast_iff {context : Context} (configured : Configured context host length) :
    context.isBroadcast address = true ↔
      address = .limitedBroadcast ∨ length ≤ 31 ∧ Last host length address := by
  have short := configured.short
  unfold Context.isBroadcast
  rw [subnetBroadcast?_eq configured, Bool.or_eq_true, decide_eq_true_iff, decide_eq_true_iff,
    last_iff short]
  split
  · rename_i full
    simp [full]
  · rename_i part
    have several : length ≤ 31 := by omega
    simp [several, eq_comm]

def Assignable (host : Address.V4) (length : Nat) : Prop :=
  host ≠ .limitedBroadcast ∧ (length ≤ 31 → ¬Last host length host)

theorem assignable_iff {context : Context} (configured : Configured context host length) :
    Assignable host length ↔ context.isBroadcast host = false := by
  rw [← Bool.not_eq_true, isBroadcast_iff configured, not_or, not_and]
  rfl

end Subnet

namespace Nat64

-- Who receives the host's packets: the host itself on relayed ports, else the node in its place.
def receiver? (context : Context) (host : Address.V4) (segment : Segment) : Option Address.V6 :=
  if segment.destinationPort?.any fun port => !context.exempts port then
    some (context.nat64.image host)
  else context.localV6

theorem toV6_destination {context : Context} {hook : Dns64.Hook} {nextId : UInt16}
    {data buffer : Bytes} {outer : Packet.V4} {n : Nat} (read : Packet.V4.read data = .ok outer)
    (emitted : (toV6 context hook nextId data buffer).verdict = .emitted n) :
    ∃ restored, Packet.V6.read (toV6 context hook nextId data buffer).packet = .ok restored ∧
      ToV6.destinationFor context outer.destination outer.segment.destinationPort?
        = .ok restored.destination := by
  obtain ⟨_, sound, short⟩ := Packet.V4.segment_of_read read
  unfold toV6 at emitted ⊢
  rw [read] at emitted ⊢
  obtain ⟨plan, kind, length, planned, _, emission⟩ := ToV6.run_emitted sound short emitted
  refine ⟨_, emission.read_v6, ?_⟩
  rw [Packet.Header6.destination_packet]
  exact planned.destination

theorem destinationFor_host {context : Context} {host : Address.V4} {segment : Segment}
    {node : Address.V6}
    (decided : ToV6.destinationFor context host segment.destinationPort? = .ok node) :
    (context.isBroadcast host = false → receiver? context host segment = some node) ∧
      (context.isBroadcast host = true → node = .allNodes) := by
  rcases ToV6.destinationFor_eq_ok decided with ⟨everyone, all⟩ | ⟨single, _, found⟩
  · refine ⟨fun single => ?_, fun _ => all⟩
    rw [everyone] at single
    cases single
  · refine ⟨fun _ => ?_, fun everyone => ?_⟩
    · unfold receiver?
      split
      · rename_i relayed
        rw [if_pos relayed] at found
        rw [found]
      · rename_i exempt
        rwa [if_neg exempt] at found
    · rw [single] at everyone
      cases everyone

-- The last address of a subnet of two or more counts as everyone's, whoever has it. So the host's
-- packets go to all nodes if its address is no address of its own, and else to its receiver.
theorem recognises_broadcasts {context : Context} {host : Address.V4} {length : Nat}
    (configured : Subnet.Configured context host length) :
    (∀ address, context.isBroadcast address = true ↔
      address = .limitedBroadcast ∨ length ≤ 31 ∧ Subnet.Last host length address) ∧
    ∀ hook nextId data buffer outer n, Packet.V4.read data = .ok outer →
      outer.destination = host → (toV6 context hook nextId data buffer).verdict = .emitted n →
        ∃ restored, Packet.V6.read (toV6 context hook nextId data buffer).packet = .ok restored ∧
          (Subnet.Assignable host length →
            receiver? context host outer.segment = some restored.destination) ∧
          (¬Subnet.Assignable host length → restored.destination = .allNodes) := by
  refine ⟨fun address => Subnet.isBroadcast_iff configured, ?_⟩
  rintro hook nextId data buffer outer n read rfl emitted
  obtain ⟨restored, read_restored, decided⟩ := toV6_destination read emitted
  obtain ⟨single, everyone⟩ := destinationFor_host decided
  rw [Subnet.assignable_iff configured, Bool.not_eq_false]
  exact ⟨restored, read_restored, single, everyone⟩

def hostOf (host netmask : Address.V4) : Context where
  host := some host
  netmask
  localV6 := some ⟨0xfd000000000000000000000000000002#128⟩

-- From 198.51.100.1, to a port that is not relayed.
def timeReply (host : Address.V4) : Bytes :=
  [0x45, 0, 0, 31, 0x12, 0x34, 0, 0, 64, 17, 0, 0] ++ Address.V4.octets ⟨0xc6336401#32⟩
    ++ host.octets ++ [0, 123, 0, 123, 0, 11, 0, 0, 0x6e, 0x74, 0x70]

def timeReplyRead (host : Address.V4) : Packet.V4 :=
  ⟨timeReply host, ⟨.udp, (timeReply host).drop 20⟩⟩

theorem recognises_broadcasts_eight :
    Subnet.Configured (hostOf ⟨0x0a000006#32⟩ ⟨0xfffffff8#32⟩) ⟨0x0a000006#32⟩ 29 ∧
      (hostOf ⟨0x0a000006#32⟩ ⟨0xfffffff8#32⟩).isBroadcast ⟨0x0a000007#32⟩ = true ∧
      ∃ restored, Packet.V6.read (toV6 (hostOf ⟨0x0a000006#32⟩ ⟨0xfffffff8#32⟩) Dns64.passthrough 0
          (timeReply ⟨0x0a000006#32⟩) (List.replicate 80 0)).packet = .ok restored ∧
        restored.destination = ⟨0xfd000000000000000000000000000002#128⟩ := by
  have configured :
      Subnet.Configured (hostOf ⟨0x0a000006#32⟩ ⟨0xfffffff8#32⟩) ⟨0x0a000006#32⟩ 29 :=
    ⟨by decide, rfl, by decide⟩
  obtain ⟨recognised, delivered⟩ := recognises_broadcasts configured
  have last : Subnet.Last ⟨0x0a000006#32⟩ 29 ⟨0x0a000007#32⟩ :=
    (Subnet.last_iff (by decide)).mpr (by decide)
  have assignable : Subnet.Assignable ⟨0x0a000006#32⟩ 29 :=
    (Subnet.assignable_iff configured).mpr (by decide)
  have read : Packet.V4.read (timeReply ⟨0x0a000006#32⟩)
      = .ok (timeReplyRead ⟨0x0a000006#32⟩) := by rfl
  obtain ⟨restored, read_restored, received, _⟩ :=
    delivered Dns64.passthrough 0 _ (List.replicate 80 0) _ 51 read (by decide) (by rfl)
  exact ⟨configured, (recognised _).mpr (.inr ⟨by decide, last⟩), restored, read_restored,
    (Option.some.inj (received assignable)).symm⟩

-- Of the two hosts 10.0.0.0 and 10.0.0.1 of a subnet, the second shares its packets with everyone.
theorem pair_misjudged :
    Subnet.Configured (hostOf ⟨0x0a000001#32⟩ ⟨0xfffffffe#32⟩) ⟨0x0a000001#32⟩ 31 ∧
      (hostOf ⟨0x0a000001#32⟩ ⟨0xfffffffe#32⟩).isBroadcast ⟨0x0a000001#32⟩ = true ∧
      (⟨0x0a000001#32⟩ : Address.V4) ≠ .limitedBroadcast ∧
      ∃ restored, Packet.V6.read (toV6 (hostOf ⟨0x0a000001#32⟩ ⟨0xfffffffe#32⟩) Dns64.passthrough 0
          (timeReply ⟨0x0a000001#32⟩) (List.replicate 80 0)).packet = .ok restored ∧
        restored.destination = .allNodes := by
  have everyone :
      (hostOf ⟨0x0a000001#32⟩ ⟨0xfffffffe#32⟩).isBroadcast ⟨0x0a000001#32⟩ = true := by decide
  have read : Packet.V4.read (timeReply ⟨0x0a000001#32⟩)
      = .ok (timeReplyRead ⟨0x0a000001#32⟩) := by rfl
  have emitted : (toV6 (hostOf ⟨0x0a000001#32⟩ ⟨0xfffffffe#32⟩) Dns64.passthrough 0
      (timeReply ⟨0x0a000001#32⟩) (List.replicate 80 0)).verdict = .emitted 51 := by rfl
  obtain ⟨restored, read_restored, decided⟩ := toV6_destination read emitted
  exact ⟨⟨by decide, rfl, by decide⟩, everyone, by decide, restored, read_restored,
    (destinationFor_host decided).2 everyone⟩

end Nat64
end Nat64Gateway
