import Nat64Gateway.Proofs.Checksum.Filled

namespace Nat64Gateway.Checksum

-- The one's complement sum is all ones.
def Full (sum : Nat) : Prop :=
  endAround sum = 0xffff

instance (sum : Nat) : Decidable (Full sum) :=
  inferInstanceAs (Decidable (endAround sum = 0xffff))

-- A full sum stays full by whole turns alone.
theorem full_add_iff {sum more : Nat} (full : Full sum) : Full (sum + more) ↔ more % 65535 = 0 := by
  unfold Full endAround at *
  split at full
  · omega
  · rw [if_neg (by omega)]
    omega

theorem headerValid_iff {header : Bytes} (fits : header.length ≤ maxChunk) :
    headerValid header = true ↔ Full (wordSum header) := by
  have added := toNat_sum 0 fits
  rw [show (0 : UInt16).toNat = 0 from rfl, Nat.zero_add] at added
  unfold headerValid Full
  rw [decide_eq_true_iff, ← added, ← UInt16.toNat_inj]
  rfl

section Transport

variable {family : Family} {header payload : Bytes} {protocol : Protocol}

theorem transportValid_iff (heads : Heads family header) (fits : payload.length ≤ maxChunk) :
    transportValid family (header ++ payload) protocol = true ↔
      omitted family (header ++ payload) protocol = true ∨
        Full (pseudoSum family header protocol payload.length + wordSum payload) := by
  have sum : (transportSum family (header ++ payload) protocol).sum = 0xffff ↔
      Full (pseudoSum family header protocol payload.length + wordSum payload) := by
    unfold Full
    rw [← toNat_transportSum heads fits, ← Accumulator.toNat_sum, ← UInt16.toNat_inj]
    rfl
  unfold transportValid
  rw [Bool.or_eq_true, decide_eq_true_iff, sum]

theorem omitted_iff (heads : Heads family header) :
    omitted family (header ++ payload) protocol = true ↔
      family = .v4 ∧ protocol = .udp ∧ Wire.field payload 6 2 = [0, 0] := by
  unfold omitted
  rw [decide_eq_true_iff, heads.transportField_append,
    Wire.field_append_right (Nat.le_add_right ..), Nat.add_sub_cancel_left]
  constructor
  · rintro ⟨four, rfl, blank⟩
    exact ⟨four, rfl, blank⟩
  · rintro ⟨four, rfl, blank⟩
    exact ⟨four, rfl, blank⟩

end Transport
end Nat64Gateway.Checksum
