import Nat64Gateway.Proofs.Guarded.Prefix
import Nat64Gateway.Tunnel.Session

namespace Nat64Gateway

namespace Prefix

structure Maps (block : Prefix) (configured : Address.V6) (length : Nat) : Prop where
  covered : ∀ address, (block.embedded? address).isSome ↔
    ∀ index < length, address.bits.getMsbD index = configured.bits.getMsbD index
  low : ∀ address inner, block.embedded? address = some inner →
    ∀ index < 32, inner.bits.getMsbD index = address.bits.getMsbD (96 + index)
  returns : ∀ inner, block.embedded? (block.image inner) = some inner
  image_iff : ∀ address inner, block.embedded? address = some inner →
    (block.image inner = address ↔ ∀ index, length ≤ index → index < 96 →
      address.bits.getMsbD index = configured.bits.getMsbD index)
  whole : length = 96 → ∀ address inner, block.embedded? address = some inner →
    block.image inner = address
  octets : (∀ address, Guarded.Prefix.embedded? block address = .ok (block.embedded? address)) ∧
    ∀ inner, Guarded.Prefix.image block inner = .ok (block.image inner)

section Bits

variable {block : Prefix}

theorem getMsbD_image (inner : Address.V4) (index : Nat) : (block.image inner).bits.getMsbD index
    = if 96 ≤ index then inner.bits.getMsbD (index - 96) else block.base.getMsbD index :=
  BitVec.getMsbD_append

theorem embedded?_eq_some {address : Address.V6} {inner : Address.V4}
    (found : block.embedded? address = some inner) :
    block.covers address = true ∧ inner.bits = address.bits.setWidth 32 := by
  unfold embedded? at found
  split at found
  · rename_i covered
    cases found
    exact ⟨covered, rfl⟩
  · cases found

theorem isSome_embedded? (block : Prefix) (address : Address.V6) :
    (block.embedded? address).isSome = block.covers address := by
  unfold embedded?
  cases block.covers address <;> rfl

theorem getMsbD_embedded {address : Address.V6} {inner : Address.V4}
    (found : block.embedded? address = some inner) (index : Nat) (inside : index < 32) :
    inner.bits.getMsbD index = address.bits.getMsbD (96 + index) := by
  have place : index + 128 - 32 = 96 + index := by omega
  rw [(embedded?_eq_some found).2, BitVec.getMsbD_setWidth, place]
  simp

theorem getMsbD_front (address : Address.V6) {index : Nat} (inside : index < 96) :
    (address.bits.extractLsb' 32 96).getMsbD index = address.bits.getMsbD index := by
  have place : 128 - (32 + 96 - index) = index := by omega
  have real : 32 + 96 - index ≤ 128 := by omega
  rw [BitVec.getMsbD_extractLsb', place, decide_eq_true inside, decide_eq_true real]
  rfl

-- A block keeps the first 96 bits of what was configured.
theorem make_eq_ok {configured : Address.V6} {length : Nat}
    (made : make configured length = .ok block) : block.length = length ∧ length ≤ 96 ∧
      ∀ index < 96, block.base.getMsbD index = configured.bits.getMsbD index := by
  unfold make at made
  split at made
  · rename_i short
    cases made
    exact ⟨rfl, short, fun index inside => getMsbD_front configured inside⟩
  · cases made

theorem exists_make {configured : Address.V6} {length : Nat} (short : length ≤ 96) :
    ∃ block, make configured length = .ok block :=
  ⟨_, dif_pos short⟩

theorem make_refused {configured : Address.V6} {length : Nat} (long : ¬length ≤ 96) :
    make configured length = .error .addressPrefixLong :=
  dif_neg long

theorem make_address (block : Prefix) : make block.address block.length = .ok block := by
  have base : block.address.bits.extractLsb' 32 96 = block.base := by
    apply BitVec.eq_of_getMsbD_eq
    intro index inside
    rw [getMsbD_front _ inside]
    exact (getMsbD_image .unspecified index).trans (if_neg (Nat.not_le.mpr inside))
  unfold make
  rw [dif_pos block.length_le]
  simp only [base]

theorem image_eq_iff {address : Address.V6} {inner : Address.V4}
    (found : block.embedded? address = some inner) : block.image inner = address ↔
      ∀ index < 96, address.bits.getMsbD index = block.base.getMsbD index := by
  constructor
  · rintro rfl index inside
    rw [getMsbD_image, if_neg (Nat.not_le.mpr inside)]
  · intro agree
    have same : (block.image inner).bits = address.bits := by
      apply BitVec.eq_of_getMsbD_eq
      intro index inside
      rw [getMsbD_image]
      split
      · rename_i behind
        rw [getMsbD_embedded found _ (by omega), Nat.add_sub_cancel' behind]
      · rename_i front
        exact (agree index (Nat.not_le.mp front)).symm
    exact congrArg Address.V6.mk same

end Bits

theorem maps_made {block : Prefix} {configured : Address.V6} {length : Nat}
    (made : make configured length = .ok block) : block.Maps configured length := by
  obtain ⟨rfl, short, base⟩ := make_eq_ok made
  have covered : ∀ address, block.covers address = true ↔ ∀ index < block.length,
      address.bits.getMsbD index = configured.bits.getMsbD index := by
    intro address
    rw [covers_iff]
    refine forall₂_congr fun index within => ?_
    have front : index < 96 := Nat.lt_of_lt_of_le within short
    have kept : block.address.bits.getMsbD index = configured.bits.getMsbD index := by
      rw [← base index front]
      exact (getMsbD_image .unspecified index).trans (if_neg (Nat.not_le.mpr front))
    rw [kept]
  have image_iff : ∀ address inner, block.embedded? address = some inner →
      (block.image inner = address ↔ ∀ index, block.length ≤ index → index < 96 →
        address.bits.getMsbD index = configured.bits.getMsbD index) := by
    intro address inner found
    have front := (covered address).mp (embedded?_eq_some found).1
    rw [image_eq_iff found]
    constructor
    · intro agree index _ inside
      rw [agree index inside, base index inside]
    · intro agree index inside
      rw [base index inside]
      rcases Nat.lt_or_ge index block.length with before | behind
      · exact front index before
      · exact agree index behind inside
  refine ⟨?_, fun _ _ => getMsbD_embedded, block.embedded?_image, image_iff, ?_,
    Guarded.Prefix.embedded?_eq block, Guarded.Prefix.image_eq block⟩
  · intro address
    rw [isSome_embedded?, covered]
  · intro full address inner found
    rw [image_iff address inner found]
    intro index behind inside
    omega

end Prefix

namespace Tunnel

def choose (current : Address.V6 × Nat) : Operation → Address.V6 × Nat
  | .configure (.nat64 address length) => if length ≤ 96 then (address, length) else current
  | _ => current

-- The last block that was not refused, or the one that the tunnel began with.
def chosen (tunnel : Tunnel) (operations : List Operation) : Address.V6 × Nat :=
  operations.foldl choose (tunnel.context.nat64.address, tunnel.context.nat64.length)

theorem configure_accepted {tunnel : Tunnel} {address : Address.V6} {length : Nat} {block : Prefix}
    (accepted : Prefix.make address length = .ok block) :
    (tunnel.configure (.nat64 address length)).context.nat64 = block := by
  have changed : tunnel.context.apply (.nat64 address length)
      = (Prefix.make address length).map _ := rfl
  unfold configure
  rw [changed, accepted]
  rfl

theorem configure_refused {tunnel : Tunnel} {address : Address.V6} {length : Nat} {fault : Fault}
    (refused : Prefix.make address length = .error fault) :
    tunnel.configure (.nat64 address length) = tunnel := by
  have changed : tunnel.context.apply (.nat64 address length)
      = (Prefix.make address length).map _ := rfl
  unfold configure
  rw [changed, refused]
  rfl

theorem make_choose {tunnel : Tunnel} {current : Address.V6 × Nat} (operation : Operation)
    (made : Prefix.make current.1 current.2 = .ok tunnel.context.nat64) :
    Prefix.make (choose current operation).1 (choose current operation).2
      = .ok (tunnel.perform operation).context.nat64 := by
  cases operation with
  | encapsulate => exact made
  | decapsulate => exact made
  | configure setting =>
    cases setting with
    | nat64 address length =>
      by_cases short : length ≤ 96
      · obtain ⟨block, accepted⟩ := Prefix.exists_make short
        have taken : choose current (.configure (.nat64 address length)) = (address, length) :=
          if_pos short
        rw [taken, perform, configure_accepted accepted, accepted]
      · have kept : choose current (.configure (.nat64 address length)) = current := if_neg short
        rw [kept, perform, configure_refused (Prefix.make_refused short), made]
    | _ => exact made

theorem make_chosen (tunnel : Tunnel) (operations : List Operation) :
    Prefix.make (tunnel.chosen operations).1 (tunnel.chosen operations).2
      = .ok (tunnel.reach operations).context.nat64 := by
  suffices run : ∀ (current : Address.V6 × Nat) (tunnel : Tunnel),
      Prefix.make current.1 current.2 = .ok tunnel.context.nat64 →
        Prefix.make (operations.foldl choose current).1 (operations.foldl choose current).2
          = .ok (tunnel.reach operations).context.nat64 by
    exact run _ tunnel (Prefix.make_address _)
  induction operations with
  | nil => exact fun _ _ made => made
  | cons operation later ih => exact fun _ _ made => ih _ _ (make_choose operation made)

theorem maps_chosen :
    (∀ configured length, length ≤ 96 →
      ∃ block, Prefix.make configured length = .ok block ∧ block.Maps configured length) ∧
    (∀ configured length, ¬length ≤ 96 →
      Prefix.make configured length = .error .addressPrefixLong) ∧
    ∀ (tunnel : Tunnel) (operations : List Operation), (tunnel.reach operations).context.nat64.Maps
      (tunnel.chosen operations).1 (tunnel.chosen operations).2 := by
  refine ⟨?_, fun _ _ => Prefix.make_refused, ?_⟩
  · intro configured length short
    obtain ⟨block, made⟩ := Prefix.exists_make short
    exact ⟨block, made, Prefix.maps_made made⟩
  · intro tunnel operations
    exact Prefix.maps_made (tunnel.make_chosen operations)

-- 2001:db8:80::/41, with a bit set that lies beyond the length.
def site : Address.V6 := ⟨0x20010db8008000000000000100000000#128⟩

theorem maps_chosen_site :
    41 ≤ 96 ∧ (∃ block, Prefix.make site 41 = .ok block ∧ block.Maps site 41) ∧
      ¬97 ≤ 96 ∧ Prefix.make site 97 = .error .addressPrefixLong ∧
      (Tunnel.reach { context := {} } [.configure (.nat64 site 41),
        .configure (.nat64 .allNodes 97)]).context.nat64.Maps site 41 := by
  obtain ⟨short, long, reached⟩ := maps_chosen
  exact ⟨by decide, short site 41 (by decide), by decide, long site 97 (by decide), reached _ _⟩

end Tunnel
end Nat64Gateway
