import Nat64Gateway.Proofs.Checksum.Verdict

namespace Nat64Gateway

namespace Wire

theorem field_overwrite_inner {bytes new : Bytes} {start width offset : Nat}
    (behind : start ≤ offset) (within : offset + new.length ≤ start + width)
    (inside : start + width ≤ bytes.length) :
    field (overwrite bytes offset new) start width
      = overwrite (field bytes start width) (offset - start) new := by
  unfold field
  rw [drop_overwrite_of_le behind (by omega),
    take_overwrite_of_ge (by omega) (by rw [List.length_drop]; omega)]

theorem overwrite_field_inner {bytes new : Bytes} {start width offset : Nat}
    (inside : offset + new.length ≤ (field bytes start width).length)
    (room : start ≤ bytes.length) :
    overwrite bytes start (overwrite (field bytes start width) offset new)
      = overwrite bytes (start + offset) new := by
  have same : overwrite bytes start (field bytes start width) = bytes := by
    apply overwrite_field
    unfold field
    rw [List.length_take, List.take_eq_take_iff]
    omega
  rw [← overwrite_inner room inside, same]

end Wire

namespace Checksum

-- The two words that are zero in one's complement, one in the place of the other.
def Opposite (old new : Bytes) : Prop :=
  old = [0, 0] ∧ new = [0xff, 0xff] ∨ old = [0xff, 0xff] ∧ new = [0, 0]

-- Another word at an even place. An odd byte at the end is a word by itself.
structure WordChange (bytes : Bytes) (offset : Nat) (new : Bytes) : Prop where
  aligned : offset % 2 = 0
  width : new.length = (Wire.field bytes offset 2).length
  differs : new ≠ Wire.field bytes offset 2

def flipped (bytes : Bytes) (index : Nat) (bit : Fin 8) : Bytes :=
  Wire.overwrite bytes index [Wire.byte bytes index ^^^ 1 <<< UInt8.ofNat bit.val]

-- A check of the words at the covered places sees every change of one of them. It is blind to a
-- change between the two zeros, and passes what it does not judge by its sum.
structure Detects (valid : Bytes → Bool) (covered : Nat → Prop) (passed : Bytes → Prop)
    (bytes : Bytes) : Prop where
  word : ∀ offset new, covered offset → WordChange bytes offset new →
    ¬Opposite (Wire.field bytes offset 2) new →
      (valid (Wire.overwrite bytes offset new) = true ↔ passed (Wire.overwrite bytes offset new))
  blind : ∀ offset, covered offset → WordChange bytes offset [0xff, 0xff] →
    Wire.field bytes offset 2 = [0, 0] →
      valid (Wire.overwrite bytes offset [0xff, 0xff]) = true
  bit : ∀ index bit, covered index →
    (valid (flipped bytes index bit) = true ↔ passed (flipped bytes index bit))

section Words

theorem full_iff {sum : Nat} : Full sum ↔ 0 < sum ∧ sum % 65535 = 0 := by
  unfold Full endAround
  split <;> omega

theorem full_exchange {sum changed old new : Nat} (full : Full sum)
    (exchanged : changed + old = sum + new) (old_small : old ≤ 65535) (new_small : new ≤ 65535)
    (differs : old ≠ new) :
    Full changed ↔ 0 < changed ∧ (old = 0 ∧ new = 65535 ∨ old = 65535 ∧ new = 0) := by
  -- No two words but 0 and 65535 are the same modulo 65535.
  rw [full_iff] at full ⊢
  omega

theorem wordSum_word_le {word : Bytes} (short : word.length ≤ 2) : wordSum word ≤ 65535 := by
  have bound := wordSum_le word
  omega

theorem wordSum_word_inj {left right : Bytes} (short : left.length ≤ 2)
    (same : left.length = right.length) (sums : wordSum left = wordSum right) : left = right := by
  match left, right, same with
  | [], [], _ => rfl
  | [high], [other], _ =>
    have equal : high.toNat = other.toNat := by simpa [wordSum] using sums
    rw [UInt8.toNat_inj.mp equal]
  | [high, low], [other_high, other_low], _ =>
    have small_low : low.toNat < 256 := low.toNat_lt
    have small_other : other_low.toNat < 256 := other_low.toNat_lt
    simp only [wordSum] at sums
    have equal_high : high.toNat = other_high.toNat := by omega
    have equal_low : low.toNat = other_low.toNat := by omega
    rw [UInt8.toNat_inj.mp equal_high, UInt8.toNat_inj.mp equal_low]
  | _ :: _ :: _ :: _, _, _ => simp at short

theorem eq_ones_of_wordSum {word : Bytes} (short : word.length ≤ 2)
    (full : wordSum word = 65535) : word = [0xff, 0xff] := by
  have two : word.length = 2 := by
    match word, short with
    | [], _ => simp [wordSum] at full
    | [high], _ =>
      -- The low half of an odd byte's word is zero.
      simp only [wordSum] at full
      omega
    | [_, _], _ => rfl
  exact wordSum_word_inj short two full

theorem eq_zeros_of_wordSum {word : Bytes} (two : word.length = 2) (blank : wordSum word = 0) :
    word = [0, 0] :=
  wordSum_word_inj (Nat.le_of_eq two) two blank

theorem opposite_iff {old new : Bytes} (short : old.length ≤ 2) (same : new.length = old.length) :
    Opposite old new ↔
      wordSum old = 0 ∧ wordSum new = 65535 ∨ wordSum old = 65535 ∧ wordSum new = 0 := by
  unfold Opposite
  constructor
  · rintro (⟨rfl, rfl⟩ | ⟨rfl, rfl⟩)
    · exact .inl ⟨rfl, rfl⟩
    · exact .inr ⟨rfl, rfl⟩
  · rintro (⟨blank, full⟩ | ⟨full, blank⟩)
    · obtain rfl := eq_ones_of_wordSum (by rw [same]; exact short) full
      exact .inl ⟨eq_zeros_of_wordSum same.symm blank, rfl⟩
    · obtain rfl := eq_ones_of_wordSum short full
      exact .inr ⟨rfl, eq_zeros_of_wordSum same blank⟩

end Words

namespace WordChange

variable {bytes new : Bytes} {offset : Nat}

theorem short (bytes : Bytes) (offset : Nat) : (Wire.field bytes offset 2).length ≤ 2 :=
  List.length_take_le ..

theorem inside (change : WordChange bytes offset new) : offset + new.length ≤ bytes.length ∧
    (new.length = 2 ∨ new.length = 1 ∧ offset + 1 = bytes.length) := by
  have width := change.width
  unfold Wire.field at width
  rw [List.length_take, List.length_drop] at width
  have positive : new.length ≠ 0 := by
    intro none
    have old_none : (Wire.field bytes offset 2).length = 0 := change.width.symm.trans none
    rw [List.length_eq_zero_iff] at none old_none
    exact change.differs (none.trans old_none.symm)
  omega

theorem wordSum_exchange (change : WordChange bytes offset new) :
    wordSum (Wire.overwrite bytes offset new) + wordSum (Wire.field bytes offset 2)
      = wordSum bytes + wordSum new := by
  obtain ⟨room, two | ⟨one, last⟩⟩ := change.inside
  · have exchanged := wordSum_overwrite bytes new change.aligned (by rw [two]) room
    rwa [two] at exchanged
  · have even : (bytes.take offset).length % 2 = 0 := by
      rw [List.length_take_of_le (by omega)]
      exact change.aligned
    have whole := Wire.take_field_drop bytes offset 2
    have written : Wire.overwrite bytes offset new = bytes.take offset ++ new := by
      unfold Wire.overwrite
      rw [List.drop_eq_nil_of_le (by omega), List.append_nil]
    rw [List.drop_eq_nil_of_le (by omega), List.append_nil] at whole
    have old := congrArg wordSum whole
    rw [wordSum_append even] at old
    rw [written, wordSum_append even]
    omega

-- After an exchange a full sum is full again only if the two words are the two zeros.
theorem full_iff_opposite (change : WordChange bytes offset new) {sum changed : Nat}
    (full : Full sum)
    (exchanged : changed + wordSum (Wire.field bytes offset 2) = sum + wordSum new) :
    Full changed ↔ 0 < changed ∧ Opposite (Wire.field bytes offset 2) new := by
  have old_short := short bytes offset
  have new_short : new.length ≤ 2 := by
    rw [change.width]
    exact old_short
  have differs : wordSum (Wire.field bytes offset 2) ≠ wordSum new :=
    fun same => change.differs (wordSum_word_inj old_short change.width.symm same).symm
  rw [full_exchange full exchanged (wordSum_word_le old_short) (wordSum_word_le new_short) differs,
    opposite_iff old_short change.width]

theorem within {part : Bytes} {place : Nat} (change : WordChange bytes offset new)
    (even : place % 2 = 0) (same : Wire.field part place 2 = Wire.field bytes offset 2) :
    WordChange part place new :=
  ⟨even, by rw [same]; exact change.width, by rw [same]; exact change.differs⟩

end WordChange

-- The two zeros have no byte in common.
theorem Opposite.byte_ne {old new : Bytes} (opposite : Opposite old new) {place : Nat}
    (inside : place < 2) : Wire.byte old place ≠ Wire.byte new place := by
  have apart : ∀ index < 2, Wire.byte [0, 0] index ≠ Wire.byte [0xff, 0xff] index := by decide
  rcases opposite with ⟨rfl, rfl⟩ | ⟨rfl, rfl⟩
  · exact apart place inside
  · exact (apart place inside).symm

theorem Opposite.length {old new : Bytes} (opposite : Opposite old new) : old.length = 2 := by
  rcases opposite with ⟨rfl, rfl⟩ | ⟨rfl, rfl⟩ <;> rfl

-- The byte beside the changed one is the same before and after, which the two zeros rule out.
theorem word_of_byte {word : Bytes} {place : Nat} {value : UInt8}
    (inside : place < word.length) (differs : value ≠ Wire.byte word place) :
    Wire.overwrite word place [value] ≠ word ∧
      ¬Opposite word (Wire.overwrite word place [value]) := by
  constructor
  · intro same
    have written : Wire.field (Wire.overwrite word place [value]) place 1 = [value] :=
      Wire.field_overwrite_self rfl (Nat.le_of_lt inside)
    rw [same, Wire.field_one inside] at written
    exact differs (List.cons.inj written).1.symm
  · intro opposite
    have two := opposite.length
    have beside : Wire.byte (Wire.overwrite word place [value]) (1 - place)
        = Wire.byte word (1 - place) :=
      Wire.byte_overwrite_of_disjoint (by simp only [List.length_singleton]; omega) inside
    exact opposite.byte_ne (by omega) beside.symm

theorem wordChange_of_byte {bytes : Bytes} {index : Nat} {value : UInt8}
    (inside : index < bytes.length) (differs : value ≠ Wire.byte bytes index) :
    ∃ new, Wire.overwrite bytes (index - index % 2) new = Wire.overwrite bytes index [value] ∧
      WordChange bytes (index - index % 2) new ∧
      ¬Opposite (Wire.field bytes (index - index % 2) 2) new := by
  have place : index - index % 2 + index % 2 = index := by omega
  have length : (Wire.field bytes (index - index % 2) 2).length
      = min 2 (bytes.length - (index - index % 2)) := by
    unfold Wire.field
    rw [List.length_take, List.length_drop]
  have room : index % 2 < (Wire.field bytes (index - index % 2) 2).length := by
    rw [length]
    omega
  have old : Wire.byte (Wire.field bytes (index - index % 2) 2) (index % 2)
      = Wire.byte bytes index := by
    rw [Wire.byte_field bytes _ (Nat.mod_lt index (by decide)), place]
  obtain ⟨other, apart⟩ := word_of_byte room (by rw [old]; exact differs)
  refine ⟨_, ?_, ⟨by omega, Wire.length_overwrite room, other⟩, apart⟩
  rw [Wire.overwrite_field_inner room (by omega), place]

theorem flipped_ne (byte : UInt8) (bit : Fin 8) : byte ^^^ 1 <<< UInt8.ofNat bit.val ≠ byte := by
  have set : ∀ place : Fin 8, (1 : UInt8) <<< UInt8.ofNat place.val ≠ 0 := by decide
  intro same
  apply set bit
  have cleared := congrArg (byte ^^^ ·) same
  simpa only [← UInt8.xor_assoc, UInt8.xor_self, UInt8.zero_xor] using cleared

-- What a checksum detects follows from what its sum is made of.
theorem Detects.of_sum {valid : Bytes → Bool} {covered : Nat → Prop} {passed : Bytes → Prop}
    {bytes : Bytes} (summed : Bytes → Nat) (full : Full (summed bytes))
    (inside : ∀ index, covered index → index < bytes.length)
    (aligned : ∀ index, covered index → covered (index - index % 2))
    (judged : ∀ offset new, covered offset → WordChange bytes offset new →
      (valid (Wire.overwrite bytes offset new) = true ↔
        passed (Wire.overwrite bytes offset new) ∨ Full (summed (Wire.overwrite bytes offset new))))
    (exchanged : ∀ offset new, covered offset → WordChange bytes offset new →
      summed (Wire.overwrite bytes offset new) + wordSum (Wire.field bytes offset 2)
        = summed bytes + wordSum new) :
    Detects valid covered passed bytes := by
  have word : ∀ offset new, covered offset → WordChange bytes offset new →
      ¬Opposite (Wire.field bytes offset 2) new →
        (valid (Wire.overwrite bytes offset new) = true ↔
          passed (Wire.overwrite bytes offset new)) := by
    intro offset new within change apart
    rw [judged offset new within change,
      change.full_iff_opposite full (exchanged offset new within change),
      or_iff_left (fun both => apart both.2)]
  refine ⟨word, ?_, ?_⟩
  · intro offset within change blank
    have exchange := exchanged offset _ within change
    have ones : wordSum [0xff, 0xff] = 65535 := rfl
    have zeros : wordSum (Wire.field bytes offset 2) = 0 := by
      rw [blank]
      rfl
    rw [judged offset _ within change, change.full_iff_opposite full exchange]
    exact .inr ⟨by omega, .inl ⟨blank, rfl⟩⟩
  · intro index bit within
    obtain ⟨new, same, change, apart⟩ := wordChange_of_byte (inside index within)
      (flipped_ne (Wire.byte bytes index) bit)
    have verdict := word _ new (aligned index within) change apart
    rwa [same] at verdict

section Header

theorem detects_header {header : Bytes} (fits : header.length ≤ maxChunk)
    (valid : headerValid header = true) :
    Detects headerValid (· < header.length) (fun _ => False) header := by
  refine .of_sum wordSum ((headerValid_iff fits).mp valid) (fun _ within => within) ?_ ?_ ?_
  · intro index within
    exact Nat.lt_of_le_of_lt (Nat.sub_le ..) within
  · intro offset new _ change
    have length := Wire.length_overwrite change.inside.1
    rw [headerValid_iff (by rw [length]; exact fits), false_or]
  · intro offset new _ change
    exact change.wordSum_exchange

end Header

def addresses : Family → Nat × Nat
  | .v4 => (12, 8)
  | .v6 => (8, 32)

-- The bytes that a transport checksum covers. ICMP over IPv4 has no pseudo header.
inductive Covered (family : Family) (packet : Bytes) (protocol : Protocol) (index : Nat) :
    Prop where
  | segment (behind : headerLength family packet ≤ index) (inside : index < packet.length)
  | address (summed : family = .v6 ∨ protocol ≠ .icmp4) (behind : (addresses family).1 ≤ index)
      (inside : index < (addresses family).1 + (addresses family).2)

def coveredSum (family : Family) (protocol : Protocol) (packet : Bytes) : Nat :=
  pseudoSum family packet protocol (packet.drop (headerLength family packet)).length
    + wordSum (packet.drop (headerLength family packet))

def pseudoRest (family : Family) (protocol : Protocol) (length : Nat) : Nat :=
  match family with
  | .v4 => wordSum [0, protocol.number] + wordSum (Wire.encode 2 length)
  | .v6 => wordSum (Wire.encode 4 length) + wordSum [0, 0, 0, protocol.number]

section Transport

variable {family : Family} {packet new : Bytes} {protocol : Protocol} {offset : Nat}

theorem headerLength_even (family : Family) (packet : Bytes) :
    headerLength family packet % 2 = 0 := by
  cases family with
  | v4 =>
    have stated : headerLength .v4 packet = (Wire.byte packet 0).toNat % 16 * 4 := rfl
    omega
  | v6 =>
    have stated : headerLength .v6 packet = 40 := rfl
    rw [stated]

theorem addresses_even (family : Family) : (addresses family).1 % 2 = 0 := by
  cases family <;> rfl

theorem addresses_inside (headed : Headed family packet) :
    (addresses family).1 + (addresses family).2 ≤ headerLength family packet := by
  cases family with
  | v4 => exact headed.long
  | v6 => exact Nat.le_refl 40

theorem pseudoSum_eq (summed : family = .v6 ∨ protocol ≠ .icmp4) (length : Nat) :
    pseudoSum family packet protocol length
      = wordSum (Wire.field packet (addresses family).1 (addresses family).2)
        + pseudoRest family protocol length := by
  unfold pseudoSum pseudoHeader pseudoRest addresses
  cases family with
  | v4 =>
    have other : protocol ≠ .icmp4 := summed.resolve_left nofun
    simp [other]
  | v6 => simp

theorem pseudoSum_congr {other : Bytes}
    (same : Wire.field other (addresses family).1 (addresses family).2
      = Wire.field packet (addresses family).1 (addresses family).2) (length : Nat) :
    pseudoSum family other protocol length = pseudoSum family packet protocol length := by
  unfold addresses at same
  unfold pseudoSum pseudoHeader
  cases family with
  | v4 => simp only [same]
  | v6 => simp only [same]

-- Nothing of what is covered tells the length of the header.
theorem headerLength_overwrite (headed : Headed family packet)
    (covered : Covered family packet protocol offset) (room : offset + new.length ≤ packet.length) :
    headerLength family (Wire.overwrite packet offset new) = headerLength family packet := by
  have behind : 0 < offset := by
    have long := headed.long
    cases covered with
    | segment behind => omega
    | address _ behind =>
      refine Nat.lt_of_lt_of_le ?_ behind
      cases family <;> decide
  cases family with
  | v4 =>
    have first : Wire.byte (Wire.overwrite packet offset new) 0 = Wire.byte packet 0 :=
      Wire.byte_overwrite_of_disjoint (.inl behind) room
    exact congrArg (fun byte : UInt8 => byte.toNat % 16 * 4) first
  | v6 => rfl

theorem Headed.overwrite (headed : Headed family packet)
    (covered : Covered family packet protocol offset) (room : offset + new.length ≤ packet.length) :
    Headed family (Wire.overwrite packet offset new) := by
  have same := headerLength_overwrite headed covered room
  refine ⟨?_, ?_⟩
  · rw [same]
    exact headed.long
  · rw [same, Wire.length_overwrite room]
    exact headed.inside

theorem coveredSum_exchange (headed : Headed family packet)
    (covered : Covered family packet protocol offset) (change : WordChange packet offset new) :
    coveredSum family protocol (Wire.overwrite packet offset new)
        + wordSum (Wire.field packet offset 2)
      = coveredSum family protocol packet + wordSum new := by
  obtain ⟨room, _⟩ := change.inside
  have same := headerLength_overwrite headed covered room
  have before := addresses_inside headed
  have aligned := change.aligned
  have start_even := addresses_even family
  have header_even := headerLength_even family packet
  unfold coveredSum
  rw [same]
  -- The exchanged word is in one of the two summed runs and beside the other.
  cases covered with
  | segment behind _ =>
    have place : headerLength family packet + (offset - headerLength family packet) = offset := by
      omega
    have stands : Wire.field (packet.drop (headerLength family packet))
        (offset - headerLength family packet) 2 = Wire.field packet offset 2 := by
      rw [Wire.field_drop, place]
    have inner := (change.within (by omega) stands).wordSum_exchange
    have ahead : Wire.field (Wire.overwrite packet offset new) (addresses family).1
        (addresses family).2 = Wire.field packet (addresses family).1 (addresses family).2 :=
      Wire.field_overwrite_of_disjoint (.inl (Nat.le_trans before behind)) room
    rw [stands] at inner
    rw [Wire.drop_overwrite_of_le behind (by omega), Wire.length_overwrite
      (by rw [List.length_drop]; omega), pseudoSum_congr ahead]
    omega
  | address summed behind inside =>
    have width_even : (addresses family).2 % 2 = 0 := by
      cases family <;> rfl
    have short := WordChange.short packet offset
    have width := change.width
    have place : (addresses family).1 + (offset - (addresses family).1) = offset := by omega
    have stands : Wire.field (Wire.field packet (addresses family).1 (addresses family).2)
        (offset - (addresses family).1) 2 = Wire.field packet offset 2 := by
      rw [Wire.field_field _ _ (by omega), place]
    have inner := (change.within (by omega) stands).wordSum_exchange
    rw [stands, ← Wire.field_overwrite_inner behind (by omega)
      (Nat.le_trans before headed.inside)] at inner
    rw [Wire.drop_overwrite_of_ge (by omega) room, pseudoSum_eq summed, pseudoSum_eq summed]
    omega

theorem transportValid_iff_coveredSum (headed : Headed family packet)
    (fits : (packet.drop (headerLength family packet)).length ≤ maxChunk) :
    transportValid family packet protocol = true ↔
      omitted family packet protocol = true ∨ Full (coveredSum family protocol packet) := by
  obtain ⟨header, segment, rfl, heads⟩ := headed.apart
  rw [heads.headerLength_append, List.drop_left] at fits
  unfold coveredSum pseudoSum
  rw [heads.headerLength_append, List.drop_left, heads.pseudoHeader_append]
  exact transportValid_iff heads fits

theorem omitted_iff_field (family : Family) (packet : Bytes) (protocol : Protocol) :
    omitted family packet protocol = true ↔ family = .v4 ∧ protocol = .udp ∧
      Wire.field packet (transportField family packet protocol) 2 = [0, 0] :=
  decide_eq_true_iff

theorem detects_transport (headed : Headed family packet)
    (fits : (packet.drop (headerLength family packet)).length ≤ maxChunk)
    (valid : transportValid family packet protocol = true)
    (present : omitted family packet protocol = false) :
    Detects (transportValid family · protocol) (Covered family packet protocol)
      (fun changed => family = .v4 ∧ protocol = .udp ∧
        Wire.field changed (transportField family packet protocol) 2 = [0, 0]) packet := by
  have full : Full (coveredSum family protocol packet) := by
    rcases (transportValid_iff_coveredSum headed fits).mp valid with absent | full
    · rw [present] at absent
      cases absent
    · exact full
  refine .of_sum (coveredSum family protocol) full ?_ ?_ ?_ fun _ _ => coveredSum_exchange headed
  · intro index covered
    cases covered with
    | segment _ inside => exact inside
    | address _ _ inside =>
      exact Nat.lt_of_lt_of_le inside (Nat.le_trans (addresses_inside headed) headed.inside)
  · intro index covered
    have header_even := headerLength_even family packet
    have start_even := addresses_even family
    cases covered with
    | segment behind inside => exact .segment (by omega) (by omega)
    | address summed behind inside => exact .address summed (by omega) (by omega)
  · intro offset new covered change
    obtain ⟨room, _⟩ := change.inside
    have same := headerLength_overwrite headed covered room
    have length := Wire.length_overwrite room
    have changed_fits : ((Wire.overwrite packet offset new).drop
        (headerLength family (Wire.overwrite packet offset new))).length ≤ maxChunk := by
      rw [same, List.length_drop, length, ← List.length_drop]
      exact fits
    rw [transportValid_iff_coveredSum (headed.overwrite covered room) changed_fits,
      omitted_iff_field]
    unfold transportField
    rw [same]

end Transport

theorem detects_changes :
    (∀ header, header.length ≤ maxChunk → headerValid header = true →
      Detects headerValid (· < header.length) (fun _ => False) header) ∧
    ∀ family packet protocol, Headed family packet →
      (packet.drop (headerLength family packet)).length ≤ maxChunk →
      transportValid family packet protocol = true → omitted family packet protocol = false →
        Detects (transportValid family · protocol) (Covered family packet protocol)
          (fun changed => family = .v4 ∧ protocol = .udp ∧
            Wire.field changed (transportField family packet protocol) 2 = [0, 0]) packet :=
  ⟨fun _ => detects_header, fun _ _ _ => detects_transport⟩

-- A datagram whose checksum has only its last bit set.
def lastBit : Bytes :=
  [0x45, 0, 0, 29, 0, 0, 0, 0, 64, 17, 0xae, 0xc7, 10, 0, 0, 2, 192, 0, 2, 7]
    ++ [0x14, 0x62, 0x17, 0x70, 0, 9, 0, 1, 8]

-- An error in the odd byte at the end shows, and so does one in an address. Without its last bit
-- the checksum counts as left out.
theorem detects_changes_lastBit :
    headerValid (lastBit.take 20) = true ∧ headerValid (flipped (lastBit.take 20) 19 7) = false ∧
      Headed .v4 lastBit ∧ transportValid .v4 lastBit .udp = true ∧
      omitted .v4 lastBit .udp = false ∧ transportValid .v4 (flipped lastBit 28 0) .udp = false ∧
      transportValid .v4 (flipped lastBit 19 7) .udp = false ∧
      transportValid .v4 (flipped lastBit 27 0) .udp = true := by
  have header : headerValid (lastBit.take 20) = true := by decide
  have headed : Headed .v4 lastBit := ⟨by decide, by decide⟩
  have valid : transportValid .v4 lastBit .udp = true := by decide
  have present : omitted .v4 lastBit .udp = false := by decide
  have in_header := detects_changes.1 _ (by decide) header
  have in_packet := detects_changes.2 .v4 lastBit .udp headed (by decide) valid present
  have tail := in_packet.bit 28 0 (.segment (by decide) (by decide))
  have address := in_packet.bit 19 7 (.address (.inr (by decide)) (by decide) (by decide))
  have field := in_packet.bit 27 0 (.segment (by decide) (by decide))
  refine ⟨header, ?_, headed, valid, present, ?_, ?_, field.mpr ⟨rfl, rfl, by decide⟩⟩
  · exact Bool.eq_false_iff.mpr fun passed => (in_header.bit 19 7 (by decide)).mp passed
  · exact Bool.eq_false_iff.mpr fun passed => absurd (tail.mp passed).2.2 (by decide)
  · exact Bool.eq_false_iff.mpr fun passed => absurd (address.mp passed).2.2 (by decide)

end Checksum
end Nat64Gateway
