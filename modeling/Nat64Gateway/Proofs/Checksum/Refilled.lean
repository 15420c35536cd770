import Nat64Gateway.Proofs.SameOff

namespace Nat64Gateway.Checksum

-- Behind the header stands a segment with room for its checksum, and no longer than a chunk.
structure Fillable (family : Family) (packet : Bytes) (protocol : Protocol) : Prop where
  room : protocol.checksumOffset + 2 ≤ (packet.drop (headerLength family packet)).length
  fits : (packet.drop (headerLength family packet)).length ≤ maxChunk

-- A fill of the two bytes at `offset` that goes by all other bytes and leaves them as they are.
structure Fills (fill : Bytes → Bytes) (offset : Nat) (packet : Bytes) : Prop where
  elsewhere : Wire.SameOff (Wire.onField offset) packet (fill packet)
  present : Wire.field (fill packet) offset 2 ≠ [0, 0]
  regardless : ∀ other, Wire.SameOff (Wire.onField offset) packet other → fill other = fill packet
  again : fill (fill packet) = fill packet

theorem encodeWord_ne_blank {value : UInt16} (present : value ≠ 0) :
    Wire.encode 2 value.toNat ≠ [0, 0] := by
  intro blank
  have zero : Wire.encode 2 value.toNat = Wire.encode 2 0 := blank
  rw [Wire.encode_inj value.toNat_lt (by decide)] at zero
  exact present (UInt16.toNat_inj.mp zero)

theorem Fills.of_word {fill : Bytes → Bytes} {offset : Nat} {packet : Bytes} (word : Bytes → UInt16)
    (present : ∀ blank, word blank ≠ 0) (inside : offset + 2 ≤ packet.length)
    (writes : ∀ other, Wire.SameOff (Wire.onField offset) packet other → fill other
      = Wire.overwrite (Wire.overwrite other offset [0, 0]) offset
          (Wire.encode 2 (word (Wire.overwrite other offset [0, 0])).toNat)) :
    Fills fill offset packet := by
  have blank_inside : offset + [(0 : UInt8), 0].length ≤ packet.length := inside
  have once := writes packet (.refl _ packet)
  have written := once
  rw [Wire.overwrite_overwrite (by simp) blank_inside] at written
  have elsewhere : Wire.SameOff (Wire.onField offset) packet (fill packet) := by
    rw [written]
    exact .of_overwrite (Wire.length_encode ..) inside
  have regardless : ∀ other, Wire.SameOff (Wire.onField offset) packet other →
      fill other = fill packet := by
    intro other same
    rw [writes other same, once, ← same.overwrite_field (rfl : [(0 : UInt8), 0].length = 2)]
  refine ⟨elsewhere, ?_, regardless, regardless _ elsewhere⟩
  rw [written, Wire.field_overwrite_self (Wire.length_encode ..) (by omega)]
  exact encodeWord_ne_blank (present _)

-- The first byte tells the length of an IPv4 header. It stands in front of either field.
theorem headerLength_sameOff (family : Family) {packet other : Bytes} {offset : Nat}
    (same : Wire.SameOff (Wire.onField offset) packet other) (behind : 0 < offset) :
    headerLength family packet = headerLength family other := by
  cases family with
  | v4 =>
    have first := same.byte fun spotted => absurd spotted.1 (Nat.not_le.mpr behind)
    exact congrArg (fun byte : UInt8 => byte.toNat % 16 * 4) first
  | v6 => rfl

variable {family : Family} {packet : Bytes} {protocol : Protocol}

theorem Headed.fillHeader_eq (headed : Headed .v4 packet) : fillHeader packet
    = sealedHeader (packet.take (headerLength4 packet)) ++ packet.drop (headerLength4 packet) := by
  have whole : packet = packet.take (headerLength4 packet) ++ packet.drop (headerLength4 packet) :=
    (List.take_append_drop ..).symm
  exact (congrArg fillHeader whole).trans (fillHeader_append headed.heads)

theorem Fillable.fillTransport_eq (fillable : Fillable family packet protocol)
    (headed : Headed family packet) : fillTransport family packet protocol
      = packet.take (headerLength family packet)
        ++ sealedSegment family (packet.take (headerLength family packet)) protocol
          (packet.drop (headerLength family packet)) := by
  have apart := fillTransport_append headed.heads fillable.room fillable.fits
  rwa [List.take_append_drop] at apart

theorem Headed.fills (headed : Headed .v4 packet) : Fills fillHeader 10 packet := by
  have long := headed.long
  have inside := headed.inside
  refine .of_word (fun blank => headerValue (blank.take (headerLength4 packet)))
    (fun _ => Accumulator.value_ne_zero _) (by omega) ?_
  intro other same
  have length : headerLength4 packet = headerLength4 other :=
    headerLength_sameOff .v4 same (by decide)
  unfold fillHeader
  rw [length]

theorem Headed.valid (headed : Headed .v4 packet) :
    headerValid ((fillHeader packet).take (headerLength4 (fillHeader packet))) = true := by
  have heads := headed.heads
  have long := heads.length_ge
  have short := headerLength4_le packet
  have length : (packet.take (headerLength4 packet)).length = headerLength4 packet :=
    List.length_take_of_le headed.inside
  have closed := heads.sealedHeader
  have stated : headerLength4 (fillHeader packet)
      = (sealedHeader (packet.take (headerLength4 packet))).length := by
    rw [headed.fillHeader_eq]
    exact closed.headerLength_append
  rw [stated, headed.fillHeader_eq, List.take_left]
  exact headerValid_sealedHeader (Nat.le_trans (by decide) long) (by unfold maxChunk; omega)

theorem Fillable.fills (fillable : Fillable family packet protocol)
    (headed : Headed family packet) :
    Fills (fillTransport family · protocol) (transportField family packet protocol) packet := by
  have long := headed.long
  have inside := headed.inside
  have room := fillable.room
  have behind : 0 < transportField family packet protocol :=
    Nat.lt_of_lt_of_le (by omega) (Nat.le_add_right _ _)
  rw [List.length_drop] at room
  refine .of_word (transportValue family · protocol) (fun _ => Accumulator.value_ne_zero _) ?_ ?_
  · unfold transportField
    omega
  · intro other same
    have field : transportField family packet protocol = transportField family other protocol :=
      congrArg (· + protocol.checksumOffset) (headerLength_sameOff family same behind)
    rw [field]
    rfl

theorem Fillable.valid (fillable : Fillable family packet protocol)
    (headed : Headed family packet) :
    transportValid family (fillTransport family packet protocol) protocol = true := by
  rw [fillable.fillTransport_eq headed]
  exact transportValid_sealedSegment headed.heads fillable.room fillable.fits

-- The addresses, which both families sum ahead of a segment, stand behind the header's own field.
theorem sealedSegment_sealedHeader {header segment : Bytes} (long : 20 ≤ header.length) :
    sealedSegment .v4 (sealedHeader header) protocol segment
      = sealedSegment .v4 header protocol segment := by
  have addresses : Wire.field (sealedHeader header) 12 8 = Wire.field header 12 8 :=
    Wire.field_overwrite_of_disjoint (.inr (by rw [Wire.length_encode]))
      (by rw [Wire.length_encode]; omega)
  unfold sealedSegment uncheckedSum pseudoSum pseudoHeader
  rw [addresses]

theorem Fillable.fills_comm (fillable : Fillable .v4 packet protocol) (headed : Headed .v4 packet) :
    fillTransport .v4 (fillHeader packet) protocol
      = fillHeader (fillTransport .v4 packet protocol) := by
  have heads := headed.heads
  rw [headed.fillHeader_eq, fillable.fillTransport_eq headed, fillHeader_append heads]
  refine (fillTransport_append heads.sealedHeader fillable.room fillable.fits).trans ?_
  rw [sealedSegment_sealedHeader heads.length_ge]

theorem fills_valid (family : Family) (packet : Bytes) (headed : Headed family packet) :
    (family = .v4 → Fills fillHeader 10 packet ∧
      headerValid ((fillHeader packet).take (headerLength4 (fillHeader packet))) = true) ∧
    ∀ protocol, Fillable family packet protocol →
      Fills (fillTransport family · protocol) (transportField family packet protocol) packet ∧
      transportValid family (fillTransport family packet protocol) protocol = true ∧
      (family = .v4 → fillTransport .v4 (fillHeader packet) protocol
        = fillHeader (fillTransport .v4 packet protocol)) := by
  refine ⟨?_, ?_⟩
  · rintro rfl
    exact ⟨headed.fills, headed.valid⟩
  · intro protocol fillable
    refine ⟨fillable.fills headed, fillable.valid headed, ?_⟩
    rintro rfl
    exact fillable.fills_comm headed

-- A datagram of one byte whose words come to all ones, so that their complement would be zero.
def allOnes : Bytes :=
  [0x45, 0, 0, 29, 0, 0, 0, 0, 64, 17, 0, 0, 10, 0, 0, 2, 192, 0, 2, 7]
    ++ [0x14, 0x63, 0x17, 0x70, 0, 9, 0x0e, 0xdb, 8]

theorem fills_valid_allOnes : Headed .v4 allOnes ∧ Fillable .v4 allOnes .udp ∧
    headerValid ((fillHeader allOnes).take (headerLength4 (fillHeader allOnes))) = true ∧
    transportValid .v4 (fillTransport .v4 allOnes .udp) .udp = true ∧
    Wire.field (fillTransport .v4 allOnes .udp) 26 2 = [0xff, 0xff] := by
  have headed : Headed .v4 allOnes := ⟨by decide, by decide⟩
  have fillable : Fillable .v4 allOnes .udp := ⟨by decide, by decide⟩
  obtain ⟨header, transport⟩ := fills_valid .v4 allOnes headed
  exact ⟨headed, fillable, (header rfl).2, (transport .udp fillable).2.1, by decide⟩

end Nat64Gateway.Checksum
