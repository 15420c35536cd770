import Nat64Gateway.Proofs.Checksum.WordSum

namespace Nat64Gateway.Checksum

def Heads (family : Family) (header : Bytes) : Prop :=
  match family with
  | .v4 => 20 ≤ header.length ∧ headerLength4 header = header.length
  | .v6 => header.length = 40

def pseudoSum (family : Family) (header : Bytes) (protocol : Protocol) (length : Nat) : Nat :=
  ((pseudoHeader family header protocol length).map wordSum).sum

-- The words of a segment and of what stands for its header, the segment's own field apart.
def uncheckedSum (family : Family) (header : Bytes) (protocol : Protocol) (segment : Bytes) : Nat :=
  pseudoSum family header protocol segment.length
    + wordSum (Wire.overwrite segment protocol.checksumOffset [0, 0])

def sealedSegment (family : Family) (header : Bytes) (protocol : Protocol) (segment : Bytes) :
    Bytes :=
  Wire.overwrite segment protocol.checksumOffset
    (Wire.encode 2 (complement (uncheckedSum family header protocol segment)))

def sealedHeader (header : Bytes) : Bytes :=
  Wire.overwrite header 10
    (Wire.encode 2 (complement (wordSum (Wire.overwrite header 10 [0, 0]))))

theorem checksumOffset_even (protocol : Protocol) : protocol.checksumOffset % 2 = 0 := by
  unfold Protocol.checksumOffset
  split
  · rfl
  · split <;> rfl

theorem checksumOffset_ge (protocol : Protocol) : 2 ≤ protocol.checksumOffset := by
  unfold Protocol.checksumOffset
  split
  · decide
  · split <;> decide

namespace Heads

variable {family : Family} {header segment : Bytes}

theorem length_ge (heads : Heads family header) : 20 ≤ header.length := by
  cases family with
  | v4 => exact heads.1
  | v6 =>
    have length : header.length = 40 := heads
    omega

theorem headerLength_append (heads : Heads family header) :
    headerLength family (header ++ segment) = header.length := by
  cases family with
  | v4 =>
    have long := heads.1
    have first := Wire.byte_append_left segment (by omega : 0 < header.length)
    simp only [headerLength, headerLength4, first]
    exact heads.2
  | v6 =>
    have length : header.length = 40 := heads
    exact length.symm

theorem pseudoHeader_append (heads : Heads family header) (protocol : Protocol) (length : Nat) :
    pseudoHeader family (header ++ segment) protocol length
      = pseudoHeader family header protocol length := by
  cases family with
  | v4 =>
    have long := heads.1
    have addresses := Wire.field_append_left segment (by omega : 12 + 8 ≤ header.length)
    simp only [pseudoHeader, addresses]
  | v6 =>
    have size : header.length = 40 := heads
    have addresses := Wire.field_append_left segment (by omega : 8 + 32 ≤ header.length)
    simp only [pseudoHeader, addresses]

theorem transportField_append (heads : Heads family header) (protocol : Protocol) :
    transportField family (header ++ segment) protocol
      = header.length + protocol.checksumOffset := by
  unfold transportField
  rw [heads.headerLength_append]

end Heads

structure Headed (family : Family) (packet : Bytes) : Prop where
  long : 20 ≤ headerLength family packet
  inside : headerLength family packet ≤ packet.length

theorem Headed.heads {family : Family} {packet : Bytes} (headed : Headed family packet) :
    Heads family (packet.take (headerLength family packet)) := by
  have long := headed.long
  have length := List.length_take_of_le headed.inside
  cases family with
  | v4 =>
    have first : Wire.byte (packet.take (headerLength .v4 packet)) 0 = Wire.byte packet 0 :=
      Wire.byte_take (by omega)
    have stated : headerLength4 (packet.take (headerLength .v4 packet)) = headerLength4 packet :=
      congrArg (fun byte : UInt8 => byte.toNat % 16 * 4) first
    exact ⟨by rw [length]; exact long, stated.trans length.symm⟩
  | v6 => exact length

theorem Headed.apart {family : Family} {packet : Bytes} (headed : Headed family packet) :
    ∃ header segment, packet = header ++ segment ∧ Heads family header :=
  ⟨_, _, (List.take_append_drop (headerLength family packet) packet).symm, headed.heads⟩

theorem pseudoHeader_short {family : Family} {header : Bytes} {protocol : Protocol} {length : Nat}
    {chunk : Bytes} (member : chunk ∈ pseudoHeader family header protocol length) :
    chunk.length ≤ maxChunk := by
  have field_short : ∀ offset width, (Wire.field header offset width).length ≤ width := by
    intro offset width
    exact List.length_take_le ..
  have short : chunk.length ≤ 32 := by
    unfold pseudoHeader at member
    cases family with
    | v4 =>
      simp only at member
      split at member
      · cases member
      · simp only [List.mem_cons, List.not_mem_nil, or_false] at member
        rcases member with rfl | rfl | rfl
        · exact Nat.le_trans (field_short _ _) (by decide)
        · simp
        · rw [Wire.length_encode]
          decide
    | v6 =>
      simp only [List.mem_cons, List.not_mem_nil, or_false] at member
      rcases member with rfl | rfl | rfl
      · exact field_short _ _
      · rw [Wire.length_encode]
        decide
      · simp
  exact Nat.le_trans short (by decide)

section Transport

variable {family : Family} {header segment : Bytes} {protocol : Protocol}

theorem toNat_transportSum (heads : Heads family header) (fits : segment.length ≤ maxChunk) :
    endAround (transportSum family (header ++ segment) protocol).total.toNat
      = endAround (pseudoSum family header protocol segment.length + wordSum segment) := by
  have tail : (header ++ segment).drop header.length = segment := List.drop_left
  have ahead := Accumulator.endAround_foldl_add (.start 0)
    fun chunk (member : chunk ∈ pseudoHeader family header protocol segment.length) =>
      pseudoHeader_short member
  have zero : (Accumulator.start 0).total.toNat = 0 := rfl
  rw [zero, Nat.zero_add] at ahead
  unfold transportSum
  simp only [heads.headerLength_append, tail, heads.pseudoHeader_append]
  rw [Accumulator.toNat_add _ fits, endAround_endAround_add, ← endAround_endAround_add, ahead,
    endAround_endAround_add]
  rfl

theorem toNat_transportValue (heads : Heads family header) (fits : segment.length ≤ maxChunk) :
    (transportValue family (header ++ segment) protocol).toNat
      = complement (pseudoSum family header protocol segment.length + wordSum segment) := by
  unfold transportValue
  rw [Accumulator.toNat_value]
  unfold complement
  rw [toNat_transportSum heads fits]

theorem fillTransport_append (heads : Heads family header)
    (room : protocol.checksumOffset + 2 ≤ segment.length) (fits : segment.length ≤ maxChunk) :
    fillTransport family (header ++ segment) protocol
      = header ++ sealedSegment family header protocol segment := by
  have behind : header.length ≤ header.length + protocol.checksumOffset := Nat.le_add_right ..
  have offset : header.length + protocol.checksumOffset - header.length
      = protocol.checksumOffset := Nat.add_sub_cancel_left ..
  have blank_length : (Wire.overwrite segment protocol.checksumOffset [0, 0]).length
      = segment.length := Wire.length_overwrite room
  unfold fillTransport
  simp only [heads.transportField_append]
  rw [Wire.overwrite_append_right behind, offset,
    toNat_transportValue heads (by rw [blank_length]; exact fits), blank_length,
    Wire.overwrite_append_right behind, offset, Wire.overwrite_overwrite (by simp) room]
  rfl

@[simp] theorem length_sealedSegment (room : protocol.checksumOffset + 2 ≤ segment.length) :
    (sealedSegment family header protocol segment).length = segment.length :=
  Wire.length_overwrite (by rw [Wire.length_encode]; exact room)

theorem drop_sealedSegment {start : Nat} (room : protocol.checksumOffset + 2 ≤ segment.length)
    (behind : protocol.checksumOffset + 2 ≤ start) :
    (sealedSegment family header protocol segment).drop start = segment.drop start :=
  Wire.drop_overwrite_of_ge (by rw [Wire.length_encode]; exact behind)
    (by rw [Wire.length_encode]; exact room)

theorem field_sealedSegment (room : protocol.checksumOffset + 2 ≤ segment.length) :
    Wire.number (sealedSegment family header protocol segment) protocol.checksumOffset 2
      = complement (uncheckedSum family header protocol segment) := by
  unfold Wire.number sealedSegment
  rw [Wire.field_overwrite_self (Wire.length_encode ..) (by omega),
    Wire.decode_encode_two (complement_lt _)]

theorem wordSum_sealedSegment (room : protocol.checksumOffset + 2 ≤ segment.length) :
    wordSum (sealedSegment family header protocol segment)
      = wordSum (Wire.overwrite segment protocol.checksumOffset [0, 0])
        + complement (uncheckedSum family header protocol segment) :=
  wordSum_overwrite_encode segment (checksumOffset_even protocol) room (complement_lt _)

theorem sealedSegment_overwrite {new : Bytes} (same : new.length = 2)
    (room : protocol.checksumOffset + 2 ≤ segment.length) :
    sealedSegment family header protocol (Wire.overwrite segment protocol.checksumOffset new)
      = sealedSegment family header protocol segment := by
  have inside : protocol.checksumOffset + new.length ≤ segment.length := by rwa [same]
  have length := Wire.length_overwrite inside
  have zeros : new.length = [(0 : UInt8), 0].length := same
  have blank := Wire.overwrite_overwrite zeros inside
  unfold sealedSegment uncheckedSum
  rw [length, blank, Wire.overwrite_overwrite (by rw [same, Wire.length_encode]) inside]

-- A field that is right and not zero is what would be filled in.
theorem sealedSegment_of_valid (heads : Heads .v6 header)
    (room : protocol.checksumOffset + 2 ≤ segment.length) (fits : segment.length ≤ maxChunk)
    (valid : transportValid .v6 (header ++ segment) protocol = true)
    (present : Wire.number segment protocol.checksumOffset 2 ≠ 0) :
    sealedSegment .v6 header protocol segment = segment := by
  have right : (transportSum .v6 (header ++ segment) protocol).sum = 0xffff := by
    unfold transportValid omitted at valid
    simpa using valid
  have full : endAround (transportSum .v6 (header ++ segment) protocol).total.toNat = 65535 := by
    rw [← Accumulator.toNat_sum, right]
    rfl
  have small := Wire.number_lt room
  have stands : Wire.overwrite segment protocol.checksumOffset
      (Wire.encode 2 (Wire.number segment protocol.checksumOffset 2)) = segment :=
    Wire.overwrite_field (by rw [Wire.length_encode, Wire.encode_number room])
  have words := wordSum_overwrite_encode segment (checksumOffset_even protocol) room small
  rw [stands] at words
  rw [toNat_transportSum heads fits, words, ← Nat.add_assoc] at full
  unfold sealedSegment
  rw [show complement (uncheckedSum .v6 header protocol segment)
    = Wire.number segment protocol.checksumOffset 2 from
      complement_eq_of_full full (Nat.pos_of_ne_zero present) small, stands]

-- The complement that was stored makes up for all the other words.
theorem transportValid_sealedSegment (heads : Heads family header)
    (room : protocol.checksumOffset + 2 ≤ segment.length) (fits : segment.length ≤ maxChunk) :
    transportValid family (header ++ sealedSegment family header protocol segment) protocol
      = true := by
  have length : (sealedSegment family header protocol segment).length = segment.length :=
    length_sealedSegment room
  have full : endAround (transportSum family
      (header ++ sealedSegment family header protocol segment) protocol).total.toNat = 65535 := by
    rw [toNat_transportSum heads (by rw [length]; exact fits), length,
      wordSum_sealedSegment room, ← Nat.add_assoc]
    exact endAround_add_complement _
  have sum : (transportSum family
      (header ++ sealedSegment family header protocol segment) protocol).sum = 0xffff := by
    apply UInt16.toNat_inj.mp
    rw [Accumulator.toNat_sum, full]
    rfl
  unfold transportValid
  rw [sum]
  simp

end Transport

section Header

variable {header segment : Bytes}

@[simp] theorem length_sealedHeader (long : 12 ≤ header.length) :
    (sealedHeader header).length = header.length :=
  Wire.length_overwrite (by rw [Wire.length_encode]; exact long)

theorem Heads.overwrite {new : Bytes} (heads : Heads .v4 header) (same : new.length = 2) :
    Heads .v4 (Wire.overwrite header 10 new) := by
  obtain ⟨long, stated⟩ := heads
  have inside : 10 + new.length ≤ header.length := by omega
  have length := Wire.length_overwrite inside
  refine ⟨by omega, ?_⟩
  unfold headerLength4 at *
  rw [Wire.byte_overwrite_of_disjoint (.inl (by decide)) inside, length, stated]

theorem Heads.sealedHeader (heads : Heads .v4 header) : Heads .v4 (sealedHeader header) :=
  heads.overwrite (Wire.length_encode ..)

theorem toNat_headerValue (fits : header.length ≤ maxChunk) :
    (headerValue header).toNat = complement (wordSum header) := by
  unfold headerValue
  rw [Accumulator.toNat_value, Accumulator.toNat_add _ fits, complement_endAround_add]
  exact congrArg complement (Nat.zero_add _)

theorem sealedHeader_overwrite {new : Bytes} (same : new.length = 2) (long : 12 ≤ header.length) :
    Checksum.sealedHeader (Wire.overwrite header 10 new) = Checksum.sealedHeader header := by
  have blank : ∀ {later : Bytes}, later.length = 2 →
      Wire.overwrite (Wire.overwrite header 10 new) 10 later = Wire.overwrite header 10 later := by
    intro later width
    exact Wire.overwrite_overwrite (same.trans width.symm) (by omega)
  unfold Checksum.sealedHeader
  rw [blank (Wire.length_encode ..), blank rfl]

theorem headerLength4_le (packet : Bytes) : headerLength4 packet ≤ 60 := by
  unfold headerLength4
  omega

theorem fillHeader_append (heads : Heads .v4 header) :
    fillHeader (header ++ segment) = Checksum.sealedHeader header ++ segment := by
  have bound := headerLength4_le header
  have long := heads.length_ge
  have stated := heads.2
  have room : 10 + [(0 : UInt8), 0].length ≤ header.length := Nat.le_trans (by decide) long
  have blank_length : (Wire.overwrite header 10 [0, 0]).length = header.length :=
    Wire.length_overwrite room
  have same : headerLength4 (header ++ segment) = header.length :=
    heads.headerLength_append
  have front : (Wire.overwrite header 10 [0, 0] ++ segment).take header.length
      = Wire.overwrite header 10 [0, 0] := by
    rw [← blank_length, List.take_left]
  unfold fillHeader
  simp only
  rw [Wire.overwrite_append_left room, same, front, toNat_headerValue (by unfold maxChunk; omega),
    Wire.overwrite_append_left (by rw [Wire.length_encode, blank_length]; omega),
    Wire.overwrite_overwrite (by simp) room]
  rfl

theorem headerValid_sealedHeader (long : 12 ≤ header.length) (fits : header.length ≤ maxChunk) :
    headerValid (Checksum.sealedHeader header) = true := by
  have length := length_sealedHeader long
  have words : wordSum (Checksum.sealedHeader header)
      = wordSum (Wire.overwrite header 10 [0, 0])
        + complement (wordSum (Wire.overwrite header 10 [0, 0])) :=
    wordSum_overwrite_encode header (by decide) long (complement_lt _)
  have full : sum 0 (Checksum.sealedHeader header) = 0xffff := by
    apply UInt16.toNat_inj.mp
    rw [toNat_sum 0 (by rw [length]; exact fits), words]
    exact (congrArg endAround (Nat.zero_add _)).trans (endAround_add_complement _)
  unfold headerValid
  rw [full]
  rfl

end Header
end Nat64Gateway.Checksum
