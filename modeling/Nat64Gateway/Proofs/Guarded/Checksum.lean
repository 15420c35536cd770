import Nat64Gateway.Proofs.Checksum.Filled
import Nat64Gateway.Proofs.Guarded.Access

namespace Nat64Gateway.Guarded

open Checksum (Accumulator maxChunk wordSum)

def foldOnce (total : UInt32) : Checked UInt32 :=
  plus (total >>> 16) (total &&& 0xffff)

def fold (acc : Accumulator) : Checked Accumulator := do
  let once ← foldOnce acc.total
  let twice ← foldOnce once
  .ok ⟨twice⟩

def sumWords (total : UInt32) : Bytes → Checked UInt32
  | high :: low :: rest => do
    let next ← plus total (high.toUInt32 <<< 8 ||| low.toUInt32)
    sumWords next rest
  | _ => .ok total

def remainder : Bytes → UInt32
  | [] => 0
  | [high] => high.toUInt32 <<< 8
  | _ :: _ :: rest => remainder rest

def add (acc : Accumulator) (chunk : Bytes) : Checked Accumulator := do
  let folded ← fold acc
  let full ← sumWords 0 chunk
  let whole ← plus full (remainder chunk)
  let total ← plus folded.total whole
  .ok ⟨total⟩

def sum (acc : Accumulator) : Checked UInt16 := do
  let folded ← fold acc
  .ok folded.total.toUInt16

def value (acc : Accumulator) : Checked UInt16 := do
  let stored ← sum acc
  .ok (if stored = 0xffff then 0xffff else ~~~stored)

section Accumulator

theorem foldOnce_eq (total : UInt32) : foldOnce total = .ok (Accumulator.foldOnce total) := by
  have bound : total.toNat < 4294967296 := total.toNat_lt
  have high : (total >>> 16).toNat = total.toNat / 65536 := by
    have shifted : (total >>> 16).toNat = total.toNat >>> 16 := by simp
    rw [shifted, Nat.shiftRight_eq_div_pow]
  have low : (total &&& 0xffff).toNat = total.toNat % 65536 := by
    have masked : (total &&& 0xffff).toNat = total.toNat &&& 65535 := by simp
    rw [masked]
    exact Nat.and_two_pow_sub_one_eq_mod _ 16
  exact plus_eq (by omega)

theorem fold_eq (acc : Accumulator) : fold acc = .ok acc.fold := by
  unfold fold
  rw [foldOnce_eq, ok_bind, foldOnce_eq, ok_bind]
  rfl

theorem sum_eq (acc : Accumulator) : sum acc = .ok acc.sum := by
  unfold sum
  rw [fold_eq, ok_bind]
  rfl

theorem value_eq (acc : Accumulator) : value acc = .ok acc.value := by
  unfold value
  rw [sum_eq, ok_bind]
  rfl

-- Words and remainder, added up apart, are the words of the chunk.
theorem sumWords_eq {total : UInt32} {chunk : Bytes}
    (room : total.toNat + wordSum chunk < 4294967296) :
    ∃ full, sumWords total chunk = .ok full ∧
      full.toNat + (remainder chunk).toNat = total.toNat + wordSum chunk := by
  fun_induction wordSum chunk generalizing total with
  | case1 => exact ⟨total, rfl, rfl⟩
  | case2 high =>
    refine ⟨total, rfl, ?_⟩
    rw [remainder, Accumulator.toNat_high]
  | case3 high low rest ih =>
    have word := Accumulator.toNat_word high low
    have next : (total + (high.toUInt32 <<< 8 ||| low.toUInt32)).toNat
        = total.toNat + (high.toNat * 256 + low.toNat) := by
      rw [UInt32.toNat_add, word]
      omega
    have step : plus total (high.toUInt32 <<< 8 ||| low.toUInt32)
        = .ok (total + (high.toUInt32 <<< 8 ||| low.toUInt32)) := plus_eq (by omega)
    obtain ⟨full, summed, total_eq⟩ := ih (by rw [next]; omega)
    refine ⟨full, ?_, by rw [remainder]; omega⟩
    rw [sumWords, step, ok_bind, summed]

theorem add_eq (acc : Accumulator) {chunk : Bytes} (fits : chunk.length ≤ maxChunk) :
    add acc chunk = .ok (acc.add chunk) := by
  have room := Accumulator.wordSum_lt fits
  have folded : acc.fold.total.toNat ≤ 65535 := by
    rw [Accumulator.toNat_fold]
    exact Checksum.endAround_le _
  have zero : (0 : UInt32).toNat = 0 := rfl
  obtain ⟨full, summed, whole⟩ := sumWords_eq (by omega : (0 : UInt32).toNat + wordSum chunk < _)
  have inner : (full + remainder chunk).toNat = wordSum chunk := by
    rw [UInt32.toNat_add]
    omega
  have result : acc.fold.total + (full + remainder chunk) = (acc.add chunk).total := by
    apply UInt32.toNat_inj.mp
    rw [UInt32.toNat_add, inner, Accumulator.toNat_add acc fits, ← Accumulator.toNat_fold]
    omega
  have first : plus full (remainder chunk) = .ok (full + remainder chunk) := plus_eq (by omega)
  have second : plus acc.fold.total (full + remainder chunk)
      = .ok (acc.fold.total + (full + remainder chunk)) := plus_eq (by omega)
  unfold add
  rw [fold_eq, ok_bind, summed, ok_bind, first, ok_bind, second, ok_bind, result]

end Accumulator

def headerLength4 (packet : Bytes) : Checked Nat := do
  let first ← byteAt packet 0
  .ok (first.toNat % 16 * 4)

def headerLength : Family → Bytes → Checked Nat
  | .v4, packet => headerLength4 packet
  | .v6, _ => .ok 40

-- IPv4 puts the length into sixteen bits, IPv6 into thirty-two.
def pseudoHeader (family : Family) (packet : Bytes) (protocol : Protocol) (length : Nat) :
    Checked Accumulator :=
  match family with
  | .v4 =>
    if protocol = .icmp4 then .ok (.start 0)
    else do
      let addresses ← slice packet 12 20
      let first ← add (.start 0) addresses
      let second ← add first [0, protocol.number]
      let size ← narrow length
      add second (Wire.encodeWord size)
  | .v6 => do
    let addresses ← slice packet 8 40
    let first ← add (.start 0) addresses
    let second ← add first (Wire.encode 4 length)
    add second [0, 0, 0, protocol.number]

def segmentOf (family : Family) (packet : Bytes) : Checked Bytes := do
  let length ← headerLength family packet
  sliceFrom packet length

def transportSum (family : Family) (packet : Bytes) (protocol : Protocol) :
    Checked Accumulator := do
  let segment ← segmentOf family packet
  let ahead ← pseudoHeader family packet protocol segment.length
  add ahead segment

def headerValid (header : Bytes) : Checked Bool := do
  let added ← add (.start 0) header
  let stored ← sum added
  .ok (stored = 0xffff)

def omitted (family : Family) (packet : Bytes) (protocol : Protocol) : Checked Bool :=
  if family = .v4 ∧ protocol = .udp then do
    let segment ← segmentOf family packet
    let stored ← slice segment protocol.checksumOffset (protocol.checksumOffset + 2)
    .ok (stored = [0, 0])
  else .ok false

def transportValid (family : Family) (packet : Bytes) (protocol : Protocol) : Checked Bool := do
  let absent ← omitted family packet protocol
  if absent then .ok true
  else do
    let added ← transportSum family packet protocol
    let stored ← sum added
    .ok (stored = 0xffff)

def fillHeader (packet : Bytes) : Checked Bytes := do
  let length ← headerLength4 packet
  let blank ← fill packet 10 12 0
  let header ← sliceTo blank length
  let added ← add (.start 0) header
  let stored ← value added
  copy blank 10 12 (Wire.encodeWord stored)

def fillTransport (family : Family) (packet : Bytes) (protocol : Protocol) : Checked Bytes := do
  let length ← headerLength family packet
  let offset := length + protocol.checksumOffset
  let blank ← fill packet offset (offset + 2) 0
  let added ← transportSum family blank protocol
  let stored ← value added
  copy blank offset (offset + 2) (Wire.encodeWord stored)

-- A whole header, a segment that has its checksum field, and no more bytes than a length can say.
structure Fits (family : Family) (packet : Bytes) (protocol : Protocol) : Prop where
  header : 20 ≤ Checksum.headerLength family packet
  field : Checksum.transportField family packet protocol + 2 ≤ packet.length
  size : packet.length ≤ Checksum.headerLength family packet + 65535

section Packet

variable {family : Family} {packet : Bytes} {protocol : Protocol}

theorem headerLength4_eq (present : 0 < packet.length) :
    headerLength4 packet = .ok (Checksum.headerLength4 packet) := by
  unfold headerLength4
  rw [byteAt_eq present, ok_bind]
  rfl

theorem headerLength_eq (present : 0 < packet.length) :
    headerLength family packet = .ok (Checksum.headerLength family packet) := by
  cases family with
  | v4 => exact headerLength4_eq present
  | v6 => rfl

-- All that is read ahead of the segment are addresses, which every header has.
theorem pseudoHeader_eq {length : Nat} (room : 20 ≤ packet.length)
    (inside : Checksum.headerLength family packet ≤ packet.length) (small : length < 65536) :
    pseudoHeader family packet protocol length
      = .ok ((Checksum.pseudoHeader family packet protocol length).foldl Accumulator.add
          (.start 0)) := by
  have short : ∀ {chunk : Bytes}, chunk.length ≤ 32 → chunk.length ≤ maxChunk := by
    intro chunk few
    exact Nat.le_trans few (by decide)
  cases family with
  | v4 =>
    unfold pseudoHeader Checksum.pseudoHeader
    dsimp only
    split
    · rfl
    · have width : (Wire.field packet 12 (20 - 12)).length = 8 := Wire.length_field room
      rw [slice_eq (by decide) room, ok_bind, add_eq _ (short (by omega)), ok_bind,
        add_eq _ (short (by simp)), ok_bind, narrow_eq small, ok_bind,
        encodeWord_narrowed small, add_eq _ (short (by simp))]
      rfl
  | v6 =>
    have whole : 40 ≤ packet.length := inside
    have width : (Wire.field packet 8 (40 - 8)).length = 32 := Wire.length_field whole
    unfold pseudoHeader Checksum.pseudoHeader
    dsimp only
    rw [slice_eq (by decide) whole, ok_bind, add_eq _ (short (by omega)), ok_bind,
      add_eq _ (short (by simp)), ok_bind, add_eq _ (short (by simp))]
    rfl

theorem segmentOf_eq (present : 0 < packet.length)
    (inside : Checksum.headerLength family packet ≤ packet.length) :
    segmentOf family packet = .ok (packet.drop (Checksum.headerLength family packet)) := by
  unfold segmentOf
  rw [headerLength_eq present, ok_bind, sliceFrom_eq inside]

theorem transportSum_eq (room : 20 ≤ packet.length)
    (inside : Checksum.headerLength family packet ≤ packet.length)
    (size : packet.length ≤ Checksum.headerLength family packet + 65535) :
    transportSum family packet protocol = .ok (Checksum.transportSum family packet protocol) := by
  have length := packet.length_drop (i := Checksum.headerLength family packet)
  have chunk : (packet.drop (Checksum.headerLength family packet)).length ≤ maxChunk :=
    Nat.le_trans (by omega : _ ≤ 65535) (by decide)
  unfold transportSum
  rw [segmentOf_eq (by omega) inside, ok_bind, pseudoHeader_eq room inside (by omega), ok_bind,
    add_eq _ chunk]
  rfl

theorem headerValid_eq (short : packet.length ≤ 60) :
    headerValid packet = .ok (Checksum.headerValid packet) := by
  unfold headerValid
  rw [add_eq _ (Nat.le_trans short (by decide)), ok_bind, sum_eq, ok_bind]
  rfl

theorem fillHeader_eq (field : 12 ≤ packet.length)
    (inside : Checksum.headerLength4 packet ≤ packet.length) :
    fillHeader packet = .ok (Checksum.fillHeader packet) := by
  have short := Checksum.headerLength4_le packet
  have length : (Wire.overwrite packet 10 [0, 0]).length = packet.length :=
    Wire.length_overwrite field
  have header : ((Wire.overwrite packet 10 [0, 0]).take
      (Checksum.headerLength4 packet)).length ≤ maxChunk := by
    rw [List.length_take]
    exact Nat.le_trans (by omega : _ ≤ 60) (by decide)
  have blanked : fill packet 10 12 0 = .ok (Wire.overwrite packet 10 [0, 0]) := fill_two field
  unfold fillHeader
  rw [headerLength4_eq (by omega), ok_bind, blanked, ok_bind, sliceTo_eq (by omega), ok_bind,
    add_eq _ header, ok_bind, value_eq, ok_bind, copy_eq (by simp) (by omega)]
  rfl

namespace Fits

theorem inside (fits : Fits family packet protocol) :
    Checksum.headerLength family packet + protocol.checksumOffset + 2 ≤ packet.length :=
  fits.field

theorem omitted_eq (fits : Fits family packet protocol) :
    omitted family packet protocol = .ok (Checksum.omitted family packet protocol) := by
  have inside := fits.inside
  have header := fits.header
  unfold omitted Checksum.omitted
  split
  · rename_i carrier
    rw [segmentOf_eq (by omega) (by omega), ok_bind,
      slice_eq (by omega) (by rw [List.length_drop]; omega), ok_bind, Nat.add_sub_cancel_left,
      Wire.field_drop]
    simp only [carrier, Checksum.transportField, true_and]
  · rename_i other
    have refused : ¬(family = .v4 ∧ protocol = .udp ∧
        Wire.field packet (Checksum.transportField family packet protocol) 2 = [0, 0]) :=
      fun both => other ⟨both.1, both.2.1⟩
    rw [decide_eq_false refused]

theorem transportValid_eq (fits : Fits family packet protocol) :
    transportValid family packet protocol
      = .ok (Checksum.transportValid family packet protocol) := by
  have inside := fits.inside
  have header := fits.header
  unfold transportValid Checksum.transportValid
  rw [omitted_eq fits, ok_bind]
  cases Checksum.omitted family packet protocol with
  | true => rfl
  | false =>
    rw [if_neg Bool.false_ne_true, transportSum_eq (by omega) (by omega) fits.size, ok_bind, sum_eq,
      ok_bind]
    rfl

-- The field is behind the header, so that blanking it leaves the header's own length alone.
theorem headerLength_blank (fits : Fits family packet protocol) :
    Checksum.headerLength family
        (Wire.overwrite packet (Checksum.transportField family packet protocol) [0, 0])
      = Checksum.headerLength family packet := by
  cases family with
  | v6 => rfl
  | v4 =>
    have header := fits.header
    have apart : 0 < Checksum.transportField .v4 packet protocol :=
      Nat.lt_of_lt_of_le (by omega) (Nat.le_add_right _ _)
    have same : Wire.byte (Wire.overwrite packet (Checksum.transportField .v4 packet protocol)
        [0, 0]) 0 = Wire.byte packet 0 := Wire.byte_overwrite_of_disjoint (.inl apart) fits.field
    exact congrArg (fun first : UInt8 => first.toNat % 16 * 4) same

theorem fillTransport_eq (fits : Fits family packet protocol) :
    fillTransport family packet protocol
      = .ok (Checksum.fillTransport family packet protocol) := by
  have inside := fits.inside
  have header := fits.header
  have length : (Wire.overwrite packet (Checksum.transportField family packet protocol)
      [0, 0]).length = packet.length := Wire.length_overwrite fits.field
  have kept := fits.headerLength_blank
  have size := fits.size
  unfold Checksum.transportField at length kept
  unfold fillTransport
  rw [headerLength_eq (by omega), ok_bind]
  dsimp only
  rw [fill_two inside, ok_bind, transportSum_eq (by omega) (by omega) (by omega), ok_bind, value_eq,
    ok_bind, copy_eq (by simp) (by rw [length]; exact inside)]
  rfl

end Fits
end Packet
end Nat64Gateway.Guarded
