import Nat64Gateway.Checksum
import Nat64Gateway.Proofs.Wire

namespace Nat64Gateway.Checksum

def wordSum : Bytes → Nat
  | [] => 0
  | [high] => high.toNat * 256
  | high :: low :: rest => high.toNat * 256 + low.toNat + wordSum rest

-- The one's complement sum stays zero only if nothing was added.
def endAround (sum : Nat) : Nat :=
  if sum = 0 then 0 else (sum - 1) % 65535 + 1

-- What a sum lacks to all ones, with all ones in the place of zero.
def complement (sum : Nat) : Nat :=
  if endAround sum = 65535 then 65535 else 65535 - endAround sum

-- The largest chunk that a folded accumulator has room for.
def maxChunk : Nat := 131072

theorem endAround_le (sum : Nat) : endAround sum ≤ 65535 := by
  unfold endAround
  split <;> omega

theorem endAround_endAround_add (left right : Nat) :
    endAround (endAround left + right) = endAround (left + right) := by
  unfold endAround
  split <;> split <;> split <;> omega

theorem complement_pos (sum : Nat) : 0 < complement sum := by
  have bound := endAround_le sum
  unfold complement
  split <;> omega

theorem endAround_add_complement (sum : Nat) : endAround (sum + complement sum) = 65535 := by
  have folded : endAround sum = if sum = 0 then 0 else (sum - 1) % 65535 + 1 := rfl
  have bound := endAround_le sum
  have positive := complement_pos sum
  have whole : endAround (sum + complement sum) = (sum + complement sum - 1) % 65535 + 1 :=
    if_neg (by omega)
  rw [whole]
  unfold complement
  split at folded <;> split <;> omega

theorem complement_lt (sum : Nat) : complement sum < 65536 := by
  unfold complement
  split <;> omega

-- Nothing else but the complement fills the sum up, zero apart.
theorem complement_eq_of_full {sum value : Nat} (full : endAround (sum + value) = 65535)
    (positive : 0 < value) (small : value < 65536) : complement sum = value := by
  have whole : endAround (sum + value) = (sum + value - 1) % 65535 + 1 := if_neg (by omega)
  have folded : endAround sum = if sum = 0 then 0 else (sum - 1) % 65535 + 1 := rfl
  rw [whole] at full
  unfold complement
  split at folded <;> split <;> omega

theorem complement_endAround_add (left right : Nat) :
    complement (endAround left + right) = complement (left + right) := by
  unfold complement
  rw [endAround_endAround_add]

theorem wordSum_append {front back : Bytes} (even : front.length % 2 = 0) :
    wordSum (front ++ back) = wordSum front + wordSum back := by
  fun_induction wordSum front with
  | case1 => simp
  | case2 high => simp at even
  | case3 high low rest ih =>
    have rest_even : rest.length % 2 = 0 := by
      simp only [List.length_cons] at even
      omega
    rw [List.cons_append, List.cons_append, wordSum, ih rest_even]
    omega

theorem wordSum_le (bytes : Bytes) : wordSum bytes ≤ 65535 * ((bytes.length + 1) / 2) := by
  fun_induction wordSum bytes with
  | case1 => simp
  | case2 high =>
    have small : high.toNat < 256 := high.toNat_lt
    simp only [List.length_cons, List.length_nil]
    omega
  | case3 high low rest ih =>
    have small_high : high.toNat < 256 := high.toNat_lt
    have small_low : low.toNat < 256 := low.toNat_lt
    simp only [List.length_cons]
    omega

theorem wordSum_encode_two {value : Nat} (fits : value < 65536) :
    wordSum (Wire.encode 2 value) = value := by
  simp [Wire.encode, wordSum]
  omega

-- A field at an even place counts as its own words, wherever it stands.
theorem wordSum_overwrite (bytes new : Bytes) {offset : Nat} (even : offset % 2 = 0)
    (even_new : new.length % 2 = 0) (inside : offset + new.length ≤ bytes.length) :
    wordSum (Wire.overwrite bytes offset new) + wordSum (Wire.field bytes offset new.length)
      = wordSum bytes + wordSum new := by
  have even_front : (bytes.take offset).length % 2 = 0 := by
    rwa [List.length_take_of_le (Nat.le_of_add_right_le inside)]
  have even_field : (Wire.field bytes offset new.length).length % 2 = 0 := by
    rwa [Wire.length_field inside]
  have whole := congrArg wordSum (Wire.take_field_drop bytes offset new.length)
  rw [List.append_assoc, wordSum_append even_front, wordSum_append even_field] at whole
  unfold Wire.overwrite
  rw [List.append_assoc, wordSum_append even_front, wordSum_append even_new]
  omega

-- A number is worth what the field lacks while it is blank.
theorem wordSum_overwrite_encode (bytes : Bytes) {offset value : Nat} (even : offset % 2 = 0)
    (inside : offset + 2 ≤ bytes.length) (fits : value < 65536) :
    wordSum (Wire.overwrite bytes offset (Wire.encode 2 value))
      = wordSum (Wire.overwrite bytes offset [0, 0]) + value := by
  have blanked := wordSum_overwrite bytes [0, 0] even rfl inside
  have written := wordSum_overwrite bytes (Wire.encode 2 value) even
    (by rw [Wire.length_encode]) (by rwa [Wire.length_encode])
  have zero : wordSum [0, 0] = 0 := rfl
  have same : [(0 : UInt8), 0].length = 2 := rfl
  rw [zero, same] at blanked
  rw [Wire.length_encode, wordSum_encode_two fits] at written
  omega

namespace Accumulator

theorem toNat_foldOnce (total : UInt32) :
    (foldOnce total).toNat = total.toNat / 65536 + total.toNat % 65536 := by
  have bound : total.toNat < 4294967296 := total.toNat_lt
  have low : total.toNat &&& 65535 = total.toNat % 65536 := Nat.and_two_pow_sub_one_eq_mod _ 16
  have high : total.toNat >>> 16 = total.toNat / 65536 := Nat.shiftRight_eq_div_pow _ 16
  have parts : (foldOnce total).toNat
      = ((total.toNat >>> 16) + (total.toNat &&& 65535)) % 4294967296 := by
    simp [foldOnce, UInt32.toNat_add]
  rw [parts, low, high, Nat.mod_eq_of_lt (by omega)]

theorem toNat_fold (acc : Accumulator) : acc.fold.total.toNat = endAround acc.total.toNat := by
  have bound : acc.total.toNat < 4294967296 := acc.total.toNat_lt
  unfold fold endAround
  rw [toNat_foldOnce, toNat_foldOnce]
  split <;> omega

theorem toNat_word (high low : UInt8) :
    (high.toUInt32 <<< 8 ||| low.toUInt32).toNat = high.toNat * 256 + low.toNat := by
  have small_high : high.toNat < 256 := high.toNat_lt
  have small_low : low.toNat < 2 ^ 8 := low.toNat_lt
  have shifted : high.toNat <<< 8 % 4294967296 = 2 ^ 8 * high.toNat := by
    rw [Nat.shiftLeft_eq]
    omega
  have parts : (high.toUInt32 <<< 8 ||| low.toUInt32).toNat
      = (high.toNat <<< 8 % 4294967296) ||| low.toNat := by
    simp [UInt32.toNat_or, UInt32.toNat_shiftLeft]
  rw [parts, shifted, ← Nat.two_pow_add_eq_or_of_lt small_low]
  omega

theorem toNat_high (high : UInt8) : (high.toUInt32 <<< 8).toNat = high.toNat * 256 := by
  have whole := toNat_word high 0
  simpa using whole

theorem addWords_toNat {total : UInt32} {chunk : Bytes}
    (room : total.toNat + wordSum chunk < 4294967296) :
    (addWords total chunk).toNat = total.toNat + wordSum chunk := by
  fun_induction wordSum chunk generalizing total with
  | case1 => rfl
  | case2 high =>
    rw [addWords, UInt32.toNat_add, toNat_high]
    omega
  | case3 high low rest ih =>
    have sum : (total + (high.toUInt32 <<< 8 ||| low.toUInt32)).toNat
        = total.toNat + (high.toNat * 256 + low.toNat) := by
      rw [UInt32.toNat_add, toNat_word]
      omega
    rw [addWords, ih (by rw [sum]; omega), sum]
    omega

-- After a fold no chunk of the permitted length reaches the 32nd bit.
theorem wordSum_lt {chunk : Bytes} (fits : chunk.length ≤ maxChunk) :
    65535 + wordSum chunk < 4294967296 := by
  have bound := wordSum_le chunk
  unfold maxChunk at fits
  omega

theorem toNat_add (acc : Accumulator) {chunk : Bytes} (fits : chunk.length ≤ maxChunk) :
    (acc.add chunk).total.toNat = endAround acc.total.toNat + wordSum chunk := by
  have room := wordSum_lt fits
  have folded := endAround_le acc.total.toNat
  unfold add
  rw [addWords_toNat (by rw [toNat_fold]; omega), toNat_fold]

theorem toNat_sum (acc : Accumulator) : acc.sum.toNat = endAround acc.total.toNat := by
  have small := endAround_le acc.total.toNat
  unfold sum
  rw [UInt32.toNat_toUInt16, toNat_fold]
  omega

theorem toNat_value (acc : Accumulator) : acc.value.toNat = complement acc.total.toNat := by
  have sum := toNat_sum acc
  unfold value complement
  by_cases full : acc.sum = 0xffff
  · have ones : endAround acc.total.toNat = 65535 := by
      rw [← sum, full]
      rfl
    rw [if_pos full, if_pos ones]
    rfl
  · have not_ones : endAround acc.total.toNat ≠ 65535 := by
      intro ones
      apply full
      apply UInt16.toNat_inj.mp
      rw [sum, ones]
      rfl
    rw [if_neg full, if_neg not_ones, UInt16.toNat_not, sum]
    rfl

theorem value_ne_zero (acc : Accumulator) : acc.value ≠ 0 := by
  intro zero
  have positive := complement_pos acc.total.toNat
  rw [← toNat_value, zero] at positive
  exact Nat.lt_irrefl 0 positive

theorem endAround_foldl_add (acc : Accumulator) {chunks : List Bytes}
    (fits : ∀ chunk ∈ chunks, chunk.length ≤ maxChunk) :
    endAround (chunks.foldl add acc).total.toNat
      = endAround (acc.total.toNat + (chunks.map wordSum).sum) := by
  induction chunks generalizing acc with
  | nil => simp
  | cons chunk rest ih =>
    have first := toNat_add acc (fits chunk (List.mem_cons_self ..))
    have later := ih (acc.add chunk) fun other member =>
      fits other (List.mem_cons_of_mem _ member)
    rw [List.foldl_cons, later, first, List.map_cons, List.sum_cons, Nat.add_assoc,
      endAround_endAround_add]

end Accumulator

theorem toNat_sum (seed : UInt16) {bytes : Bytes} (fits : bytes.length ≤ maxChunk) :
    (sum seed bytes).toNat = endAround (seed.toNat + wordSum bytes) := by
  have start : (Accumulator.start seed).total.toNat = seed.toNat := UInt16.toNat_toUInt32 seed
  unfold sum
  rw [Accumulator.toNat_sum, Accumulator.toNat_add _ fits, endAround_endAround_add, start]

end Nat64Gateway.Checksum
