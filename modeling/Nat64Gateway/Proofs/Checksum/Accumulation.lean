import Nat64Gateway.Proofs.Guarded.Checksum

namespace Nat64Gateway

namespace Guarded

-- Every addition on the way is checked.
def accumulated (seed : UInt16) (chunks : List Bytes) : Checked Checksum.Accumulator :=
  chunks.foldlM add (.start seed)

end Guarded

namespace Checksum

-- Big-endian words. An odd byte at the end has a zero byte behind it.
def words : Bytes → List UInt16
  | [] => []
  | [high] => [Wire.word [high, 0] 0]
  | high :: low :: rest => Wire.word [high, low] 0 :: words rest

-- A carry out of the upper end is added at the lower end.
def addAround (left right : UInt16) : UInt16 :=
  if left.toNat + right.toNat < 65536 then left + right else left + right + 1

def accumulated (seed : UInt16) (chunks : List Bytes) : Accumulator :=
  chunks.foldl Accumulator.add (.start seed)

def total (seed : UInt16) (chunks : List Bytes) : Nat :=
  seed.toNat + ((chunks.flatMap words).map UInt16.toNat).sum

def Blank (seed : UInt16) (chunks : List Bytes) : Prop :=
  seed = 0 ∧ ∀ chunk ∈ chunks, ∀ byte ∈ chunk, byte = 0

def Aligned (parts : List Bytes) : Prop :=
  ∀ part ∈ parts.dropLast, part.length % 2 = 0

section Words

theorem toNat_word (high low : UInt8) :
    (Wire.word [high, low] 0).toNat = high.toNat * 256 + low.toNat := by
  have small_high : high.toNat < 256 := high.toNat_lt
  have small_low : low.toNat < 256 := low.toNat_lt
  have read : Wire.number [high, low] 0 2 = high.toNat * 256 + low.toNat := by
    simp [Wire.number, Wire.field, Wire.decode]
  unfold Wire.word
  rw [read, UInt16.toNat_ofNat']
  omega

theorem sum_words (bytes : Bytes) : ((words bytes).map UInt16.toNat).sum = wordSum bytes := by
  fun_induction words bytes with
  | case1 => rfl
  | case2 high => simp [wordSum, toNat_word]
  | case3 high low rest ih =>
    rw [List.map_cons, List.sum_cons, toNat_word, ih, wordSum]

theorem length_words (bytes : Bytes) : (words bytes).length = (bytes.length + 1) / 2 := by
  fun_induction words bytes with
  | case1 => simp
  | case2 high => simp
  | case3 high low rest ih =>
    simp only [List.length_cons, ih]
    omega

theorem wordSum_eq_zero_iff (bytes : Bytes) : wordSum bytes = 0 ↔ ∀ byte ∈ bytes, byte = 0 := by
  have blank : ∀ byte : UInt8, byte = 0 ↔ byte.toNat = 0 :=
    fun byte => (UInt8.toNat_inj (b := 0)).symm
  fun_induction wordSum bytes with
  | case1 => simp
  | case2 high => simp [blank]
  | case3 high low rest ih =>
    have zeros : (∀ byte ∈ rest, byte = 0) ↔ wordSum rest = 0 := ih.symm
    rw [List.forall_mem_cons, List.forall_mem_cons, zeros, blank, blank]
    omega

theorem wordSum_flatten {parts : List Bytes} (aligned : Aligned parts) :
    wordSum parts.flatten = (parts.map wordSum).sum := by
  induction parts with
  | nil => rfl
  | cons part rest ih =>
    cases rest with
    | nil => simp
    | cons next later =>
      have even : part.length % 2 = 0 := aligned part (by simp)
      have later_aligned : Aligned (next :: later) := by
        intro other member
        exact aligned other (by rw [List.dropLast_cons_cons]; exact List.mem_cons_of_mem _ member)
      rw [List.flatten_cons, wordSum_append even, ih later_aligned]
      rfl

theorem total_eq (seed : UInt16) (chunks : List Bytes) :
    total seed chunks = seed.toNat + (chunks.map wordSum).sum := by
  unfold total
  congr 1
  induction chunks with
  | nil => rfl
  | cons chunk rest ih =>
    rw [List.flatMap_cons, List.map_append, List.sum_append_nat, sum_words, ih]
    rfl

theorem total_eq_zero_iff (seed : UInt16) (chunks : List Bytes) :
    total seed chunks = 0 ↔ Blank seed chunks := by
  have zero : seed.toNat = 0 ↔ seed = 0 := UInt16.toNat_inj (b := 0)
  have all : (chunks.map wordSum).sum = 0 ↔ ∀ chunk ∈ chunks, ∀ byte ∈ chunk, byte = 0 := by
    induction chunks with
    | nil => simp
    | cons chunk rest ih =>
      rw [List.map_cons, List.sum_cons, Nat.add_eq_zero_iff, ih, wordSum_eq_zero_iff,
        List.forall_mem_cons]
  unfold Blank
  rw [total_eq, Nat.add_eq_zero_iff, zero, all]

end Words

section EndAround

theorem endAround_of_le {sum : Nat} (small : sum ≤ 65535) : endAround sum = sum := by
  unfold endAround
  split <;> omega

-- What is left of a sum that is not zero is the one residue that is not zero either.
theorem endAround_eq_iff {sum value : Nat} (positive : 0 < sum) :
    endAround sum = value ↔ 1 ≤ value ∧ value ≤ 65535 ∧ value % 65535 = sum % 65535 := by
  unfold endAround
  rw [if_neg (Nat.ne_of_gt positive)]
  omega

theorem toNat_addAround (left right : UInt16) :
    (addAround left right).toNat = endAround (left.toNat + right.toNat) := by
  have small_left : left.toNat < 65536 := left.toNat_lt
  have small_right : right.toNat < 65536 := right.toNat_lt
  have one : (1 : UInt16).toNat = 1 := rfl
  unfold addAround endAround
  split
  · rw [UInt16.toNat_add]
    split <;> omega
  · rw [UInt16.toNat_add, UInt16.toNat_add, one]
    split <;> omega

theorem toNat_foldl_addAround (seed : UInt16) (added : List UInt16) :
    (added.foldl addAround seed).toNat = endAround (seed.toNat + (added.map UInt16.toNat).sum) := by
  induction added generalizing seed with
  | nil => exact (endAround_of_le (Nat.le_of_lt_succ seed.toNat_lt)).symm
  | cons word rest ih =>
    rw [List.foldl_cons, ih, toNat_addAround, endAround_endAround_add, List.map_cons,
      List.sum_cons, Nat.add_assoc]

end EndAround

section Accumulated

variable {seed : UInt16} {chunks : List Bytes} {data : Bytes}

theorem toNat_accumulated (fits : ∀ chunk ∈ chunks, chunk.length ≤ maxChunk) :
    (accumulated seed chunks).sum.toNat = endAround (total seed chunks) := by
  have start : (Accumulator.start seed).total.toNat = seed.toNat := UInt16.toNat_toUInt32 seed
  unfold accumulated
  rw [Accumulator.toNat_sum, Accumulator.endAround_foldl_add _ fits, start, total_eq]

theorem sum_eq_foldl_addAround (fits : data.length ≤ maxChunk) :
    sum seed data = (words data).foldl addAround seed := by
  apply UInt16.toNat_inj.mp
  rw [toNat_sum _ fits, toNat_foldl_addAround, sum_words]

theorem sum_eq_of_perm {other : Bytes} (fits : data.length ≤ maxChunk)
    (permuted : (words other).Perm (words data)) : sum seed other = sum seed data := by
  have same := permuted.length_eq
  have sums := (permuted.map UInt16.toNat).sum_nat
  rw [length_words, length_words] at same
  rw [sum_words, sum_words] at sums
  unfold maxChunk at fits
  have other_fits : other.length ≤ maxChunk := by
    unfold maxChunk
    omega
  apply UInt16.toNat_inj.mp
  rw [toNat_sum _ other_fits, toNat_sum _ fits, sums]

theorem length_le_of_mem {parts : List Bytes} {part : Bytes} (whole : parts.flatten = data)
    (member : part ∈ parts) : part.length ≤ data.length := by
  rw [← whole]
  exact (List.sublist_flatten_of_mem member).length_le

theorem accumulated_eq_sum {parts : List Bytes} (fits : data.length ≤ maxChunk)
    (whole : parts.flatten = data) (aligned : Aligned parts) :
    (accumulated seed parts).sum = sum seed data := by
  have short : ∀ part ∈ parts, part.length ≤ maxChunk :=
    fun part member => Nat.le_trans (length_le_of_mem whole member) fits
  apply UInt16.toNat_inj.mp
  rw [toNat_accumulated short, toNat_sum _ fits, total_eq, ← wordSum_flatten aligned, whole]

-- Each piece is summed by itself, with the sum so far as its seed.
theorem toNat_foldl_sum {parts : List Bytes} (fits : ∀ part ∈ parts, part.length ≤ maxChunk) :
    (parts.foldl sum seed).toNat = endAround (seed.toNat + (parts.map wordSum).sum) := by
  induction parts generalizing seed with
  | nil => exact (endAround_of_le (Nat.le_of_lt_succ seed.toNat_lt)).symm
  | cons part rest ih =>
    have first := toNat_sum seed (fits part (List.mem_cons_self ..))
    have rest_fits : ∀ other ∈ rest, other.length ≤ maxChunk :=
      fun other member => fits other (List.mem_cons_of_mem _ member)
    rw [List.foldl_cons, ih rest_fits, first, endAround_endAround_add, List.map_cons, List.sum_cons,
      Nat.add_assoc]

theorem foldl_sum_eq_sum {parts : List Bytes} (fits : data.length ≤ maxChunk)
    (whole : parts.flatten = data) (aligned : Aligned parts) :
    parts.foldl sum seed = sum seed data := by
  have short : ∀ part ∈ parts, part.length ≤ maxChunk :=
    fun part member => Nat.le_trans (length_le_of_mem whole member) fits
  apply UInt16.toNat_inj.mp
  rw [toNat_foldl_sum short, toNat_sum _ fits, ← wordSum_flatten aligned, whole]

end Accumulated
end Checksum

namespace Guarded

open Checksum (maxChunk)

theorem foldlM_add_eq (acc : Checksum.Accumulator) {chunks : List Bytes}
    (fits : ∀ chunk ∈ chunks, chunk.length ≤ maxChunk) :
    chunks.foldlM add acc = .ok (chunks.foldl Checksum.Accumulator.add acc) := by
  induction chunks generalizing acc with
  | nil => rfl
  | cons chunk rest ih =>
    have later := ih (acc.add chunk) fun other member => fits other (List.mem_cons_of_mem _ member)
    rw [List.foldlM_cons, add_eq acc (fits chunk (List.mem_cons_self ..)), ok_bind, later,
      List.foldl_cons]

end Guarded

namespace Checksum

-- What a series of chunks comes to. No addition fails, neither on the way nor when it is read.
structure Accumulates (seed : UInt16) (chunks : List Bytes) : Prop where
  completes : Guarded.accumulated seed chunks = .ok (accumulated seed chunks)
  read : Guarded.sum (accumulated seed chunks) = .ok (accumulated seed chunks).sum
  blank : Blank seed chunks → (accumulated seed chunks).sum = 0
  unique : ¬Blank seed chunks → ∀ value : Nat, (accumulated seed chunks).sum.toNat = value ↔
    1 ≤ value ∧ value ≤ 65535 ∧ value % 65535 = total seed chunks % 65535
  stored : (accumulated seed chunks).value ≠ 0

-- The sum of one run of bytes goes by its words alone.
structure SumsWords (seed : UInt16) (data : Bytes) : Prop where
  around : sum seed data = (words data).foldl addAround seed
  permuted : ∀ other, (words other).Perm (words data) → sum seed other = sum seed data
  pieces : ∀ parts, parts.flatten = data → Aligned parts →
    (accumulated seed parts).sum = sum seed data ∧ parts.foldl sum seed = sum seed data

theorem accumulates {seed : UInt16} {chunks : List Bytes}
    (fits : ∀ chunk ∈ chunks, chunk.length ≤ maxChunk) : Accumulates seed chunks := by
  have reading : (accumulated seed chunks).sum.toNat = endAround (total seed chunks) :=
    toNat_accumulated fits
  refine ⟨Guarded.foldlM_add_eq _ fits, Guarded.sum_eq _, ?_, ?_, Accumulator.value_ne_zero _⟩
  · intro blank
    apply UInt16.toNat_inj.mp
    rw [reading, (total_eq_zero_iff seed chunks).mpr blank]
    rfl
  · intro present value
    have positive := Nat.pos_of_ne_zero (mt (total_eq_zero_iff seed chunks).mp present)
    rw [reading]
    exact endAround_eq_iff positive

theorem sumsWords {seed : UInt16} {data : Bytes} (fits : data.length ≤ maxChunk) :
    SumsWords seed data := by
  refine ⟨sum_eq_foldl_addAround fits, fun _ => sum_eq_of_perm fits, ?_⟩
  intro parts whole aligned
  exact ⟨accumulated_eq_sum fits whole aligned, foldl_sum_eq_sum fits whole aligned⟩

theorem accumulates_words (seed : UInt16) (chunks : List Bytes)
    (fits : ∀ chunk ∈ chunks, chunk.length ≤ maxChunk) :
    Accumulates seed chunks ∧ ∀ chunk ∈ chunks, SumsWords seed chunk :=
  ⟨accumulates fits, fun chunk member => sumsWords (fits chunk member)⟩

-- A whole chunk of ones on top of a folded sum of ones leaves no room in 32 bits.
def fullChunks : List Bytes :=
  [[0xff, 0xff], List.replicate maxChunk 0xff]

theorem accumulates_words_full :
    (∀ chunk ∈ fullChunks, chunk.length ≤ maxChunk) ∧ Accumulates 0xffff fullChunks ∧
      ∀ chunk ∈ fullChunks, SumsWords 0xffff chunk := by
  have fits : ∀ chunk ∈ fullChunks, chunk.length ≤ maxChunk := by
    unfold fullChunks
    rw [List.forall_mem_cons, List.forall_mem_singleton, List.length_replicate]
    exact ⟨by decide, Nat.le_refl _⟩
  exact ⟨fits, accumulates_words 0xffff fullChunks fits⟩

end Checksum
end Nat64Gateway
