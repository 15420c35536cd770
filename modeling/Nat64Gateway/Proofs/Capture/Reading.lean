import Nat64Gateway.Capture.File
import Nat64Gateway.Proofs.Wire

namespace Nat64Gateway.Capture

namespace Record

variable {bytes rest : Bytes} {record : Record}

structure Fits (record : Record) : Prop where
  seconds : record.time.seconds < 2 ^ 32
  nanoseconds : record.time.nanoseconds < 2 ^ 32
  captured : record.captured.length < 2 ^ 32
  length : record.length < 2 ^ 32

-- What the fields hold of a record's numbers.
def stored (record : Record) : Record where
  time := ⟨record.time.seconds % 2 ^ 32, record.time.nanoseconds % 2 ^ 32⟩
  length := record.length % 2 ^ 32
  captured := record.captured

def read? (bytes : Bytes) : Option (Record × Bytes) :=
  let size := Wire.number bytes 8 4
  if bytes.length < 16 + size then none
  else
    some ({
      time := ⟨Wire.number bytes 0 4, Wire.number bytes 4 4⟩
      length := Wire.number bytes 12 4
      captured := Wire.field bytes 16 size }, bytes.drop (16 + size))

theorem number_lt_32 {offset : Nat} (inside : offset + 4 ≤ bytes.length) :
    Wire.number bytes offset 4 < 2 ^ 32 := by
  have bound := Wire.decode_lt (Wire.field bytes offset 4)
  rwa [Wire.length_field inside, Wire.capacity_eq] at bound

theorem encode_append (record : Record) (rest : Bytes) : record.encode ++ rest
    = Wire.encode 4 record.time.seconds ++ (Wire.encode 4 record.time.nanoseconds
      ++ (Wire.encode 4 record.captured.length ++ (Wire.encode 4 record.length
        ++ (record.captured ++ rest)))) := by
  simp only [encode, List.append_assoc]

theorem number_seconds (fits : record.Fits) (rest : Bytes) :
    Wire.number (record.encode ++ rest) 0 4 = record.time.seconds := by
  unfold Wire.number
  rw [encode_append, Wire.field_prefix (Wire.length_encode ..)]
  exact Wire.decode_encode_of_lt fits.seconds

theorem number_nanoseconds (fits : record.Fits) (rest : Bytes) :
    Wire.number (record.encode ++ rest) 4 4 = record.time.nanoseconds := by
  unfold Wire.number
  rw [encode_append, Wire.field_between (Wire.length_encode ..) (Wire.length_encode ..)]
  exact Wire.decode_encode_of_lt fits.nanoseconds

theorem number_captured (fits : record.Fits) (rest : Bytes) :
    Wire.number (record.encode ++ rest) 8 4 = record.captured.length := by
  unfold Wire.number
  rw [encode_append, ← List.append_assoc, Wire.field_between (by simp) (Wire.length_encode ..)]
  exact Wire.decode_encode_of_lt fits.captured

theorem number_length (fits : record.Fits) (rest : Bytes) :
    Wire.number (record.encode ++ rest) 12 4 = record.length := by
  unfold Wire.number
  rw [encode_append, ← List.append_assoc, ← List.append_assoc,
    Wire.field_between (by simp) (Wire.length_encode ..)]
  exact Wire.decode_encode_of_lt fits.length

theorem field_captured (record : Record) (rest : Bytes) :
    Wire.field (record.encode ++ rest) 16 record.captured.length = record.captured := by
  rw [encode_append, ← List.append_assoc, ← List.append_assoc, ← List.append_assoc]
  exact Wire.field_between (by simp) rfl

theorem read?_encode (fits : record.Fits) (rest : Bytes) :
    read? (record.encode ++ rest) = some (record, rest) := by
  have whole : ¬(record.encode ++ rest).length < 16 + record.captured.length := by
    rw [List.length_append, length_encode]
    omega
  unfold read?
  simp only [number_captured fits, if_neg whole, number_seconds fits, number_nanoseconds fits,
    number_length fits, field_captured]
  rw [List.drop_left' record.length_encode]

-- What was read is what stands there, and nothing else reads so.
theorem read?_eq_some :
    read? bytes = some (record, rest) ↔ record.Fits ∧ bytes = record.encode ++ rest := by
  constructor
  · intro found
    unfold read? at found
    dsimp only at found
    split at found
    · cases found
    · rename_i enough
      cases found
      have room : 16 + Wire.number bytes 8 4 ≤ bytes.length := Nat.not_lt.mp enough
      have size : (Wire.field bytes 16 (Wire.number bytes 8 4)).length = Wire.number bytes 8 4 :=
        Wire.length_field room
      refine ⟨⟨number_lt_32 (by omega), number_lt_32 (by omega), ?_, number_lt_32 (by omega)⟩, ?_⟩
      · rw [size]
        exact number_lt_32 (by omega)
      · simp only [encode, size]
        rw [Wire.encode_number (by omega), Wire.encode_number (by omega),
          Wire.encode_number (by omega), Wire.encode_number (by omega), ← Wire.field_add,
          ← Wire.field_add, ← Wire.field_add, ← Wire.field_add]
        have cut := Wire.take_field_drop bytes 0 (16 + Wire.number bytes 8 4)
        rw [List.take_zero, List.nil_append, Nat.zero_add] at cut
        exact cut.symm
  · rintro ⟨fits, rfl⟩
    exact read?_encode fits rest

theorem length_rest (found : read? bytes = some (record, rest)) : rest.length < bytes.length := by
  obtain ⟨_, rfl⟩ := read?_eq_some.mp found
  rw [List.length_append, length_encode]
  omega

theorem stored_fits (short : record.captured.length < 2 ^ 32) : record.stored.Fits :=
  ⟨Nat.mod_lt _ (Nat.two_pow_pos 32), Nat.mod_lt _ (Nat.two_pow_pos 32), short,
    Nat.mod_lt _ (Nat.two_pow_pos 32)⟩

theorem encode_stored (record : Record) : record.stored.encode = record.encode := by
  have field : ∀ value, Wire.encode 4 (value % 2 ^ 32) = Wire.encode 4 value :=
    Wire.encode_mod 4
  simp only [encode, stored, field]

end Record

-- All records of some bytes, unless something is left over.
def readRecords? (bytes : Bytes) : Option (List Record) :=
  if bytes = [] then some []
  else
    match _found : Record.read? bytes with
    | none => none
    | some (record, rest) => (readRecords? rest).map (record :: ·)
termination_by bytes.length
decreasing_by exact Record.length_rest _found

def readFile? (bytes : Bytes) : Option (List Record) :=
  if bytes.take 24 = fileHeader then readRecords? (bytes.drop 24) else none

theorem readRecords?_nil : readRecords? [] = some [] := by
  rw [readRecords?, if_pos rfl]

theorem readRecords?_encode {record : Record} (fits : record.Fits) (rest : Bytes) :
    readRecords? (record.encode ++ rest) = (readRecords? rest).map (record :: ·) := by
  have several : record.encode ++ rest ≠ [] := by
    intro empty
    have length := congrArg List.length empty
    rw [List.length_append, record.length_encode, List.length_nil] at length
    omega
  rw [readRecords?, if_neg several]
  split
  · rename_i missed
    rw [Record.read?_encode fits] at missed
    cases missed
  · rename_i found
    rw [Record.read?_encode fits] at found
    cases found
    rfl

theorem readRecords?_eq_some {bytes : Bytes} {records : List Record} :
    readRecords? bytes = some records ↔
      (∀ record ∈ records, record.Fits) ∧ bytes = records.flatMap Record.encode := by
  constructor
  · intro decoded
    induction records generalizing bytes with
    | nil =>
      refine ⟨nofun, ?_⟩
      rw [readRecords?] at decoded
      split at decoded
      · assumption
      · split at decoded
        · cases decoded
        · obtain ⟨_, _, impossible⟩ := Option.map_eq_some_iff.mp decoded
          cases impossible
    | cons record later ih =>
      rw [readRecords?] at decoded
      split at decoded
      · cases decoded
      · split at decoded
        · cases decoded
        · rename_i found
          obtain ⟨_, behind, same⟩ := Option.map_eq_some_iff.mp decoded
          cases same
          obtain ⟨fits, rfl⟩ := Record.read?_eq_some.mp found
          obtain ⟨fit, rfl⟩ := ih behind
          exact ⟨List.forall_mem_cons.mpr ⟨fits, fit⟩, rfl⟩
  · rintro ⟨fit, rfl⟩
    induction records with
    | nil => exact readRecords?_nil
    | cons record later ih =>
      obtain ⟨fits, fit_later⟩ := List.forall_mem_cons.mp fit
      rw [List.flatMap_cons, readRecords?_encode fits, ih fit_later]
      rfl

theorem length_fileHeader : fileHeader.length = 24 := by
  simp [fileHeader]

theorem readFile?_eq_some {bytes : Bytes} {records : List Record} :
    readFile? bytes = some records ↔
      (∀ record ∈ records, record.Fits) ∧ bytes = file records := by
  unfold readFile? file
  constructor
  · intro decoded
    split at decoded
    · rename_i headed
      obtain ⟨fit, behind⟩ := readRecords?_eq_some.mp decoded
      refine ⟨fit, ?_⟩
      rw [← behind, ← headed, List.take_append_drop]
    · cases decoded
  · rintro ⟨fit, rfl⟩
    rw [List.take_left' length_fileHeader, if_pos rfl, List.drop_left' length_fileHeader]
    exact readRecords?_eq_some.mpr ⟨fit, rfl⟩

theorem file_stored (records : List Record) :
    file (records.map Record.stored) = file records := by
  unfold file
  rw [List.flatMap_map]
  simp only [Record.encode_stored]

theorem readFile?_file {records : List Record}
    (short : ∀ record ∈ records, record.captured.length < 2 ^ 32) :
    readFile? (file records) = some (records.map Record.stored) := by
  rw [← file_stored]
  refine readFile?_eq_some.mpr ⟨?_, rfl⟩
  intro record member
  obtain ⟨original, found, rfl⟩ := List.mem_map.mp member
  exact Record.stored_fits (short original found)

end Nat64Gateway.Capture
