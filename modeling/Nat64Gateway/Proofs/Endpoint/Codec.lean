import Nat64Gateway.Proofs.Guarded.Framing
import Nat64Gateway.Proofs.Guarded.Unframing

namespace Nat64Gateway

namespace Wire

def swapped (word : UInt16) : UInt16 :=
  UInt16.ofNat (word.toNat % 256 * 256 + word.toNat / 256)

theorem toNat_swapped (word : UInt16) :
    (swapped word).toNat = word.toNat % 256 * 256 + word.toNat / 256 := by
  have small := word.toNat_lt
  unfold swapped
  rw [UInt16.toNat_ofNat']
  exact Nat.mod_eq_of_lt (by omega)

theorem encodeWord_swapped (word : UInt16) :
    encodeWord (swapped word) = (encodeWord word).reverse := by
  have small := word.toNat_lt
  have front : (swapped word).toNat / 256 = word.toNat % 256 := by
    rw [toNat_swapped, Nat.add_comm, Nat.add_mul_div_right _ _ (by decide),
      Nat.div_eq_of_lt (by omega), Nat.zero_add]
  have high : UInt8.ofNat ((swapped word).toNat / 256) = UInt8.ofNat word.toNat := by
    apply UInt8.toNat_inj.mp
    rw [front, UInt8.toNat_ofNat', UInt8.toNat_ofNat']
    omega
  have low : UInt8.ofNat (swapped word).toNat = UInt8.ofNat (word.toNat / 256) := by
    apply UInt8.toNat_inj.mp
    rw [toNat_swapped, UInt8.toNat_ofNat', UInt8.toNat_ofNat']
    omega
  unfold encodeWord
  rw [encode_two, encode_two, high, low]
  rfl

theorem word_reverse {bytes : Bytes} (two : bytes.length = 2) :
    word bytes.reverse 0 = swapped (word bytes 0) := by
  have turned := encodeWord_swapped (word bytes 0)
  rw [encodeWord_of_two two] at turned
  rw [← turned, word_encodeWord]

end Wire

namespace Guarded

-- An edit of a lent buffer. If it is given up, the buffer stays as it is by then.
abbrev Edit (α : Type) := ExceptT Fault (StateT Bytes Checked) α

namespace Edit

def on {α : Type} (edit : Edit α) (buffer : Bytes) : Checked (Except Fault α × Bytes) :=
  edit.run.run buffer

def demand (room : Nat) (fault : Fault) : Edit Unit := do
  let buffer ← get
  if buffer.length < room then throw fault

def place (start stop : Nat) (part : Bytes) : Edit Unit := do
  let buffer ← get
  let written ← (copy buffer start stop part : Checked Bytes)
  set written

theorem on_bind {α β : Type} (first : Edit α) (next : α → Edit β) (buffer : Bytes) :
    on (first >>= next) buffer = first.on buffer >>= fun (answer, after) =>
      match answer with
      | .ok value => (next value).on after
      | .error fault => .ok (.error fault, after) := by
  unfold on
  rw [ExceptT.run_bind, StateT.run_bind]
  refine congrArg _ (funext fun (answer, after) => ?_)
  cases answer <;> rfl

theorem on_demand (room : Nat) (fault : Fault) (buffer : Bytes) : (demand room fault).on buffer
    = if buffer.length < room then .ok (.error fault, buffer) else .ok (.ok (), buffer) := by
  have lent : (demand room fault).on buffer
      = (if buffer.length < room then throw fault else pure () : Edit Unit).on buffer := rfl
  rw [lent]
  split <;> rfl

theorem on_place (start stop : Nat) (part buffer : Bytes) : (place start stop part).on buffer
    = copy buffer start stop part >>= fun written => .ok (.ok (), written) := by
  have lent : on (get : Edit Bytes) buffer = .ok (.ok buffer, buffer) := rfl
  have copied : on (copy buffer start stop part : Checked Bytes) buffer
      = copy buffer start stop part >>= fun written => .ok (.ok written, buffer) := by
    cases copy buffer start stop part <;> rfl
  have stored : ∀ written : Bytes, on (set written : Edit PUnit) buffer = .ok (.ok (), written) :=
    fun _ => rfl
  unfold place
  simp only [on_bind, lent, copied, stored, bind_assoc, ok_bind]

end Edit

end Guarded

namespace Endpoint

theorem PortOrder.arrange_of_ne {order other : PortOrder} (apart : other ≠ order) (bytes : Bytes) :
    other.arrange bytes = (order.arrange bytes).reverse := by
  cases order with
  | reversed =>
    cases other with
    | reversed => exact absurd rfl apart
    | network => exact bytes.reverse_reverse.symm
  | network =>
    cases other with
    | reversed => rfl
    | network => exact absurd rfl apart

namespace Block

open Guarded (Edit)

def writing (order : PortOrder) (block : Block) : Edit Unit := do
  Edit.demand length .endpointSpaceShort
  Edit.place 0 16 block.source.octets
  Edit.place 16 18 (order.arrange (Wire.encodeWord block.sourcePort))
  Edit.place 18 34 block.destination.octets
  Edit.place 34 36 (Wire.encodeWord block.destinationPort)

structure Coded (order : PortOrder) : Prop where
  written : ∀ block buffer, length ≤ buffer.length → ∃ after,
    write order block buffer = .ok after ∧ (writing order block).on buffer = .ok (.ok (), after)
    ∧ after.length = buffer.length ∧ after.drop length = buffer.drop length
    ∧ read order after = .ok block
  rewritten : ∀ bytes, length ≤ bytes.length → ∃ block, read order bytes = .ok block
    ∧ ∀ buffer, length ≤ buffer.length →
      write order block buffer = .ok (bytes.take length ++ buffer.drop length)
  spaceShort : ∀ block buffer, buffer.length < length →
    write order block buffer = .error .endpointSpaceShort
    ∧ (writing order block).on buffer = .ok (.error .endpointSpaceShort, buffer)
  dataShort : ∀ bytes, bytes.length < length → read order bytes = .error .endpointDataShort
  turned : ∀ other ≠ order, ∀ bytes block, read order bytes = .ok block →
    read other bytes = .ok { block with sourcePort := Wire.swapped block.sourcePort }
  guarded : ∀ bytes, Guarded.readBlock order bytes = .ok (read order bytes)

section Writing

variable (order : PortOrder) (block : Block) (buffer : Bytes)

theorem on_writing : (writing order block).on buffer
    = Guarded.writeBlock order block buffer >>= fun written? =>
      match written? with
      | .ok after => .ok (.ok (), after)
      | .error fault => .ok (.error fault, buffer) := by
  unfold writing Guarded.writeBlock
  rw [Edit.on_bind, Edit.on_demand]
  by_cases short : buffer.length < length
  · simp only [if_pos short, Guarded.ok_bind]
  · simp only [if_neg short, Guarded.ok_bind, Edit.on_bind, Edit.on_place, bind_assoc]

theorem writing_eq : (writing order block).on buffer
    = match write order block buffer with
      | .ok after => .ok (.ok (), after)
      | .error fault => .ok (.error fault, buffer) := by
  rw [on_writing, Guarded.writeBlock_eq, Guarded.ok_bind]

theorem overwrite_encode : Wire.overwrite buffer 0 (block.encode order)
    = block.encode order ++ buffer.drop length := by
  unfold Wire.overwrite
  rw [List.take_zero, List.nil_append, length_encode, Nat.zero_add]

end Writing

section Reading

variable {order : PortOrder} {block : Block} {bytes : Bytes}

theorem read_refused (short : bytes.length < length) :
    read order bytes = .error .endpointDataShort :=
  if_pos short

theorem fields_eq_take (bytes : Bytes) :
    Wire.field bytes 0 16 ++ Wire.field bytes 16 2 ++ Wire.field bytes 18 16
      ++ Wire.field bytes 34 2 = bytes.take length := by
  rw [← Wire.field_add, ← Wire.field_add, ← Wire.field_add]
  rfl

theorem encode_of_read (accepted : read order bytes = .ok block) :
    block.encode order = bytes.take length := by
  obtain ⟨source, sourcePort, destination, destinationPort⟩ := fields_of_read accepted
  unfold encode
  rw [source, sourcePort, destination, destinationPort, PortOrder.arrange_arrange, fields_eq_take]

theorem read_other {other : PortOrder} (apart : other ≠ order)
    (accepted : read order bytes = .ok block) :
    read other bytes = .ok { block with sourcePort := Wire.swapped block.sourcePort } := by
  have room := read_eq_ok accepted
  rw [read_of_room order room] at accepted
  cases accepted
  rw [read_of_room other room, PortOrder.arrange_of_ne apart,
    Wire.word_reverse (length_port order room)]

end Reading

theorem coded (order : PortOrder) : Coded order where
  written := by
    intro block buffer room
    have done : write order block buffer = .ok (block.encode order ++ buffer.drop length) := by
      rw [write_eq room, overwrite_encode]
    refine ⟨block.encode order ++ buffer.drop length, done, ?_, ?_, ?_,
      read_encode_append order block (buffer.drop length)⟩
    · rw [writing_eq, done]
    · rw [List.length_append, length_encode, List.length_drop, Nat.add_sub_cancel' room]
    · exact List.drop_left' (length_encode order block)
  rewritten := by
    intro bytes room
    have accepted := read_of_room order room
    refine ⟨_, accepted, ?_⟩
    intro buffer roomy
    rw [write_eq roomy, overwrite_encode, encode_of_read accepted]
  spaceShort := by
    intro block buffer short
    have refused : write order block buffer = .error .endpointSpaceShort := write_refused short
    refine ⟨refused, ?_⟩
    rw [writing_eq, refused]
  dataShort := fun _ short => read_refused short
  turned := fun _ apart _ _ accepted => read_other apart accepted
  guarded := Guarded.readBlock_eq order

-- From fd00::1, port 5000, to ::ffff:93.184.216.34, port 7000.
def flow : Block where
  source := ⟨0xfd000000000000000000000000000001#128⟩
  sourcePort := 0x1388
  destination := ⟨0xffff5db8d822#128⟩
  destinationPort := 0x1b58

theorem coded_flow :
    length ≤ (List.replicate 40 (0xee : UInt8)).length
    ∧ (∃ after, (writing .reversed flow).on (List.replicate 40 0xee) = .ok (.ok (), after)
      ∧ after.drop length = List.replicate 4 0xee
      ∧ read .reversed after = .ok flow
      ∧ read .network after = .ok { flow with sourcePort := 0x8813 })
    ∧ (List.replicate 35 (0xee : UInt8)).length < length
    ∧ (writing .reversed flow).on (List.replicate 35 0xee)
      = .ok (.error .endpointSpaceShort, List.replicate 35 0xee) := by
  have laws := coded .reversed
  have room : length ≤ (List.replicate 40 (0xee : UInt8)).length := by decide
  have short : (List.replicate 35 (0xee : UInt8)).length < length := by decide
  obtain ⟨after, _, edited, _, behind, back⟩ := laws.written flow _ room
  exact ⟨room, ⟨after, edited, behind, back, laws.turned .network (by decide) after flow back⟩,
    short, (laws.spaceShort flow _ short).2⟩

end Block
end Endpoint
end Nat64Gateway
