import Nat64Gateway.Endpoint
import Nat64Gateway.Proofs.Wire

namespace Nat64Gateway.Endpoint.Block

section Fields

variable (order : PortOrder) (block : Block) (rest : Bytes)

theorem encode_append : block.encode order ++ rest
    = block.source.octets ++ (order.arrange (Wire.encodeWord block.sourcePort)
      ++ (block.destination.octets ++ (Wire.encodeWord block.destinationPort ++ rest))) := by
  simp [encode]

theorem field_source :
    Wire.field (block.encode order ++ rest) 0 16 = block.source.octets := by
  rw [encode_append]
  exact Wire.field_prefix block.source.length_octets

theorem field_sourcePort : Wire.field (block.encode order ++ rest) 16 2
    = order.arrange (Wire.encodeWord block.sourcePort) := by
  rw [encode_append]
  exact Wire.field_between block.source.length_octets (by simp)

theorem field_destination :
    Wire.field (block.encode order ++ rest) 18 16 = block.destination.octets := by
  rw [encode_append, ← List.append_assoc]
  exact Wire.field_between (by simp) block.destination.length_octets

theorem field_destinationPort : Wire.field (block.encode order ++ rest) 34 2
    = Wire.encodeWord block.destinationPort := by
  rw [encode_append, ← List.append_assoc, ← List.append_assoc]
  exact Wire.field_between (by simp) (Wire.length_encodeWord ..)

-- Both sides arrange the bytes of the source port alike, and arranging twice is no change.
theorem read_encode_append : read order (block.encode order ++ rest) = .ok block := by
  have room : length ≤ (block.encode order ++ rest).length := by
    rw [List.length_append, length_encode]
    exact Nat.le_add_right ..
  have port : Wire.word (block.encode order ++ rest) 34 = block.destinationPort := by
    unfold Wire.word Wire.number
    rw [field_destinationPort, Wire.decode_encodeWord]
    exact UInt16.ofNat_toNat
  unfold read
  rw [if_neg (Nat.not_lt.mpr room), field_source, field_sourcePort, field_destination, port,
    PortOrder.arrange_arrange, Wire.word_encodeWord, Address.V6.ofOctets_octets,
    Address.V6.ofOctets_octets]

end Fields

theorem read_eq_ok {order : PortOrder} {bytes : Bytes} {block : Block}
    (accepted : read order bytes = .ok block) : length ≤ bytes.length := by
  unfold read at accepted
  split at accepted
  · cases accepted
  · rename_i room
    exact Nat.not_lt.mp room

theorem read_of_room (order : PortOrder) {bytes : Bytes} (room : length ≤ bytes.length) :
    read order bytes = .ok {
      source := .ofOctets (Wire.field bytes 0 16)
      sourcePort := Wire.word (order.arrange (Wire.field bytes 16 2)) 0
      destination := .ofOctets (Wire.field bytes 18 16)
      destinationPort := Wire.word bytes 34 } :=
  if_neg (Nat.not_lt.mpr room)

theorem length_port (order : PortOrder) {bytes : Bytes} (room : length ≤ bytes.length) :
    (order.arrange (Wire.field bytes 16 2)).length = 2 := by
  have inside : 16 + 2 ≤ bytes.length := Nat.le_trans (by decide) room
  rw [PortOrder.length_arrange, Wire.length_field inside]

theorem fields_of_read {order : PortOrder} {bytes : Bytes} {block : Block}
    (accepted : read order bytes = .ok block) :
    block.source.octets = Wire.field bytes 0 16 ∧
      Wire.encodeWord block.sourcePort = order.arrange (Wire.field bytes 16 2) ∧
      block.destination.octets = Wire.field bytes 18 16 ∧
      Wire.encodeWord block.destinationPort = Wire.field bytes 34 2 := by
  have room := read_eq_ok accepted
  have inside : 36 ≤ bytes.length := room
  rw [read_of_room order room] at accepted
  cases accepted
  exact ⟨Address.V6.octets_ofOctets (Wire.length_field (by omega)),
    Wire.encodeWord_of_two (length_port order room),
    Address.V6.octets_ofOctets (Wire.length_field (by omega)), Wire.encodeWord_word inside⟩

section Write

variable {order : PortOrder} {block : Block} {buffer : Bytes}

theorem write_eq (room : length ≤ buffer.length) :
    write order block buffer = .ok (Wire.overwrite buffer 0 (block.encode order)) :=
  if_neg (Nat.not_lt.mpr room)

theorem write_refused (short : buffer.length < length) :
    write order block buffer = .error .endpointSpaceShort :=
  if_pos short

theorem write_whole (width : buffer.length = length) :
    write order block buffer = .ok (block.encode order) := by
  have same : (block.encode order).length = buffer.length := by rw [length_encode, width]
  rw [write_eq (Nat.le_of_eq width.symm), Wire.overwrite_whole same]

end Write

end Nat64Gateway.Endpoint.Block
