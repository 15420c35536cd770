import Nat64Gateway.Proofs.Tunnel.Entry

namespace Nat64Gateway

namespace Wire

variable {data : Bytes} {declared : Nat}

-- Other bytes behind the end of a packet do not change what stands before it.
theorem number_cut (inside : declared ≤ data.length) (rest : Bytes) {offset width : Nat}
    (before : offset + width ≤ declared) :
    number (data.take declared ++ rest) offset width = number data offset width := by
  unfold number
  rw [field_append_left rest (by rwa [List.length_take_of_le inside]), field_take before]

theorem byte_cut (inside : declared ≤ data.length) (rest : Bytes) {offset : Nat}
    (before : offset < declared) : byte (data.take declared ++ rest) offset = byte data offset := by
  rw [byte_append_left rest (by rwa [List.length_take_of_le inside]), byte_take before]

end Wire

namespace Packet

-- A reader that takes as many bytes as were declared, and needs them all.
structure Delimited {α : Type} (read : Bytes → Except Fault α) (data : Bytes) (declared : Nat) :
    Prop where
  inside : declared ≤ data.length
  tail : ∀ rest, read (data.take declared ++ rest) = read data
  cut : ∀ length, length < declared →
    ∃ fault, fault.kind = .truncated ∧ read (data.take length) = .error fault

namespace V6

def declared (data : Bytes) : Nat :=
  40 + Wire.number data 4 2

theorem read_of_fault {data : Bytes} {fault : Fault} (found : headerFault? data = some fault) :
    read data = .error fault := by
  unfold read
  rw [found]

theorem read_cut {data : Bytes} {length : Nat} (sound : HeaderSound data)
    (short : length < declared data) :
    ∃ fault, fault.kind = .truncated ∧ read (data.take length) = .error fault := by
  have size : (data.take length).length = length :=
    List.length_take_of_le (Nat.le_trans (Nat.le_of_lt short) sound.total)
  by_cases header : length < 40
  · refine ⟨.v6HeaderShort, rfl, read_of_fault ?_⟩
    exact if_pos (by rwa [size])
  · have version : (Wire.byte (data.take length) 0).toNat / 16 = 6 := by
      rw [Wire.byte_take (by omega), sound.version]
    have stated : Wire.number (data.take length) 4 2 = Wire.number data 4 2 :=
      Wire.number_take (by omega)
    have missing : length < 40 + Wire.number data 4 2 := short
    refine ⟨.v6PayloadLengthOverflow, rfl, read_of_fault ?_⟩
    unfold headerFault?
    rw [size, if_neg header, if_neg (not_not_intro version), stated, if_pos missing]

theorem delimited {data : Bytes} {packet : V6} (accepted : read data = .ok packet) :
    Delimited read data (declared data) := by
  obtain ⟨sound, cut, found⟩ := read_iff.mp accepted
  refine ⟨sound.total, ?_, fun length => read_cut sound⟩
  intro rest
  have inside : declared data ≤ data.length := sound.total
  have front : (data.take (declared data)).length = declared data :=
    List.length_take_of_le inside
  have header : 40 ≤ declared data := Nat.le_add_right ..
  have stated : Wire.number (data.take (declared data) ++ rest) 4 2 = Wire.number data 4 2 :=
    Wire.number_cut inside rest (by omega)
  have whole : (data.take (declared data) ++ rest).take (40 + Wire.number data 4 2)
      = data.take (declared data) := List.take_left' front
  have behind : payload (data.take (declared data) ++ rest) = payload data := by
    unfold payload
    rw [stated, ← Nat.add_sub_cancel_left (n := 40) (m := Wire.number data 4 2), ← List.drop_take,
      whole, ← List.drop_take]
    rfl
  rw [accepted]
  refine read_iff.mpr ⟨⟨?_, ?_⟩, ?_, ?_⟩
  · rw [Wire.byte_cut inside rest (by omega), sound.version]
  · rw [stated, List.length_append, front]
    exact Nat.le_add_right ..
  · rw [stated, whole, cut]
    rfl
  · rw [behind, Wire.byte_cut inside rest (by omega), found]

end V6

namespace V4

def declared (data : Bytes) : Nat :=
  Wire.number data 2 2

theorem read_of_fault {data : Bytes} {fault : Fault} (found : headerFault? data = some fault) :
    read data = .error fault := by
  unfold read
  rw [found]

theorem read_cut {data : Bytes} {length : Nat} (sound : HeaderSound data)
    (short : length < declared data) :
    ∃ fault, fault.kind = .truncated ∧ read (data.take length) = .error fault := by
  have size : (data.take length).length = length :=
    List.length_take_of_le (Nat.le_trans (Nat.le_of_lt short) sound.total)
  by_cases fixed : length < 20
  · refine ⟨.v4HeaderShort, rfl, read_of_fault ?_⟩
    exact if_pos (by rwa [size])
  have first : Wire.byte (data.take length) 0 = Wire.byte data 0 := Wire.byte_take (by omega)
  have words : Checksum.headerLength4 (data.take length) = Checksum.headerLength4 data := by
    unfold Checksum.headerLength4
    rw [first]
  have version := not_not_intro sound.version
  have header := Nat.not_lt.mpr sound.header
  by_cases options : length < Checksum.headerLength4 data
  · refine ⟨.v4HeaderLengthOverflow, rfl, read_of_fault ?_⟩
    unfold headerFault?
    simp only [size, first, words, if_neg fixed, if_neg version, if_neg header, if_pos options]
  · have stated : Wire.number (data.take length) 2 2 = Wire.number data 2 2 :=
      Wire.number_take (by omega)
    have missing : length < Wire.number data 2 2 := short
    refine ⟨.v4TotalLengthOverflow, rfl, read_of_fault ?_⟩
    unfold headerFault?
    simp only [size, first, words, stated, if_neg fixed, if_neg version, if_neg header,
      if_neg options, if_pos missing]

theorem delimited {data : Bytes} {packet : V4} (accepted : read data = .ok packet) :
    Delimited read data (declared data) := by
  obtain ⟨sound, cut, found⟩ := read_iff.mp accepted
  refine ⟨sound.total, ?_, fun length => read_cut sound⟩
  intro rest
  have inside : declared data ≤ data.length := sound.total
  have front : (data.take (declared data)).length = declared data :=
    List.length_take_of_le inside
  have header : 20 < declared data := Nat.lt_of_le_of_lt sound.header sound.payload
  have first : Wire.byte (data.take (declared data) ++ rest) 0 = Wire.byte data 0 :=
    Wire.byte_cut inside rest (by omega)
  have words : Checksum.headerLength4 (data.take (declared data) ++ rest)
      = Checksum.headerLength4 data := by
    unfold Checksum.headerLength4
    rw [first]
  have stated : Wire.number (data.take (declared data) ++ rest) 2 2 = Wire.number data 2 2 :=
    Wire.number_cut inside rest (by omega)
  have whole : (data.take (declared data) ++ rest).take (Wire.number data 2 2)
      = data.take (declared data) := List.take_left' front
  rw [accepted]
  refine read_iff.mpr ⟨⟨?_, ?_, ?_, ?_, ?_⟩, ?_, ?_⟩
  · rw [words]
    exact sound.header
  · rw [words, stated]
    exact sound.payload
  · rw [stated, List.length_append, front]
    exact Nat.le_add_right ..
  · rw [first, sound.version]
  · have fragment := sound.whole
    unfold isFragment at fragment ⊢
    rwa [Wire.number_cut inside rest (by omega)]
  · rw [stated, whole, cut]
    rfl
  · unfold payload at found ⊢
    rw [stated, whole, words, Wire.byte_cut inside rest (by omega)]
    exact found

end V4
end Packet

-- What becomes of a packet does not depend on what was received behind it. Without its last bytes
-- it is refused, and nothing was done.
structure Delimits (handle : Bytes → Outcome) (buffer : Bytes) (nextId : UInt16) (data : Bytes)
    (declared : Nat) : Prop where
  inside : declared ≤ data.length
  tail : ∀ rest, handle (data.take declared ++ rest) = handle data
  cut : ∀ length, length < declared → ∃ cause, cause.kind = .truncatedPacket ∧
    handle (data.take length) = .refuse buffer nextId cause

-- Nothing but what was read decides, and nothing is done before it is read.
theorem Delimits.of_read {α : Type} {read : Bytes → Except Fault α} {handle : Bytes → Outcome}
    {buffer data : Bytes} {nextId : UInt16} {declared : Nat}
    (delimited : Packet.Delimited read data declared)
    (same : ∀ other, read other = read data → handle other = handle data)
    (refused : ∀ other fault, read other = .error fault →
      handle other = .refuse buffer nextId (.unreadable fault)) :
    Delimits handle buffer nextId data declared := by
  refine ⟨delimited.inside, fun rest => same _ (delimited.tail rest), ?_⟩
  intro length short
  obtain ⟨fault, truncated, unread⟩ := delimited.cut length short
  exact ⟨.unreadable fault, congrArg Drop.Kind.ofFault truncated, refused _ fault unread⟩

namespace Nat64

variable {data : Bytes}

theorem toV4_delimits {packet : Packet.V6} (context : Context) (hook : Dns64.Hook)
    (nextId : UInt16) (buffer : Bytes) (read : Packet.V6.read data = .ok packet) :
    Delimits (toV4 context hook nextId · buffer) buffer nextId data (Packet.V6.declared data) :=
  .of_read (Packet.V6.delimited read) (fun _ same => by simp only [toV4, same])
    fun _ _ unread => by simp only [toV4, unread]

theorem toV6_delimits {packet : Packet.V4} (context : Context) (hook : Dns64.Hook)
    (nextId : UInt16) (buffer : Bytes) (read : Packet.V4.read data = .ok packet) :
    Delimits (toV6 context hook nextId · buffer) buffer nextId data (Packet.V4.declared data) :=
  .of_read (Packet.V4.delimited read) (fun _ same => by simp only [toV6, same])
    fun _ _ unread => by simp only [toV6, unread]

end Nat64

namespace Tunnel

variable {data : Bytes}

theorem encapsulate_delimits {packet : Packet.V6} (tunnel : Tunnel) (buffer : Bytes)
    (read : Packet.V6.read data = .ok packet) :
    Delimits (tunnel.encapsulate · buffer) buffer tunnel.nextId data
      (Packet.V6.declared data) :=
  .of_read (Packet.V6.delimited read) (fun _ same => by simp only [encapsulate, same])
    fun _ _ unread => by simp only [encapsulate, unread, refuse]

theorem decapsulate_delimits {packet : Packet.V4} (tunnel : Tunnel) (buffer : Bytes)
    (read : Packet.V4.read data = .ok packet) :
    Delimits (tunnel.decapsulate · buffer) buffer tunnel.nextId data
      (Packet.V4.declared data) :=
  .of_read (Packet.V4.delimited read) (fun _ same => by simp only [decapsulate, same])
    fun _ _ unread => by simp only [decapsulate, unread, refuse]

theorem declared_length_delimits (tunnel : Tunnel) (data buffer : Bytes) (n : Nat) :
    ((tunnel.encapsulate data buffer).verdict = .emitted n →
      Delimits (tunnel.encapsulate · buffer) buffer tunnel.nextId data
          (40 + Wire.number data 4 2) ∧
        Delimits (Nat64.toV4 tunnel.context tunnel.hook tunnel.nextId · buffer) buffer
          tunnel.nextId data (40 + Wire.number data 4 2)) ∧
      ((tunnel.decapsulate data buffer).verdict = .emitted n →
        Delimits (tunnel.decapsulate · buffer) buffer tunnel.nextId data
            (Wire.number data 2 2) ∧
          Delimits (Nat64.toV6 tunnel.context tunnel.hook tunnel.nextId · buffer) buffer
            tunnel.nextId data (Wire.number data 2 2)) := by
  constructor
  · intro emitted
    obtain ⟨original, read, _⟩ := encapsulate_emitted emitted
    exact ⟨encapsulate_delimits tunnel buffer read,
      Nat64.toV4_delimits tunnel.context tunnel.hook tunnel.nextId buffer read⟩
  · intro emitted
    obtain ⟨outer, read, _⟩ := decapsulate_emitted emitted
    exact ⟨decapsulate_delimits tunnel buffer read,
      Nat64.toV6_delimits tunnel.context tunnel.hook tunnel.nextId buffer read⟩

-- A datagram with two bytes behind it and without its last one, and the same for the frame that it
-- is put into.
theorem declared_length_delimits_loop :
    (loop.encapsulate (datagram ++ [1, 2]) blank = loop.encapsulate datagram blank ∧
        ∃ cause, cause.kind = .truncatedPacket ∧
          loop.encapsulate (datagram.take 48) blank = loop.refuse blank cause) ∧
      ∃ cause, cause.kind = .truncatedPacket ∧
        loop.decapsulate ((loop.encapsulate datagram blank).packet.take 64) blank
          = loop.refuse blank cause := by
  obtain ⟨sent, _⟩ := (declared_length_delimits loop datagram blank 65).1 (by rfl)
  obtain ⟨received, _⟩ :=
    (declared_length_delimits loop (loop.encapsulate datagram blank).packet blank 49).2 (by rfl)
  exact ⟨⟨sent.tail [1, 2], sent.cut 48 (by decide)⟩, received.cut 64 (by decide)⟩

end Tunnel
end Nat64Gateway
