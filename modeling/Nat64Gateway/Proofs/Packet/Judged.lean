import Nat64Gateway.Proofs.Checksum.Verdict
import Nat64Gateway.Proofs.Packet.Reading

namespace Nat64Gateway

namespace Checksum

-- Bytes behind an odd front start in the low half of its last word.
def realigned (length : Nat) (bytes : Bytes) : Bytes :=
  if length % 2 = 0 then bytes else 0 :: bytes

theorem wordSum_append_realigned (front back : Bytes) :
    wordSum (front ++ back) = wordSum front + wordSum (realigned front.length back) := by
  unfold realigned
  fun_induction wordSum front with
  | case1 => simp
  | case2 high =>
    cases back with
    | nil => simp [wordSum]
    | cons low rest => simp [wordSum, Nat.add_assoc]
  | case3 high low rest ih =>
    have same : (high :: low :: rest).length % 2 = rest.length % 2 :=
      Nat.add_mod_right rest.length 2
    rw [List.cons_append, List.cons_append, wordSum, ih, same]
    omega

-- What the bytes behind a segment of so many bytes add to its sum: their number, which the pseudo
-- header counts, and their words.
def excess (length : Nat) (rest : Bytes) : Nat :=
  rest.length + wordSum (realigned length rest)

theorem excess_nil (length : Nat) : excess length [] = 0 := by
  unfold excess realigned
  split <;> rfl

-- Where the length is part of what is summed, it counts as itself.
theorem pseudoSum_add {family : Family} {header : Bytes} {protocol : Protocol} {length more : Nat}
    (other : protocol ≠ .icmp4) (short : length + more ≤ 65535) :
    pseudoSum family header protocol (length + more)
      = pseudoSum family header protocol length + more := by
  have two : ∀ {value}, value ≤ 65535 → wordSum (Wire.encode 2 value) = value :=
    fun small => wordSum_encode_two (Nat.lt_succ_of_le small)
  have four : ∀ {value}, value ≤ 65535 → wordSum (Wire.encode 4 value) = value := by
    intro value small
    have high : value / Wire.capacity 2 = 0 := Nat.div_eq_of_lt (Nat.lt_succ_of_le small)
    rw [Wire.encode_add 2 2, high, wordSum_append (by rw [Wire.length_encode]), two small]
    exact Nat.zero_add _
  unfold pseudoSum pseudoHeader
  cases family with
  | v4 =>
    simp only [if_neg other, List.map_cons, List.map_nil, List.sum_cons, List.sum_nil,
      two short, two (Nat.le_trans (Nat.le_add_right ..) short)]
    omega
  | v6 =>
    simp only [List.map_cons, List.map_nil, List.sum_cons, List.sum_nil, four short,
      four (Nat.le_trans (Nat.le_add_right ..) short)]
    omega

end Checksum

namespace Packet

open Checksum (Full excess pseudoSum wordSum headerLength)

def segmentSum (family : Family) (bytes : Bytes) (segment : Segment) : Nat :=
  pseudoSum family bytes segment.protocol segment.bytes.length + wordSum segment.bytes

def trailing (family : Family) (bytes : Bytes) (segment : Segment) : Bytes :=
  bytes.drop (headerLength family bytes + segment.bytes.length)

-- A sender of UDP over IPv4 has left the checksum out.
def Omitted (family : Family) (segment : Segment) : Prop :=
  family = .v4 ∧ segment.kind = .udp ∧ Wire.field segment.bytes 6 2 = [0, 0]

structure Parts (family : Family) (bytes : Bytes) (segment : Segment) (header rest : Bytes) :
    Prop where
  whole : bytes = header ++ (segment.bytes ++ rest)
  heads : Checksum.Heads family header
  sound : segment.Sound
  short : segment.bytes.length + rest.length ≤ 65535
  udp : segment.kind ≠ .udp → rest = []

namespace Parts

variable {family : Family} {bytes header rest : Bytes} {segment : Segment}

theorem trailing_eq (parts : Parts family bytes segment header rest) :
    trailing family bytes segment = rest := by
  unfold trailing
  rw [parts.whole, parts.heads.headerLength_append, Wire.drop_behind rfl, List.drop_left]

theorem omitted_iff (parts : Parts family bytes segment header rest) :
    Checksum.omitted family (header ++ (segment.bytes ++ rest)) segment.protocol = true ↔
      Omitted family segment := by
  rw [Checksum.omitted_iff parts.heads]
  unfold Omitted
  refine and_congr_right fun _ => ?_
  constructor
  · rintro ⟨named, blank⟩
    have kind := Segment.Kind.ofProtocol?_protocol segment.kind
    rw [show segment.kind.protocol = .udp from named] at kind
    have udp : segment.kind = .udp := (Option.some.inj kind).symm
    rw [Wire.field_append_left rest (parts.sound.header udp)] at blank
    exact ⟨udp, blank⟩
  · rintro ⟨udp, blank⟩
    rw [Wire.field_append_left rest (parts.sound.header udp)]
    exact ⟨congrArg Segment.Kind.protocol udp, blank⟩

theorem judged (parts : Parts family bytes segment header rest) :
    Checksum.transportValid family bytes segment.protocol = true ↔
      Omitted family segment ∨
        Full (segmentSum family bytes segment + excess segment.bytes.length rest) := by
  have short := parts.short
  have fits : (segment.bytes ++ rest).length ≤ Checksum.maxChunk := by
    unfold Checksum.maxChunk
    rw [List.length_append]
    omega
  have ahead : ∀ length, pseudoSum family bytes segment.protocol length
      = pseudoSum family header segment.protocol length := by
    intro length
    unfold pseudoSum
    rw [parts.whole, parts.heads.pseudoHeader_append]
  have total : pseudoSum family header segment.protocol (segment.bytes ++ rest).length
        + wordSum (segment.bytes ++ rest)
      = segmentSum family bytes segment + excess segment.bytes.length rest := by
    unfold segmentSum
    rw [ahead]
    by_cases udp : segment.kind = .udp
    · have other : segment.protocol ≠ .icmp4 := by
        unfold Segment.protocol
        rw [udp]
        decide
      unfold excess
      rw [Checksum.wordSum_append_realigned, List.length_append,
        Checksum.pseudoSum_add other short]
      omega
    · rw [parts.udp udp, List.append_nil, Checksum.excess_nil, Nat.add_zero]
  rw [parts.whole, Checksum.transportValid_iff parts.heads fits, parts.omitted_iff, total,
    ← parts.whole]

-- Reading says where the header ends; the segment is the front of what follows.
theorem of_read {protocol : Protocol} {start : Nat}
    (heads : Checksum.Heads family (bytes.take start))
    (found : Segment.read protocol (bytes.drop start) = .ok segment)
    (short : (bytes.drop start).length ≤ 65535) :
    Parts family bytes segment (bytes.take start)
      ((bytes.drop start).drop segment.bytes.length) := by
  obtain ⟨_, sound, front, udp⟩ := Segment.read_eq_ok found
  have apart : segment.bytes ++ (bytes.drop start).drop segment.bytes.length
      = bytes.drop start := by
    have whole := List.take_append_drop segment.bytes.length (bytes.drop start)
    rwa [← front] at whole
  refine ⟨?_, heads, sound, ?_, ?_⟩
  · rw [apart, List.take_append_drop]
  · rwa [← List.length_append, apart]
  · intro other
    rw [udp other, List.drop_length]

end Parts

theorem V4.parts {data : Bytes} {packet : V4} (accepted : read data = .ok packet) :
    ∃ header rest, Parts .v4 packet.bytes packet.segment header rest := by
  obtain ⟨checked, cut, found⟩ := read_eq_ok accepted
  obtain ⟨long, payload, total, _⟩ := headerFault?_eq_none.mp checked
  have number := Wire.number_lt (by omega : 2 + 2 ≤ data.length)
  have front : packet.bytes.take (Checksum.headerLength4 data)
      = data.take (Checksum.headerLength4 data) := by
    rw [cut, List.take_take, Nat.min_eq_left (Nat.le_of_lt payload)]
  have headed : Checksum.Headed .v4 data := ⟨long, Nat.le_trans (Nat.le_of_lt payload) total⟩
  refine ⟨_, _, .of_read ?_ found ?_⟩
  · rw [front]
    exact headed.heads
  · rw [cut, List.length_drop, List.length_take_of_le total]
    omega

theorem V6.parts {data : Bytes} {packet : V6} (accepted : read data = .ok packet) :
    ∃ header rest, Parts .v6 packet.bytes packet.segment header rest := by
  obtain ⟨checked, cut, found⟩ := read_eq_ok accepted
  obtain ⟨_, total⟩ := headerFault?_eq_none.mp checked
  have number := Wire.number_lt (by omega : 4 + 2 ≤ data.length)
  have size : packet.bytes.length = 40 + Wire.number data 4 2 := by
    rw [cut, List.length_take_of_le total]
  refine ⟨_, _, .of_read ?_ found ?_⟩
  · exact List.length_take_of_le (by omega)
  · rw [List.length_drop, size]
    omega

-- What the verdict on a transport checksum says about the segment. Bytes behind it count as well.
structure Judged (family : Family) (bytes : Bytes) (segment : Segment) (valid : Bool) : Prop where
  verdict : valid = true ↔ Omitted family segment ∨
    Full (segmentSum family bytes segment
      + excess segment.bytes.length (trailing family bytes segment))
  whole : trailing family bytes segment = [] →
    (valid = true ↔ Omitted family segment ∨ Full (segmentSum family bytes segment))
  behind : Full (segmentSum family bytes segment) → ¬Omitted family segment →
    (valid = true ↔ excess segment.bytes.length (trailing family bytes segment) % 65535 = 0)
  udp : segment.kind ≠ .udp → trailing family bytes segment = []

theorem Parts.judges {family : Family} {bytes header rest : Bytes} {segment : Segment}
    (parts : Parts family bytes segment header rest) :
    Judged family bytes segment (Checksum.transportValid family bytes segment.protocol) := by
  have verdict := parts.judged
  have behind := parts.trailing_eq
  rw [← behind] at verdict
  refine ⟨verdict, ?_, ?_, behind ▸ parts.udp⟩
  · intro nothing
    rw [verdict, nothing, Checksum.excess_nil, Nat.add_zero]
  · intro full present
    rw [verdict, or_iff_right present, Checksum.full_add_iff full]

theorem transportValid_judged (data : Bytes) :
    (∀ packet, V4.read data = .ok packet →
      Judged .v4 packet.bytes packet.segment packet.transportValid) ∧
    (∀ packet, V6.read data = .ok packet →
      Judged .v6 packet.bytes packet.segment packet.transportValid) := by
  constructor
  · intro packet read
    obtain ⟨_, _, parts⟩ := V4.parts read
    exact parts.judges
  · intro packet read
    obtain ⟨_, _, parts⟩ := V6.parts read
    exact parts.judges

-- A datagram of one byte, its checksum right, and a zero byte behind it.
def padded : Bytes :=
  [0x60, 0, 0, 0, 0, 10, 17, 64] ++ Address.V6.octets ⟨0xfd000000000000000000000000000001#128⟩
    ++ Address.V6.octets ⟨0xffffc0000207#128⟩ ++ [0x13, 0x88, 0x17, 0x70, 0, 9, 0x0e, 0xdb, 7, 0]

def paddedRead : V6 := ⟨padded, .udp, (padded.drop 40).take 9⟩

theorem transportValid_judged_padded :
    V6.read padded = .ok paddedRead ∧
      (paddedRead.transportValid = true ↔
        excess paddedRead.segment.bytes.length
          (trailing .v6 paddedRead.bytes paddedRead.segment) % 65535 = 0) := by
  have read : V6.read padded = .ok paddedRead := rfl
  have full : Full (segmentSum .v6 paddedRead.bytes paddedRead.segment) := by decide
  exact ⟨read, ((transportValid_judged padded).2 paddedRead read).behind full nofun⟩

theorem padded_misjudged : ∃ packet, V6.read padded = .ok packet ∧
    Full (segmentSum .v6 packet.bytes packet.segment) ∧ packet.transportValid = false :=
  ⟨paddedRead, rfl, by decide, by decide⟩

end Packet
end Nat64Gateway
