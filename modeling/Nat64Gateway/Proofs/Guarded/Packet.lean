import Nat64Gateway.Proofs.Guarded.Checksum
import Nat64Gateway.Proofs.Packet.Reading

namespace Nat64Gateway.Guarded

def word (bytes : Bytes) (start : Nat) : Checked UInt16 := do
  let stored ← number bytes start 2
  .ok (UInt16.ofNat stored)

theorem word_eq {bytes : Bytes} {start : Nat} (inside : start + 2 ≤ bytes.length) :
    word bytes start = .ok (Wire.word bytes start) := by
  unfold word
  rw [number_eq inside, ok_bind]
  rfl

section Segment

def readUdp (bytes : Bytes) : Checked (Except Fault Segment) :=
  if bytes.length < 8 then .ok (.error .udpHeaderShort)
  else do
    let length ← number bytes 4 2
    if length < 8 then .ok (.error .udpLengthShort)
    else if bytes.length < length then .ok (.error .udpLengthOverflow)
    else do
      let datagram ← sliceTo bytes length
      .ok (.ok ⟨.udp, datagram⟩)

def readTcp (bytes : Bytes) : Checked (Except Fault Segment) :=
  if bytes.length < 20 then .ok (.error .tcpHeaderShort)
  else do
    let offset ← byteAt bytes 12
    let length := offset.toNat / 16 * 4
    if bytes.length < length then .ok (.error .tcpOffsetOverflow)
    else if length < 20 then .ok (.error .tcpOffsetShort)
    else .ok (.ok ⟨.tcp, bytes⟩)

def readSegment (protocol : Protocol) (bytes : Bytes) : Checked (Except Fault Segment) :=
  match Segment.Kind.ofProtocol? protocol with
  | some .udp => readUdp bytes
  | some .tcp => readTcp bytes
  | some (.icmp family) => .ok (Segment.readIcmp family bytes)
  | none => .ok (.error .protocolUnsupported)

def port? (segment : Segment) (offset : Nat) : Checked (Option UInt16) :=
  match segment.kind with
  | .udp | .tcp => do
    let stored ← word segment.bytes offset
    .ok (some stored)
  | .icmp _ => .ok none

def messageKind (message : Icmp.Message) : Checked Icmp.Kind := do
  let type ← byteAt message.bytes 0
  let code ← byteAt message.bytes 1
  .ok (.ofHeader message.family type code)

theorem readUdp_eq (bytes : Bytes) : readUdp bytes = .ok (Segment.readUdp bytes) := by
  unfold readUdp Segment.readUdp
  by_cases header : bytes.length < 8
  · simp only [if_pos header]
  · simp only [if_neg header]
    rw [number_eq (by omega), ok_bind]
    by_cases short : Wire.number bytes 4 2 < 8
    · simp only [if_pos short]
    · simp only [if_neg short]
      by_cases overflow : bytes.length < Wire.number bytes 4 2
      · simp only [if_pos overflow]
      · simp only [if_neg overflow]
        rw [sliceTo_eq (Nat.not_lt.mp overflow), ok_bind]

theorem readTcp_eq (bytes : Bytes) : readTcp bytes = .ok (Segment.readTcp bytes) := by
  unfold readTcp Segment.readTcp Segment.tcpHeaderLength
  by_cases header : bytes.length < 20
  · simp only [if_pos header]
  · simp only [if_neg header]
    rw [byteAt_eq (by omega), ok_bind]
    by_cases overflow : bytes.length < (Wire.byte bytes 12).toNat / 16 * 4
    · simp only [if_pos overflow]
    · simp only [if_neg overflow]
      by_cases short : (Wire.byte bytes 12).toNat / 16 * 4 < 20
      · simp only [if_pos short]
      · simp only [if_neg short]

theorem readSegment_eq (protocol : Protocol) (bytes : Bytes) :
    readSegment protocol bytes = .ok (Segment.read protocol bytes) := by
  unfold readSegment Segment.read
  cases Segment.Kind.ofProtocol? protocol with
  | none => rfl
  | some kind =>
    cases kind with
    | udp => exact readUdp_eq bytes
    | tcp => exact readTcp_eq bytes
    | icmp family => rfl

variable {segment : Segment}

theorem port?_eq (sound : segment.Sound) (carries : segment.kind = .udp ∨ segment.kind = .tcp)
    {offset : Nat} (inside : offset + 2 ≤ 8) :
    port? segment offset = .ok (some (Wire.word segment.bytes offset)) := by
  have stored := word_eq (Nat.le_trans inside (sound.ports carries))
  unfold port?
  rcases carries with udp | tcp
  · rw [udp]
    dsimp only
    rw [stored, ok_bind]
  · rw [tcp]
    dsimp only
    rw [stored, ok_bind]

theorem port?_source (sound : segment.Sound) : port? segment 0 = .ok segment.sourcePort? := by
  obtain ⟨kind, bytes⟩ := segment
  cases kind with
  | udp => exact port?_eq sound (.inl rfl) (by decide)
  | tcp => exact port?_eq sound (.inr rfl) (by decide)
  | icmp family => rfl

theorem port?_destination (sound : segment.Sound) :
    port? segment 2 = .ok segment.destinationPort? := by
  obtain ⟨kind, bytes⟩ := segment
  cases kind with
  | udp => exact port?_eq sound (.inl rfl) (by decide)
  | tcp => exact port?_eq sound (.inr rfl) (by decide)
  | icmp family => rfl

-- Eight bytes were asked for before there was a message.
theorem messageKind_eq {family : Family} {bytes : Bytes} {message : Icmp.Message}
    (accepted : Icmp.Message.read family bytes = .ok message) :
    messageKind message = .ok message.kind := by
  obtain ⟨long, rfl⟩ := Icmp.Message.read_eq_ok accepted
  have type : byteAt bytes 0 = .ok (Wire.byte bytes 0) := byteAt_eq (by omega)
  have code : byteAt bytes 1 = .ok (Wire.byte bytes 1) := byteAt_eq (by omega)
  unfold messageKind
  rw [type, ok_bind, code, ok_bind]
  rfl

end Segment

structure Held (family : Family) (bytes : Bytes) (segment : Segment) : Prop where
  fits : Fits family bytes segment.protocol
  sound : segment.Sound
  short : segment.bytes.length ≤ 65535

theorem Held.length_ge {family : Family} {bytes : Bytes} {segment : Segment}
    (held : Held family bytes segment) : Checksum.headerLength family bytes + 4 ≤ bytes.length := by
  have field := held.fits.inside
  have offset := Checksum.checksumOffset_ge segment.protocol
  omega

-- A segment that was read from behind the header still has its checksum field there.
theorem field_of_segment {family : Family} {bytes : Bytes} {protocol : Protocol}
    {segment : Segment}
    (accepted : Segment.read protocol (bytes.drop (Checksum.headerLength family bytes))
      = .ok segment) :
    Checksum.transportField family bytes segment.protocol + 2 ≤ bytes.length := by
  obtain ⟨_, sound, front, _⟩ := Segment.read_eq_ok accepted
  have field := sound.length_ge
  have positive := Checksum.checksumOffset_ge segment.protocol
  have length := congrArg List.length front
  simp only [List.length_take, List.length_drop] at length
  unfold Checksum.transportField
  omega

namespace V4

def read (data : Bytes) : Checked (Except Fault Packet.V4) :=
  if data.length < 20 then .ok (.error .v4HeaderShort)
  else do
    let first ← byteAt data 0
    if first.toNat / 16 ≠ 4 then .ok (.error .v4Version)
    else do
      let header ← headerLength4 data
      if header < 20 then .ok (.error .v4HeaderLengthShort)
      else if data.length < header then .ok (.error .v4HeaderLengthOverflow)
      else do
        let total ← number data 2 2
        if data.length < total then .ok (.error .v4TotalLengthOverflow)
        else if total ≤ header then .ok (.error .v4PayloadMissing)
        else do
          let bytes ← sliceTo data total
          let fragment ← number bytes 6 2
          if fragment % 0x4000 ≠ 0 then .ok (.error .v4Fragment)
          else do
            let protocol ← byteAt bytes 9
            let carried ← sliceFrom bytes header
            let segment? ← readSegment ⟨protocol⟩ carried
            .ok (segment?.map fun segment => { bytes, segment })

def identification (packet : Packet.V4) : Checked UInt16 :=
  word packet.bytes 4

def dscp (packet : Packet.V4) : Checked UInt8 := do
  let typeOfService ← byteAt packet.bytes 1
  .ok (typeOfService >>> 2)

def timeToLive (packet : Packet.V4) : Checked UInt8 :=
  byteAt packet.bytes 8

def source (packet : Packet.V4) : Checked Address.V4 := do
  let stored ← octets packet.bytes 12 4
  .ok (.ofOctets stored)

def destination (packet : Packet.V4) : Checked Address.V4 := do
  let stored ← octets packet.bytes 16 4
  .ok (.ofOctets stored)

def headerValid (packet : Packet.V4) : Checked Bool := do
  let length ← headerLength4 packet.bytes
  let header ← sliceTo packet.bytes length
  Guarded.headerValid header

def transportValid (packet : Packet.V4) : Checked Bool :=
  Guarded.transportValid .v4 packet.bytes packet.segment.protocol

def text (packet : Packet.V4) : Checked String := do
  let port := fun (number? : Option UInt16) => (number?.map Address.portText).getD ""
  let sender ← source packet
  let sourcePort? ← port? packet.segment 0
  let receiver ← destination packet
  let destinationPort? ← port? packet.segment 2
  let number ← identification packet
  let hops ← timeToLive packet
  .ok ("IPv4 " ++ packet.segment.protocol.text
    ++ " " ++ sender.text ++ port sourcePort?
    ++ " -> " ++ receiver.text ++ port destinationPort?
    ++ " ID=" ++ Hex.word number.toNat
    ++ " L=" ++ toString packet.totalLength ++ " TTL=" ++ toString hops.toNat)

theorem read_eq (data : Bytes) : read data = .ok (Packet.V4.read data) := by
  unfold read Packet.V4.read Packet.V4.headerFault?
  dsimp only
  by_cases short : data.length < 20
  · simp only [if_pos short]
  simp only [if_neg short]
  rw [byteAt_eq (by omega), ok_bind]
  by_cases version : (Wire.byte data 0).toNat / 16 ≠ 4
  · simp only [if_pos version]
  simp only [if_neg version]
  rw [headerLength4_eq (by omega), ok_bind]
  by_cases small : Checksum.headerLength4 data < 20
  · simp only [if_pos small]
  simp only [if_neg small]
  by_cases options : data.length < Checksum.headerLength4 data
  · simp only [if_pos options]
  simp only [if_neg options]
  rw [number_eq (by omega), ok_bind]
  by_cases overflow : data.length < Wire.number data 2 2
  · simp only [if_pos overflow]
  simp only [if_neg overflow]
  by_cases empty : Wire.number data 2 2 ≤ Checksum.headerLength4 data
  · simp only [if_pos empty]
  simp only [if_neg empty]
  have length : (data.take (Wire.number data 2 2)).length = Wire.number data 2 2 :=
    List.length_take_of_le (Nat.not_lt.mp overflow)
  rw [sliceTo_eq (by omega), ok_bind, number_eq (by omega), ok_bind, Wire.number_take (by omega)]
  unfold Packet.V4.isFragment
  by_cases fragment : Wire.number data 6 2 % 0x4000 ≠ 0
  · simp only [if_pos fragment, decide_eq_true fragment, if_true]
  simp only [if_neg fragment, decide_eq_false fragment]
  rw [byteAt_eq (by omega), ok_bind, Wire.byte_take (by omega), sliceFrom_eq (by omega), ok_bind,
    readSegment_eq, ok_bind]
  rfl

-- The length field that was compared is at most 65535, and so is all that is kept.
theorem held {data : Bytes} {packet : Packet.V4} (accepted : Packet.V4.read data = .ok packet) :
    Held .v4 packet.bytes packet.segment := by
  obtain ⟨checked, cut, found⟩ := Packet.V4.read_eq_ok accepted
  obtain ⟨_, sound, short⟩ := Packet.V4.segment_of_read accepted
  obtain ⟨header, payload, total, _⟩ := Packet.V4.headerFault?_eq_none.mp checked
  have small := Wire.number_lt (by omega : 2 + 2 ≤ data.length)
  have length : packet.bytes.length = Wire.number data 2 2 := by
    rw [cut, List.length_take_of_le total]
  have same : Checksum.headerLength4 packet.bytes = Checksum.headerLength4 data := by
    unfold Checksum.headerLength4
    rw [cut, Wire.byte_take (by omega)]
  have kept : Checksum.headerLength .v4 packet.bytes = Checksum.headerLength4 data := same
  rw [← kept] at found
  exact ⟨⟨by omega, field_of_segment found, by omega⟩, sound, short⟩

section Fields

variable {packet : Packet.V4}

theorem length_ge (held : Held .v4 packet.bytes packet.segment) : 24 ≤ packet.bytes.length := by
  have header := held.fits.header
  have room := held.length_ge
  omega

theorem dscp_eq (held : Held .v4 packet.bytes packet.segment) :
    dscp packet = .ok packet.dscp := by
  have room := length_ge held
  unfold dscp
  rw [byteAt_eq (by omega), ok_bind]
  rfl

theorem timeToLive_eq (held : Held .v4 packet.bytes packet.segment) :
    timeToLive packet = .ok packet.timeToLive := by
  have room := length_ge held
  exact byteAt_eq (by omega)

theorem source_eq (held : Held .v4 packet.bytes packet.segment) :
    source packet = .ok packet.source := by
  have room := length_ge held
  unfold source
  rw [octets_eq (by omega), ok_bind]
  rfl

theorem destination_eq (held : Held .v4 packet.bytes packet.segment) :
    destination packet = .ok packet.destination := by
  have room := length_ge held
  unfold destination
  rw [octets_eq (by omega), ok_bind]
  rfl

theorem headerValid_eq (held : Held .v4 packet.bytes packet.segment) :
    headerValid packet = .ok packet.headerValid := by
  have room := length_ge held
  have field : Checksum.headerLength4 packet.bytes + 4 ≤ packet.bytes.length := held.length_ge
  have short := Checksum.headerLength4_le packet.bytes
  unfold headerValid
  rw [headerLength4_eq (by omega), ok_bind, sliceTo_eq (by omega), ok_bind,
    Guarded.headerValid_eq (by rw [List.length_take]; omega)]
  rfl

theorem transportValid_eq (held : Held .v4 packet.bytes packet.segment) :
    transportValid packet = .ok packet.transportValid :=
  held.fits.transportValid_eq

theorem text_eq (held : Held .v4 packet.bytes packet.segment) :
    text packet = .ok packet.text := by
  have room := length_ge held
  have number : identification packet = .ok packet.identification := word_eq (by omega)
  unfold text
  dsimp only
  rw [source_eq held, ok_bind, port?_source held.sound, ok_bind, destination_eq held, ok_bind,
    port?_destination held.sound, ok_bind, number, ok_bind, timeToLive_eq held, ok_bind]
  rfl

end Fields
end V4

namespace V6

def read (data : Bytes) : Checked (Except Fault Packet.V6) :=
  if data.length < 40 then .ok (.error .v6HeaderShort)
  else do
    let first ← byteAt data 0
    if first.toNat / 16 ≠ 6 then .ok (.error .v6Version)
    else do
      let payload ← number data 4 2
      let total := 40 + payload
      if data.length < total then .ok (.error .v6PayloadLengthOverflow)
      else do
        let bytes ← sliceTo data total
        let protocol ← byteAt bytes 6
        let carried ← sliceFrom bytes 40
        let segment? ← readSegment ⟨protocol⟩ carried
        .ok (segment?.map fun segment => { bytes, segment })

def payloadLength (packet : Packet.V6) : Checked Nat :=
  minus packet.bytes.length 40

def hopLimit (packet : Packet.V6) : Checked UInt8 :=
  byteAt packet.bytes 7

def source (packet : Packet.V6) : Checked Address.V6 := do
  let stored ← octets packet.bytes 8 16
  .ok (.ofOctets stored)

def destination (packet : Packet.V6) : Checked Address.V6 := do
  let stored ← octets packet.bytes 24 16
  .ok (.ofOctets stored)

def transportValid (packet : Packet.V6) : Checked Bool :=
  Guarded.transportValid .v6 packet.bytes packet.segment.protocol

def text (packet : Packet.V6) : Checked String := do
  let port := fun (number? : Option UInt16) => (number?.map Address.portText).getD ""
  let sender ← source packet
  let sourcePort? ← port? packet.segment 0
  let receiver ← destination packet
  let destinationPort? ← port? packet.segment 2
  let length ← payloadLength packet
  let hops ← hopLimit packet
  .ok ("IPv6 " ++ packet.segment.protocol.text
    ++ " [" ++ sender.text ++ "]" ++ port sourcePort?
    ++ " -> [" ++ receiver.text ++ "]" ++ port destinationPort?
    ++ " L=" ++ toString length ++ " H=" ++ toString hops.toNat)

theorem read_eq (data : Bytes) : read data = .ok (Packet.V6.read data) := by
  unfold read Packet.V6.read Packet.V6.headerFault?
  dsimp only
  by_cases short : data.length < 40
  · simp only [if_pos short]
  simp only [if_neg short]
  rw [byteAt_eq (by omega), ok_bind]
  by_cases version : (Wire.byte data 0).toNat / 16 ≠ 6
  · simp only [if_pos version]
  simp only [if_neg version]
  rw [number_eq (by omega), ok_bind]
  by_cases overflow : data.length < 40 + Wire.number data 4 2
  · simp only [if_pos overflow]
  simp only [if_neg overflow]
  have length : (data.take (40 + Wire.number data 4 2)).length = 40 + Wire.number data 4 2 :=
    List.length_take_of_le (Nat.not_lt.mp overflow)
  rw [sliceTo_eq (by omega), ok_bind, byteAt_eq (by omega), ok_bind, Wire.byte_take (by omega),
    sliceFrom_eq (by omega), ok_bind, readSegment_eq, ok_bind]

theorem held {data : Bytes} {packet : Packet.V6} (accepted : Packet.V6.read data = .ok packet) :
    Held .v6 packet.bytes packet.segment := by
  obtain ⟨checked, cut, found⟩ := Packet.V6.read_eq_ok accepted
  obtain ⟨_, sound, short, _⟩ := Packet.V6.segment_of_read accepted
  obtain ⟨_, total⟩ := Packet.V6.headerFault?_eq_none.mp checked
  have small := Wire.number_lt (by omega : 4 + 2 ≤ data.length)
  have length : packet.bytes.length = 40 + Wire.number data 4 2 := by
    rw [cut, List.length_take_of_le total]
  have kept : Checksum.headerLength .v6 packet.bytes = 40 := rfl
  exact ⟨⟨by omega, field_of_segment found, by omega⟩, sound, short⟩

section Fields

variable {packet : Packet.V6}

theorem length_ge (held : Held .v6 packet.bytes packet.segment) : 44 ≤ packet.bytes.length :=
  held.length_ge

theorem hopLimit_eq (held : Held .v6 packet.bytes packet.segment) :
    hopLimit packet = .ok packet.hopLimit := by
  have room := length_ge held
  exact byteAt_eq (by omega)

theorem source_eq (held : Held .v6 packet.bytes packet.segment) :
    source packet = .ok packet.source := by
  have room := length_ge held
  unfold source
  rw [octets_eq (by omega), ok_bind]
  rfl

theorem destination_eq (held : Held .v6 packet.bytes packet.segment) :
    destination packet = .ok packet.destination := by
  have room := length_ge held
  unfold destination
  rw [octets_eq (by omega), ok_bind]
  rfl

theorem transportValid_eq (held : Held .v6 packet.bytes packet.segment) :
    transportValid packet = .ok packet.transportValid :=
  held.fits.transportValid_eq

theorem text_eq (held : Held .v6 packet.bytes packet.segment) :
    text packet = .ok packet.text := by
  have room := length_ge held
  have length : payloadLength packet = .ok packet.payloadLength := minus_eq (by omega)
  unfold text
  dsimp only
  rw [source_eq held, ok_bind, port?_source held.sound, ok_bind, destination_eq held, ok_bind,
    port?_destination held.sound, ok_bind, length, ok_bind, hopLimit_eq held, ok_bind]
  rfl

end Fields
end V6
end Nat64Gateway.Guarded
