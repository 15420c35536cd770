import Nat64Gateway.Proofs.Guarded.ToV4
import Nat64Gateway.Proofs.Tunnel.Emitted

namespace Nat64Gateway.Guarded

open Endpoint (PortOrder Block)
open Tunnel (innerStart framing outerUdpHeader)

def writeBlock (order : PortOrder) (block : Block) (bytes : Bytes) :
    Checked (Except Fault Bytes) :=
  if bytes.length < Block.length then .ok (.error .endpointSpaceShort)
  else do
    let bytes ← copy bytes 0 16 block.source.octets
    let bytes ← copy bytes 16 18 (order.arrange (Wire.encodeWord block.sourcePort))
    let bytes ← copy bytes 18 34 block.destination.octets
    let bytes ← copy bytes 34 36 (Wire.encodeWord block.destinationPort)
    .ok (.ok bytes)

def placeBlock (order : PortOrder) (block : Block) (buffer : Bytes) :
    Checked (Except Fault Bytes) := do
  let space ← slice buffer 28 64
  let written? ← writeBlock order block space
  match written? with
  | .error fault => .ok (.error fault)
  | .ok written => do
    let buffer ← copy buffer 28 64 written
    .ok (.ok buffer)

def writeCarrier (context : Context) (length : UInt16) (bytes : Bytes) : Checked Bytes := do
  let bytes ← copy bytes 0 2 (Wire.encodeWord context.localPort)
  let bytes ← copy bytes 2 4 (Wire.encodeWord context.remote.port)
  let bytes ← copy bytes 4 6 (Wire.encodeWord length)
  fill bytes 6 8 0

-- The fields of the plain header that change. All others stay as they were written.
def readdress (typeOfService : UInt8) (total : Nat) (destination : Address.V4) (header : Bytes) :
    Checked Bytes := do
  let header ← put header 1 typeOfService
  let stored ← narrow total
  let header ← copy header 2 4 (Wire.encodeWord stored)
  let header ← put header 9 Protocol.udp.number
  copy header 16 20 destination.octets

def carry (context : Context) (total : Nat) (buffer : Bytes) : Checked Bytes := do
  let length ← minus total 20
  let stored ← narrow length
  within buffer 20 28 (writeCarrier context stored)

def address (typeOfService : UInt8) (total : Nat) (destination : Address.V4) (buffer : Bytes) :
    Checked Bytes := do
  let buffer ← within buffer 0 20 (readdress typeOfService total destination)
  within buffer 0 total (checksumsV4 .udp)

def frame (tunnel : Tunnel) (protocol : Protocol) (block : Block) (plain : Outcome) :
    Checked Outcome :=
  match plain.verdict with
  | .dropped _ => .ok plain
  | .emitted length => do
    let total := length + framing protocol
    if plain.buffer.length < total ∨ Datagram.maxLength < total then
      .ok { plain with verdict := .dropped .framedExceedsBuffer }
    else do
      -- What is moved lands behind the block, in both forms.
      let start := innerStart protocol
      let buffer ← move plain.buffer start length (start + framing protocol)
      let placed? ← placeBlock tunnel.context.portOrder block buffer
      match placed? with
      | .error fault => .ok { plain with verdict := .dropped (.unreadable fault), buffer }
      | .ok buffer => do
        let buffer ← carry tunnel.context total buffer
        let buffer ← address (Tunnel.Marker.typeOfService protocol) total
          tunnel.context.remote.address buffer
        .ok (({ plain with verdict := .emitted total, buffer } : Outcome).followedBy
          [⟨.trace, .tunnel, "Encapsulated " ++ block.text ++ " to tunnel "
            ++ tunnel.context.remote.text⟩])

def encapsulate (tunnel : Tunnel) (data buffer : Bytes) : Checked Outcome := do
  let packet? ← V6.read data
  match packet? with
  | .error fault => .ok (tunnel.refuse buffer (.unreadable fault))
  | .ok packet => do
    let sourcePort? ← port? packet.segment 0
    if sourcePort?.any tunnel.context.exempts then
      toV4 tunnel.context tunnel.hook tunnel.nextId data buffer
    else
      match tunnel.context.host with
      | none => .ok (tunnel.refuse buffer .flowNeedsHost)
      | some _ => do
        let source ← V6.source packet
        let destination ← V6.destination packet
        let destinationPort? ← port? packet.segment 2
        let protocol := packet.segment.protocol
        let block : Block := {
          source, destination
          sourcePort := sourcePort?.getD 0
          destinationPort := destinationPort?.getD 0 }
        if buffer.length < 20 + packet.segment.bytes.length + framing protocol then
          .ok (tunnel.refuse buffer .framedExceedsBuffer)
        else do
          let plain ← toV4 tunnel.context tunnel.hook tunnel.nextId data buffer
          frame tunnel protocol block plain

section Pieces

theorem writeBlock_eq (order : PortOrder) (block : Block) (bytes : Bytes) :
    writeBlock order block bytes = .ok (block.write order bytes) := by
  unfold writeBlock Block.write
  by_cases short : bytes.length < Block.length
  · simp only [if_pos short]
  simp only [if_neg short]
  have inside : 36 ≤ bytes.length := Nat.not_lt.mp short
  rw [copy_eq (by simp) (by omega), ok_bind, copy_next (by simp) (by simp) (by omega), ok_bind,
    copy_next (by simp) (by simp) (by omega), ok_bind, copy_next (by simp) (by simp) inside,
    ok_bind]
  rfl

theorem writeCarrier_eq (context : Context) {length : Nat} {bytes : Bytes}
    (width : bytes.length = 8) (fits : length < 65536) :
    writeCarrier context (UInt16.ofNat length) bytes = .ok (outerUdpHeader context length) := by
  unfold writeCarrier
  rw [copy_eq (by simp) (by omega), ok_bind, copy_next (by simp) (by simp) (by omega), ok_bind,
    encodeWord_narrowed fits, copy_next (by simp) (by simp) (by omega), ok_bind,
    fill_next (by simp) (by decide) (by omega), Wire.overwrite_whole (by simp [width])]
  rfl

-- Twenty bytes on both sides, compared one by one.
theorem readdress_eq {plain outer : Packet.Header4} (fits : outer.totalLength < 65536)
    (protocol : outer.protocol = .udp) (identification : plain.identification = outer.identification)
    (hops : plain.timeToLive = outer.timeToLive) (source : plain.source = outer.source)
    {sum : Bytes} (same : sum.length = 2) :
    readdress outer.typeOfService outer.totalLength outer.destination
        (Wire.overwrite plain.encode 10 sum)
      = .ok (Wire.overwrite outer.encode 10 sum) := by
  obtain ⟨high, low, rfl⟩ : ∃ high low, sum = [high, low] := by
    match sum, same with
    | [high, low], _ => exact ⟨high, low, rfl⟩
  have literal : ∀ address : Address.V4,
      ∃ first second third fourth, address.octets = [first, second, third, fourth] :=
    fun _ => ⟨_, _, _, _, rfl⟩
  obtain ⟨_, _, _, _, sender⟩ := literal outer.source
  obtain ⟨_, _, _, _, former⟩ := literal plain.destination
  obtain ⟨_, _, _, _, receiver⟩ := literal outer.destination
  have stored : Wire.encodeWord (UInt16.ofNat outer.totalLength)
      = Wire.encode 2 outer.totalLength := encodeWord_narrowed fits
  unfold readdress Packet.Header4.encode
  rw [narrow_eq fits, protocol, identification, hops, source, sender, former, receiver]
  simp only [ok_bind, stored]
  simp only [Wire.encodeWord, Wire.encode_two, List.cons_append, List.nil_append]
  rfl

section Before

-- The bytes from `start` to `stop` stand right in front of what was written last.
variable {bytes later new : Bytes} {start stop : Nat}

theorem slice_before (ordered : start ≤ stop) (inside : stop + later.length ≤ bytes.length) :
    slice (Wire.overwrite bytes stop later) start stop
      = .ok (Wire.field bytes start (stop - start)) := by
  have kept := Wire.length_overwrite inside
  rw [slice_eq ordered (by omega), Wire.field_overwrite_of_disjoint (.inl (by omega)) inside]

theorem copy_before (inside : stop + later.length ≤ bytes.length)
    (same : start + new.length = stop) :
    copy (Wire.overwrite bytes stop later) start stop new
      = .ok (Wire.overwrite bytes start (new ++ later)) := by
  have kept := Wire.length_overwrite inside
  rw [copy_eq same (by omega), ← Wire.overwrite_comm (Nat.le_of_eq same) (by omega), ← same,
    Wire.overwrite_adjacent (by omega)]

theorem within_before {edit : Bytes → Checked Bytes} (ordered : start ≤ stop)
    (inside : stop + later.length ≤ bytes.length)
    (edited : edit (Wire.field bytes start (stop - start)) = .ok new)
    (same : start + new.length = stop) :
    within (Wire.overwrite bytes stop later) start stop edit
      = .ok (Wire.overwrite bytes start (new ++ later)) := by
  unfold within
  rw [slice_before ordered inside, ok_bind, edited, ok_bind, copy_before inside same]

end Before

theorem placeBlock_eq (order : PortOrder) (block : Block) {buffer inner : Bytes}
    (inside : 64 + inner.length ≤ buffer.length) :
    placeBlock order block (Wire.overwrite buffer 64 inner)
      = .ok (.ok (Wire.overwrite buffer 28 (block.encode order ++ inner))) := by
  have width : (Wire.field buffer 28 (64 - 28)).length = Block.length :=
    Wire.length_field (by omega)
  unfold placeBlock
  rw [slice_before (by decide) inside, ok_bind, writeBlock_eq, Block.write_whole width, ok_bind]
  dsimp only
  rw [copy_before inside (by rw [Block.length_encode]; rfl), ok_bind]

theorem carry_eq (context : Context) {buffer behind : Bytes} {total : Nat}
    (stated : total = 28 + behind.length) (inside : total ≤ buffer.length)
    (fits : total ≤ 65535) :
    carry context total (Wire.overwrite buffer 28 behind)
      = .ok (Wire.overwrite buffer 20 (outerUdpHeader context (8 + behind.length) ++ behind)) := by
  have written : writeCarrier context (UInt16.ofNat (total - 20)) (Wire.field buffer 20 (28 - 20))
      = .ok (outerUdpHeader context (8 + behind.length)) := by
    rw [writeCarrier_eq _ (Wire.length_field (by omega)) (by omega)]
    congr 2
    omega
  unfold carry
  rw [minus_eq (by omega), ok_bind, narrow_eq (by omega), ok_bind,
    within_before (by decide) (by omega) written (by rw [Tunnel.length_outerUdpHeader])]

end Pieces

theorem carry_outerSegment {context : Context} {packet : Packet.V6} {buffer inner : Bytes}
    {total : Nat} (stated : total = 20 + (8 + Block.length + inner.length))
    (inside : total ≤ buffer.length) (fits : total ≤ 65535) :
    carry context total (Wire.overwrite buffer 28
        ((Tunnel.blockOf packet).encode context.portOrder ++ inner))
      = .ok (Wire.overwrite buffer 20 (Tunnel.outerSegment context packet inner)) := by
  have behind : ((Tunnel.blockOf packet).encode context.portOrder ++ inner).length
      = Block.length + inner.length := by
    rw [List.length_append, Block.length_encode]
  rw [carry_eq context (by omega) inside fits, behind, ← Nat.add_assoc, ← List.append_assoc]
  rfl

section Address

variable {plain : Packet.Header4} (outer : Packet.Header4) {buffer body : Bytes}

-- The sum that the plain header had is blanked before anything is summed.
theorem checksums_readdressed {sum : Bytes} (same : sum.length = 2)
    (carrier : outer.protocol = .udp) (room : 8 ≤ body.length) (short : body.length ≤ 65535) :
    checksumsV4 .udp (Wire.overwrite outer.encode 10 sum ++ body) = .ok (outer.assemble body) := by
  have heads := outer.heads_encode.overwrite same
  have field : Protocol.udp.checksumOffset + 2 ≤ body.length := room
  rw [checksumsV4_eq heads field short, Checksum.fillHeader_append heads,
    Checksum.sealedHeader_overwrite same (by rw [outer.length_encode]; decide),
    ← Checksum.fillHeader_append outer.heads_encode, ← carrier]
  rfl

theorem address_eq (old : Wire.field buffer 0 20 = plain.closed)
    (identification : plain.identification = outer.identification)
    (hops : plain.timeToLive = outer.timeToLive) (source : plain.source = outer.source)
    (carrier : outer.protocol = .udp) (total : outer.totalLength = 20 + body.length)
    (room : 8 ≤ body.length) (fits : outer.totalLength ≤ 65535)
    (inside : outer.totalLength ≤ buffer.length) :
    address outer.typeOfService outer.totalLength outer.destination
        (Wire.overwrite buffer 20 body)
      = .ok (outer.assemble body ++ buffer.drop outer.totalLength) := by
  obtain ⟨sum, same, closed⟩ : ∃ sum : Bytes, sum.length = 2 ∧
      plain.closed = Wire.overwrite plain.encode 10 sum := ⟨_, Wire.length_encode .., rfl⟩
  have width : (Wire.overwrite outer.encode 10 sum).length = 20 := by
    rw [Wire.length_overwrite (by rw [outer.length_encode]; omega), outer.length_encode]
  have header : readdress outer.typeOfService outer.totalLength outer.destination
      (Wire.field buffer 0 (20 - 0)) = .ok (Wire.overwrite outer.encode 10 sum) := by
    rw [old, closed]
    exact readdress_eq (by omega) carrier identification hops source same
  have field : Protocol.udp.checksumOffset + 2 ≤ body.length := room
  have size : (outer.assemble body).length = 20 + body.length := by
    rw [outer.assemble_eq (by rwa [carrier]) (Nat.le_trans (by omega) (by decide : 65535 ≤ _)),
      List.length_append, outer.length_closed, Checksum.length_sealedSegment (by rwa [carrier])]
  have packet : within (Wire.overwrite buffer 0 (Wire.overwrite outer.encode 10 sum ++ body)) 0
      outer.totalLength (checksumsV4 .udp)
        = .ok (outer.assemble body ++ buffer.drop outer.totalLength) := by
    have whole : (Wire.overwrite outer.encode 10 sum ++ body).length = outer.totalLength := by
      rw [List.length_append, width, total]
    have within_buffer := Wire.length_overwrite
      (by omega : 0 + (Wire.overwrite outer.encode 10 sum ++ body).length ≤ buffer.length)
    rw [within_front (Wire.field_overwrite_self whole (Nat.zero_le _)) (by omega)
      (checksums_readdressed outer same carrier room (by omega)) (by omega),
      Wire.drop_overwrite_of_ge (by omega) (by omega)]
  unfold address
  rw [within_before (by decide) (by omega) header (by omega), ok_bind, packet]

end Address

theorem frame_ok {tunnel : Tunnel} {host : Address.V4} {packet : Packet.V6} {plain : Outcome}
    {header : Packet.Header4} {rest : Bytes} {length : Nat}
    (verdict : plain.verdict = .emitted length) (front : plain.buffer = header.closed ++ rest)
    (identification : header.identification = tunnel.nextId)
    (hops : header.timeToLive = packet.hopLimit) (source : header.source = host)
    (least : innerStart packet.segment.protocol ≤ length) (inside : length ≤ plain.buffer.length) :
    frame tunnel packet.segment.protocol (Tunnel.blockOf packet) plain
      = .ok (tunnel.frame host packet plain) := by
  unfold frame Tunnel.frame
  rw [verdict]
  dsimp only
  by_cases exceeds : plain.buffer.length < length + framing packet.segment.protocol ∨
      Datagram.maxLength < length + framing packet.segment.protocol
  · rw [if_pos exceeds, if_pos exceeds]
  rw [if_neg exceeds, if_neg exceeds]
  unfold Datagram.maxLength at exceeds
  -- What the frame carries is moved before the block is written over the place where it stood.
  have moved : Wire.field plain.buffer (innerStart packet.segment.protocol)
      (length - innerStart packet.segment.protocol)
        = plain.packet.drop (innerStart packet.segment.protocol) := by
    unfold Wire.field Outcome.packet Outcome.length
    rw [verdict, List.drop_take]
  generalize plain.packet.drop (innerStart packet.segment.protocol) = inner at moved ⊢
  have width : inner.length = length - innerStart packet.segment.protocol := by
    rw [← moved, Wire.length_field (by omega)]
  have total : length + framing packet.segment.protocol = 20 + (8 + Block.length + inner.length) := by
    rw [Tunnel.length_framed least, width]
  have target := Tunnel.innerStart_add_framing packet.segment.protocol
  have size : Block.length = 36 := rfl
  have body := Tunnel.length_outerSegment tunnel.context packet inner
  have old : Wire.field plain.buffer 0 20 = header.closed := by
    rw [front]
    exact Wire.field_prefix header.length_closed
  have long : 8 ≤ (Tunnel.outerSegment tunnel.context packet inner).length := by omega
  have fits : 20 + (8 + Block.length + inner.length) ≤ 65535 := by omega
  have room : 20 + (8 + Block.length + inner.length) ≤ plain.buffer.length := by omega
  have addressed := address_eq (tunnel.outerHeader host packet inner) old identification hops source
    rfl (congrArg (20 + ·) body.symm) long fits room
  dsimp only [Tunnel.outerHeader] at addressed
  rw [move_eq least (by omega) (by omega), moved, ok_bind, target,
    placeBlock_eq _ _ (by omega), ok_bind]
  dsimp only
  rw [carry_outerSegment total (by omega) (by omega), ok_bind, total, addressed, ok_bind]
  rfl

-- What translation wrote is a header of the host in front of the segment.
theorem frame_eq {tunnel : Tunnel} {host : Address.V4} {data buffer : Bytes} {packet : Packet.V6}
    (read : Packet.V6.read data = .ok packet) (known : tunnel.context.host = some host) :
    frame tunnel packet.segment.protocol (Tunnel.blockOf packet) (tunnel.plainOut packet buffer)
      = .ok (tunnel.frame host packet (tunnel.plainOut packet buffer)) := by
  cases verdict : (tunnel.plainOut packet buffer).verdict with
  | dropped cause =>
    unfold frame Tunnel.frame
    rw [verdict]
  | emitted n =>
    obtain ⟨_, sound, short, _⟩ := Packet.V6.segment_of_read read
    obtain ⟨least, _⟩ := Tunnel.plainOut_complete read verdict
    obtain ⟨_, departed⟩ := Tunnel.plainOut_emitted read verdict
    obtain ⟨plan, kind, length, planned, _, emission⟩ :=
      Nat64.ToV4.run_emitted sound short verdict
    have source : plan.source = host := by
      have decided := Nat64.ToV4.sourceFor_eq_ok planned.source
      rwa [known] at decided
    have front := emission.buffer_eq.trans (List.append_assoc ..)
    exact frame_ok verdict front rfl planned.hops source least
      (departed.kept.symm ▸ departed.room)

theorem encapsulate_eq (tunnel : Tunnel) (data buffer : Bytes) :
    encapsulate tunnel data buffer = .ok (tunnel.encapsulate data buffer) := by
  unfold encapsulate Tunnel.encapsulate
  rw [V6.read_eq, ok_bind]
  cases read : Packet.V6.read data with
  | error fault => rfl
  | ok packet =>
    have held := V6.held read
    have plain : Nat64.toV4 tunnel.context tunnel.hook tunnel.nextId data buffer
        = tunnel.plainOut packet buffer := by
      unfold Nat64.toV4
      rw [read]
      rfl
    dsimp only
    rw [port?_source held.sound, ok_bind]
    unfold Tunnel.bypasses
    split
    · rw [toV4_eq, plain]
    · cases known : tunnel.context.host with
      | none => rfl
      | some host =>
        dsimp only
        rw [V6.source_eq held, ok_bind, V6.destination_eq held, ok_bind,
          port?_destination held.sound, ok_bind]
        by_cases exceeds : buffer.length
            < 20 + packet.segment.bytes.length + framing packet.segment.protocol
        · rw [if_pos exceeds, if_pos exceeds]
        rw [if_neg exceeds, if_neg exceeds, toV4_eq, ok_bind, plain]
        exact frame_eq read known

end Nat64Gateway.Guarded
