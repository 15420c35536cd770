import Nat64Gateway.Proofs.Guarded.ToV6
import Nat64Gateway.Proofs.Tunnel.Unframing

namespace Nat64Gateway.Guarded

open Endpoint (PortOrder Block)
open Tunnel (Marker.protocol? restoredLength)

theorem overwrite_tail (bytes new : Bytes) (start : Nat) :
    bytes.take start ++ Wire.overwrite (bytes.drop start) 0 new = Wire.overwrite bytes start new := by
  simp [Wire.overwrite, List.drop_drop]

def readBlock (order : PortOrder) (bytes : Bytes) : Checked (Except Fault Block) :=
  if bytes.length < Block.length then .ok (.error .endpointDataShort)
  else do
    let source ← octets bytes 0 16
    let sourcePort ← octets bytes 16 2
    let destination ← octets bytes 18 16
    let destinationPort ← word bytes 34
    .ok (.ok {
      source := .ofOctets source
      sourcePort := Wire.word (order.arrange sourcePort) 0
      destination := .ofOctets destination
      destinationPort })

def checkPeer (context : Context) (packet : Packet.V4) : Checked (Except Drop Unit) :=
  if packet.segment.kind ≠ .udp then .ok (.error .carrierNotUdp)
  else do
    let sender ← V4.source packet
    if sender ≠ context.remote.address then .ok (.error .peerAddress)
    else do
      let port ← port? packet.segment 0
      if port ≠ some context.remote.port then .ok (.error .peerPort) else .ok (.ok ())

def writePorts (block : Block) (segment : Bytes) : Checked Bytes := do
  let segment ← copy segment 0 2 (Wire.encodeWord block.sourcePort)
  copy segment 2 4 (Wire.encodeWord block.destinationPort)

-- `segment` reaches to the end of the buffer, `length` is how much of it the restored one takes.
def writeRestored (protocol : Protocol) (block : Block) (inner : Bytes) (length : Nat)
    (segment : Bytes) : Checked (Except Drop Bytes) :=
  if protocol = .udp then do
    let segment ← writePorts block segment
    let stored ← narrow length
    let segment ← copy segment 4 6 (Wire.encodeWord stored)
    let segment ← fill segment 6 8 0
    let segment ← copy segment 8 length inner
    .ok (.ok segment)
  else if protocol = .tcp then do
    let read? ← readTcp inner
    match read? with
    | .error fault => .ok (.error (.unreadable fault))
    | .ok _ => do
      let segment ← copy segment 0 length inner
      let segment ← writePorts block segment
      .ok (.ok segment)
  else do
    let type? ← echoType .v4 .v6 Icmp.Kind.echo? .innerIcmpNotEcho inner
    match type? with
    | .error cause => .ok (.error cause)
    | .ok type => do
      let segment ← copy segment 0 length inner
      let segment ← put segment 0 type
      .ok (.ok segment)

def restoreInto (tunnel : Tunnel) (packet : Packet.V4) (protocol : Protocol) (block : Block)
    (inner buffer : Bytes) : Checked Outcome := do
  let length := restoredLength protocol inner
  if buffer.length < 40 + length then .ok (tunnel.refuse buffer .unframedExceedsBuffer)
  else do
    let segment ← sliceFrom buffer 40
    let written? ← writeRestored protocol block inner length segment
    match written? with
    | .error cause => .ok (tunnel.refuse buffer cause)
    | .ok written => do
      let buffer ← copy buffer 40 buffer.length written
      let direction? :=
        if protocol = .udp ∧ block.sourcePort = Dns64.port then some .response else none
      let placed ← edit tunnel.hook direction? buffer 40 length
      let hops ← V4.timeToLive packet
      let header : UInt16 → Nat → Packet.Header .v6 := fun _ payloadLength => {
        payloadLength, protocol, hopLimit := hops
        source := block.source
        destination := block.destination : Packet.Header6 }
      let outcome ← finish header tunnel.nextId placed
      .ok (outcome.announcedBy [⟨.trace, .tunnel, "Decapsulated " ++ protocol.text ++ " "
        ++ block.text ++ " from tunnel " ++ tunnel.context.remote.text⟩])

def unpack (tunnel : Tunnel) (packet : Packet.V4) (buffer : Bytes) : Checked Outcome := do
  let dscp ← V4.dscp packet
  match Tunnel.Marker.protocol? dscp with
  | none => .ok (tunnel.refuse buffer .markerUnknown)
  | some protocol => do
    let carried ← sliceFrom packet.segment.bytes 8
    let block? ← readBlock tunnel.context.portOrder carried
    match block? with
    | .error fault => .ok (tunnel.refuse buffer (.unreadable fault))
    | .ok block => do
      let inner ← sliceFrom packet.segment.bytes (8 + Block.length)
      restoreInto tunnel packet protocol block inner buffer

def unframe (tunnel : Tunnel) (packet : Packet.V4) (buffer : Bytes) : Checked Outcome := do
  let peer ← checkPeer tunnel.context packet
  match peer with
  | .error cause => .ok (tunnel.refuse buffer cause)
  | .ok () => do
    let complaints ← ToV6.checksumWarnings .tunnel "Decapsulating" packet
    let outcome ← unpack tunnel packet buffer
    .ok (outcome.precededBy complaints)

def decapsulate (tunnel : Tunnel) (data buffer : Bytes) : Checked Outcome := do
  let packet? ← V4.read data
  match packet? with
  | .error fault => .ok (tunnel.refuse buffer (.unreadable fault))
  | .ok packet => do
    let port ← port? packet.segment 2
    if port.any fun port => !tunnel.context.exempts port then unframe tunnel packet buffer
    else toV6 tunnel.context tunnel.hook tunnel.nextId data buffer

theorem readBlock_eq (order : PortOrder) (bytes : Bytes) :
    readBlock order bytes = .ok (Block.read order bytes) := by
  unfold readBlock Block.read
  by_cases short : bytes.length < Block.length
  · simp only [if_pos short]
  simp only [if_neg short]
  unfold Block.length at short
  rw [octets_eq (by omega), ok_bind, octets_eq (by omega), ok_bind, octets_eq (by omega), ok_bind,
    word_eq (by omega), ok_bind]

theorem checkPeer_eq {packet : Packet.V4} (context : Context)
    (held : Held .v4 packet.bytes packet.segment) :
    checkPeer context packet = .ok (Tunnel.checkPeer context packet) := by
  unfold checkPeer Tunnel.checkPeer
  by_cases carrier : packet.segment.kind ≠ .udp
  · simp only [if_pos carrier]
  simp only [if_neg carrier]
  rw [V4.source_eq held, ok_bind]
  by_cases address : packet.source ≠ context.remote.address
  · simp only [if_pos address]
  simp only [if_neg address]
  rw [port?_source held.sound, ok_bind]
  by_cases port : packet.segment.sourcePort? ≠ some context.remote.port
  · simp only [if_pos port]
  · simp only [if_neg port]

section Restored

variable {block : Block} {inner segment : Bytes}

theorem writePorts_eq (room : 4 ≤ segment.length) :
    writePorts block segment
      = .ok (Wire.overwrite segment 0
        (Wire.encodeWord block.sourcePort ++ Wire.encodeWord block.destinationPort)) := by
  unfold writePorts
  rw [copy_eq (by simp) (by omega), ok_bind, copy_next (by simp) (by simp) (by omega)]

theorem copy_front (room : inner.length ≤ segment.length) :
    copy segment 0 inner.length inner = .ok (Wire.overwrite segment 0 inner) :=
  copy_eq (Nat.zero_add _) room

-- The header is written field by field, and what comes out are the pieces of `withPorts`.
theorem writeRestored_udp (room : 8 + inner.length ≤ segment.length)
    (short : 8 + inner.length ≤ 65535) :
    writeRestored .udp block inner (8 + inner.length) segment
      = .ok ((Tunnel.restore .udp block inner).map (Wire.overwrite segment 0)) := by
  have whole : Wire.encodeWord block.sourcePort ++ Wire.encodeWord block.destinationPort
      ++ Wire.encode 2 (8 + inner.length) ++ List.replicate (8 - 6) 0 ++ inner
        = Tunnel.withPorts block
            ([0, 0, 0, 0] ++ Wire.encode 2 (8 + inner.length) ++ [0, 0] ++ inner) := by
    rw [Tunnel.withPorts_blank]
    simp [List.replicate]
  unfold writeRestored
  rw [if_pos rfl, writePorts_eq (by omega), ok_bind, narrow_eq (by omega), ok_bind,
    encodeWord_narrowed (by omega), copy_next (by simp) (by simp) (by omega), ok_bind,
    fill_next (by simp) (by decide) (by omega), ok_bind,
    copy_next (by simp) (by simp) (by omega), ok_bind, whole]
  rfl

theorem writeRestored_tcp (room : inner.length ≤ segment.length) :
    writeRestored .tcp block inner inner.length segment
      = .ok ((Tunnel.restore .tcp block inner).map (Wire.overwrite segment 0)) := by
  unfold writeRestored Tunnel.restore
  rw [if_neg (by decide), if_pos rfl, if_neg (by decide), if_pos rfl, readTcp_eq, ok_bind]
  cases read : Segment.readTcp inner with
  | error fault => rfl
  | ok found =>
    obtain ⟨rfl, sound⟩ := Segment.readTcp_eq_ok read
    have long : 8 ≤ inner.length := sound.ports (.inr rfl)
    have inside : 0 + (Wire.encodeWord block.sourcePort
        ++ Wire.encodeWord block.destinationPort).length ≤ inner.length := by
      rw [Tunnel.length_ports]
      exact Nat.le_trans (by decide) long
    have kept : (Wire.overwrite segment 0 inner).length = segment.length :=
      Wire.length_overwrite (by rwa [Nat.zero_add])
    dsimp only
    rw [copy_front room, ok_bind, writePorts_eq (by omega), ok_bind]
    exact congrArg (fun bytes => Except.ok (Except.ok bytes))
      (Wire.overwrite_inner (Nat.zero_le _) inside)

theorem writeRestored_echo {protocol : Protocol} (udp : protocol ≠ .udp) (tcp : protocol ≠ .tcp)
    (room : inner.length ≤ segment.length) :
    writeRestored protocol block inner inner.length segment
      = .ok ((Tunnel.restore protocol block inner).map (Wire.overwrite segment 0)) := by
  unfold writeRestored Tunnel.restore
  rw [if_neg udp, if_neg tcp, if_neg udp, if_neg tcp, echoType_eq, ok_bind]
  cases read : Icmp.Message.read .v4 inner with
  | error fault => rfl
  | ok message =>
    have long : 8 ≤ inner.length := (Icmp.Message.read_eq_ok read).1
    dsimp only
    cases message.kind.echo? with
    | none => rfl
    | some echo =>
      have inside : 0 + [echo.type .v6].length ≤ inner.length :=
        Nat.le_trans (by decide : 0 + 1 ≤ 8) long
      have kept : (Wire.overwrite segment 0 inner).length = segment.length :=
        Wire.length_overwrite (by rwa [Nat.zero_add])
      dsimp only
      rw [copy_front room, ok_bind, put_eq (by omega), ok_bind]
      exact congrArg (fun bytes => Except.ok (Except.ok bytes))
        (Wire.overwrite_inner (Nat.zero_le _) inside)

theorem writeRestored_eq (protocol : Protocol) (block : Block) {inner segment : Bytes}
    (room : restoredLength protocol inner ≤ segment.length) (short : 8 + inner.length ≤ 65535) :
    writeRestored protocol block inner (restoredLength protocol inner) segment
      = .ok ((Tunnel.restore protocol block inner).map (Wire.overwrite segment 0)) := by
  unfold restoredLength at room ⊢
  by_cases udp : protocol = .udp
  · subst udp
    exact writeRestored_udp room short
  rw [if_neg udp] at room ⊢
  by_cases tcp : protocol = .tcp
  · subst tcp
    exact writeRestored_tcp room
  · exact writeRestored_echo udp tcp room

end Restored

variable {tunnel : Tunnel} {packet : Packet.V4} {inner buffer : Bytes}

theorem restoreInto_ok {flow : Tunnel.Flow} (held : Held .v4 packet.bytes packet.segment)
    (marked : flow.protocol = .udp ∨ flow.protocol = .tcp ∨ flow.protocol = .icmp6)
    (short : 8 + inner.length ≤ 65535)
    (room : 40 + restoredLength flow.protocol inner ≤ buffer.length)
    (restored : Tunnel.restore flow.protocol flow.block inner = .ok flow.segment) :
    restoreInto tunnel packet flow.protocol flow.block inner buffer
      = .ok (flow.emit tunnel packet.timeToLive buffer) := by
  obtain ⟨kind, named, shape⟩ := (Tunnel.restore_eq_ok marked).mp restored
  have size : flow.segment.length = restoredLength flow.protocol inner := named ▸ shape.length_eq
  have whole : flow.segment.length ≤ Datagram.maxLength := by
    unfold Datagram.maxLength
    rw [size]
    unfold restoredLength
    split <;> omega
  have fits : 40 + flow.segment.length ≤ buffer.length := by omega
  have ready : (flow.plan packet.timeToLive).Ready kind buffer.length :=
    ⟨named, shape.sound short, Tunnel.Flow.carrier named, shape.length_ge, whole, fits⟩
  have rest : (buffer.drop 40).length = buffer.length - 40 := List.length_drop
  have tail : 40 + (Wire.overwrite (buffer.drop 40) 0 flow.segment).length = buffer.length := by
    rw [Wire.length_overwrite (by omega), rest]
    omega
  have finished := finish_eq tunnel.hook tunnel.nextId ready
  unfold restoreInto
  dsimp only
  rw [if_neg (by omega), sliceFrom_eq (by omega), ok_bind,
    writeRestored_eq _ _ (by omega) short, ok_bind, restored]
  dsimp only [Except.map]
  rw [copy_tail tail, ok_bind, overwrite_tail, ← size, edit_eq fits fun _ => ready.long, ok_bind,
    V4.timeToLive_eq held, ok_bind]
  exact congrArg (fun finished : Checked Outcome => finished >>= fun outcome =>
    Except.ok (outcome.announcedBy [flow.line tunnel.context])) finished

theorem restoreInto_eq {protocol : Protocol} {block : Block}
    (held : Held .v4 packet.bytes packet.segment)
    (marked : protocol = .udp ∨ protocol = .tcp ∨ protocol = .icmp6)
    (short : 8 + inner.length ≤ 65535) :
    restoreInto tunnel packet protocol block inner buffer
      = .ok (if buffer.length < 40 + restoredLength protocol inner then
          tunnel.refuse buffer .unframedExceedsBuffer
        else
          match Tunnel.restore protocol block inner with
          | .error cause => tunnel.refuse buffer cause
          | .ok segment => Tunnel.Flow.emit ⟨protocol, block, segment⟩ tunnel packet.timeToLive
              buffer) := by
  by_cases exceeds : buffer.length < 40 + restoredLength protocol inner
  · rw [if_pos exceeds]
    exact if_pos exceeds
  rw [if_neg exceeds]
  cases restored : Tunnel.restore protocol block inner with
  | error cause =>
    have rest : (buffer.drop 40).length = buffer.length - 40 := List.length_drop
    unfold restoreInto
    dsimp only
    rw [if_neg exceeds, sliceFrom_eq (by omega), ok_bind,
      writeRestored_eq protocol block (by omega) short, ok_bind, restored]
    rfl
  | ok segment =>
    have flow : Tunnel.restore (Tunnel.Flow.mk protocol block segment).protocol
        (Tunnel.Flow.mk protocol block segment).block inner
          = .ok (Tunnel.Flow.mk protocol block segment).segment := restored
    exact restoreInto_ok held marked short (Nat.not_lt.mp exceeds) flow

-- The model reads all of the flow first; here the block and the room come before the segment.
theorem unpack_eq (held : Held .v4 packet.bytes packet.segment)
    (udp : packet.segment.kind = .udp) (buffer : Bytes) :
    unpack tunnel packet buffer
      = .ok (match Tunnel.flowOf tunnel.context packet buffer.length with
        | .error cause => tunnel.refuse buffer cause
        | .ok flow => flow.emit tunnel packet.timeToLive buffer) := by
  have header : 8 ≤ packet.segment.bytes.length := held.sound.header udp
  have short := held.short
  unfold unpack Tunnel.flowOf
  rw [V4.dscp_eq held, ok_bind]
  cases marker : Tunnel.Marker.protocol? packet.dscp with
  | none => rfl
  | some protocol =>
    dsimp only
    rw [sliceFrom_eq header, ok_bind, readBlock_eq, ok_bind]
    cases block : Block.read tunnel.context.portOrder (packet.segment.bytes.drop 8) with
    | error fault =>
      simp only [bind, Except.bind]
    | ok found =>
      have carried := Block.read_eq_ok block
      have behind : (packet.segment.bytes.drop 8).drop Block.length
          = packet.segment.bytes.drop (8 + Block.length) := List.drop_drop
      unfold Block.length at carried
      rw [List.length_drop] at carried
      have inner : (packet.segment.bytes.drop (8 + Block.length)).length
          = packet.segment.bytes.length - (8 + Block.length) := List.length_drop
      dsimp only
      rw [sliceFrom_eq (by unfold Block.length; omega), ok_bind,
        restoreInto_eq held (Tunnel.protocol?_eq_some marker) (by unfold Block.length at *; omega)]
      simp only [bind, Except.bind, behind]
      split
      · rfl
      · cases Tunnel.restore protocol found (packet.segment.bytes.drop (8 + Block.length)) <;> rfl

theorem unframe_eq (held : Held .v4 packet.bytes packet.segment) (buffer : Bytes) :
    unframe tunnel packet buffer = .ok (tunnel.unframe packet buffer) := by
  unfold unframe Tunnel.unframe
  rw [checkPeer_eq _ held, ok_bind]
  cases peer : Tunnel.checkPeer tunnel.context packet with
  | error cause => rfl
  | ok passed =>
    obtain ⟨udp, _⟩ := Tunnel.checkPeer_eq_ok.mp peer
    dsimp only
    rw [ToV6.checksumWarnings_eq _ _ held, ok_bind, unpack_eq held udp]
    rfl

theorem decapsulate_eq (tunnel : Tunnel) (data buffer : Bytes) :
    decapsulate tunnel data buffer = .ok (tunnel.decapsulate data buffer) := by
  unfold decapsulate Tunnel.decapsulate
  rw [V4.read_eq, ok_bind]
  cases read : Packet.V4.read data with
  | error fault => rfl
  | ok packet =>
    have held := V4.held read
    dsimp only
    rw [port?_destination held.sound, ok_bind]
    unfold Tunnel.isFramed
    split
    · exact unframe_eq held buffer
    · rw [toV6_eq]
      unfold Nat64.toV6
      rw [read]
      rfl

end Nat64Gateway.Guarded
