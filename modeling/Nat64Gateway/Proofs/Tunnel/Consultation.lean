import Nat64Gateway.Proofs.Consultation
import Nat64Gateway.Proofs.Tunnel.Admission
import Nat64Gateway.Proofs.Tunnel.Scratch

namespace Nat64Gateway

namespace Nat64

theorem ToV4.isQuery_iff {segment : Segment} :
    isQuery segment ↔ segment.kind = .udp ∧ Wire.word segment.bytes 2 = Dns64.port := by
  obtain ⟨kind, bytes⟩ := segment
  unfold isQuery Segment.destinationPort?
  cases kind <;> simp

theorem ToV4.run_consults {context : Context} (nextId : UInt16) {packet : Packet.V6}
    {buffer : Bytes} (whole : packet.segment.Sound)
    (short : packet.segment.bytes.length ≤ Datagram.maxLength) (hook : Dns64.Hook) :
    Consults .query
      (if isQuery packet.segment then some ⟨28, packet.segment.bytes.drop 8⟩ else none) buffer
      (fun hook => run context hook nextId packet buffer) hook := by
  refine translate_consults nextId _ _ (prepared whole short) (fun _ _ planned => planned.message)
    ?_ hook
  intro plan kind planned query
  rw [(planned.converted.same_of_ports (.inl (isQuery_iff.mp query).1)).2]

theorem ToV6.isResponse_iff {segment : Segment} :
    isResponse segment ↔ segment.kind = .udp ∧ Wire.word segment.bytes 0 = Dns64.port := by
  obtain ⟨kind, bytes⟩ := segment
  unfold isResponse Segment.sourcePort?
  cases kind <;> simp

theorem ToV6.run_consults {context : Context} (nextId : UInt16) {packet : Packet.V4}
    {buffer : Bytes} (whole : packet.segment.Sound)
    (short : packet.segment.bytes.length ≤ Datagram.maxLength) (hook : Dns64.Hook) :
    Consults .response
      (if isResponse packet.segment then some ⟨48, packet.segment.bytes.drop 8⟩ else none) buffer
      (fun hook => run context hook nextId packet buffer) hook := by
  refine translate_consults nextId _ _ (prepared whole short) (fun _ _ planned => planned.message)
    ?_ hook
  intro plan kind planned response
  rw [(planned.converted.same_of_ports (.inl (isResponse_iff.mp response).1)).2]

end Nat64

namespace Tunnel

-- The DNS message of a packet on its way out, if its last port is the one of DNS.
def query? (context : Context) (data : Bytes) : Option Dns64.Message :=
  match Packet.V6.read data with
  | .error _ => none
  | .ok original =>
    if original.segment.kind = .udp ∧ Wire.word original.segment.bytes 2 = Dns64.port then
      some ⟨if bypasses context original.segment then 28 else 64, original.segment.bytes.drop 8⟩
    else none

-- The DNS message of a framed packet follows the block, which has its ports.
def framedResponse? (context : Context) (outer : Packet.V4) : Option Dns64.Message :=
  match Endpoint.Block.read context.portOrder (carried outer) with
  | .error _ => none
  | .ok block =>
    if outer.dscp = 0 ∧ block.sourcePort = Dns64.port then some ⟨48, innerOf outer⟩ else none

def response? (context : Context) (data : Bytes) : Option Dns64.Message :=
  match Packet.V4.read data with
  | .error _ => none
  | .ok outer =>
    if isFramed context outer.segment then framedResponse? context outer
    else if outer.segment.kind = .udp ∧ Wire.word outer.segment.bytes 0 = Dns64.port then
      some ⟨48, outer.segment.bytes.drop 8⟩
    else none

section Unframed

variable {context : Context} {packet : Packet.V4} {capacity : Nat} {flow : Flow}
  {kind : Segment.Kind}

theorem Unframed.udp_iff (unframed : Unframed context packet capacity flow kind) :
    flow.protocol = .udp ↔ packet.dscp = 0 := by
  obtain ⟨zero, named⟩ | ⟨six, named⟩ | ⟨other, named⟩ := protocol?_iff.mp unframed.marker
  · exact ⟨fun _ => UInt8.toNat_inj.mp zero, fun _ => named⟩
  · rw [named, ← UInt8.toNat_inj, six]
    decide
  · rw [named, ← UInt8.toNat_inj, other]
    decide

-- The message of a restored datagram is all that followed the block.
theorem Restored.message_eq {block : Endpoint.Block} {inner segment : Bytes}
    (restored : Restored block inner kind segment) (udp : kind.protocol = .udp) :
    segment.drop 8 = inner := by
  cases restored with
  | udp =>
    rw [withPorts_blank]
    rfl
  | tcp => cases udp
  | echo => cases udp

theorem Unframed.framedResponse?_eq (unframed : Unframed context packet capacity flow kind) :
    framedResponse? context packet
      = if flow.protocol = .udp ∧ flow.block.sourcePort = Dns64.port then
          some ⟨48, flow.segment.drop 8⟩
        else none := by
  unfold framedResponse?
  simp only [unframed.block, ← unframed.udp_iff]
  by_cases carries : flow.protocol = .udp ∧ flow.block.sourcePort = Dns64.port
  · rw [if_pos carries, if_pos carries,
      unframed.restored.message_eq (unframed.named.trans carries.1)]
  · rw [if_neg carries, if_neg carries]

end Unframed

theorem unframe_consults {tunnel : Tunnel} {data buffer : Bytes} {packet : Packet.V4}
    (read : Packet.V4.read data = .ok packet) (hook : Dns64.Hook) :
    Consults .response (framedResponse? tunnel.context packet) buffer
      (fun hook => (tunnel.meeting hook).unframe packet buffer) hook := by
  cases peer : checkPeer tunnel.context packet with
  | error cause =>
    have refused : ∀ hook, (tunnel.meeting hook).unframe packet buffer
        = tunnel.refuse buffer cause := by
      intro hook
      unfold unframe meeting
      simp only [peer]
      rfl
    exact .of_dropped refused rfl rfl
  | ok passed =>
    cases found : flowOf tunnel.context packet buffer.length with
    | error cause =>
      have refused : ∀ hook, (tunnel.meeting hook).unframe packet buffer
          = (tunnel.refuse buffer cause).precededBy
              (Nat64.ToV6.checksumWarnings .tunnel "Decapsulating" packet) := by
        intro hook
        unfold unframe meeting
        simp only [peer, found]
        rfl
      exact .of_dropped refused rfl rfl
    | ok flow =>
      obtain ⟨kind, unframed⟩ := flowOf_eq_ok.mp found
      have same : (fun hook => (tunnel.meeting hook).unframe packet buffer)
          = fun hook => (flow.emit (tunnel.meeting hook) packet.timeToLive buffer).precededBy
              (Nat64.ToV6.checksumWarnings .tunnel "Decapsulating" packet) :=
        funext fun hook => unframe_eq peer found
      rw [unframed.framedResponse?_eq, same]
      have writes : Writes .response (flow.protocol = .udp ∧ flow.block.sourcePort = Dns64.port)
          buffer flow.segment _ := Nat64.Plan.writes_emit tunnel.nextId (unframed.ready read) rfl
      exact (writes.relog fun outcome => Nat64.ToV6.checksumWarnings .tunnel "Decapsulating" packet
        ++ (outcome.announcedBy [flow.line tunnel.context]).log).consults hook

theorem decapsulate_consults (tunnel : Tunnel) (data buffer : Bytes) (hook : Dns64.Hook) :
    Consults .response (response? tunnel.context data) buffer
      (fun hook => (tunnel.meeting hook).decapsulate data buffer) hook := by
  unfold response?
  cases read : Packet.V4.read data with
  | error fault =>
    have refused : ∀ hook, (tunnel.meeting hook).decapsulate data buffer
        = tunnel.refuse buffer (.unreadable fault) := by
      intro hook
      unfold decapsulate
      rw [read]
      rfl
    exact .of_dropped refused rfl rfl
  | ok packet =>
    obtain ⟨_, whole, short⟩ := Packet.V4.segment_of_read read
    dsimp only
    cases framed : isFramed tunnel.context packet.segment with
    | true =>
      have same : (fun hook => (tunnel.meeting hook).decapsulate data buffer)
          = fun hook => (tunnel.meeting hook).unframe packet buffer :=
        funext fun hook => decapsulate_framed read framed
      rw [if_pos rfl, same]
      exact unframe_consults read hook
    | false =>
      have same : (fun hook => (tunnel.meeting hook).decapsulate data buffer)
          = fun hook => Nat64.ToV6.run tunnel.context hook tunnel.nextId packet buffer :=
        funext fun hook => decapsulate_plain read framed
      simp only [Bool.false_eq_true, if_false, ← Nat64.ToV6.isResponse_iff]
      rw [same]
      exact Nat64.ToV6.run_consults tunnel.nextId whole short hook

section Frame

variable {tunnel : Tunnel} {host : Address.V4} {original : Packet.V6} {plain outcome : Outcome}

theorem frame_calls : (tunnel.frame host original plain).calls = plain.calls := by
  unfold frame
  split
  · rfl
  · dsimp only
    split <;> rfl

theorem frame_dropped {cause : Drop} (dropped : plain.verdict = .dropped cause) :
    tunnel.frame host original plain = plain := by
  unfold frame
  rw [dropped]

-- What was framed lies behind two headers and the block.
theorem Framed.drop_packet {inner : Bytes} {n : Nat}
    (framed : Framed tunnel host original inner plain outcome n) :
    outcome.packet.drop 64 = inner := by
  have behind := framed.carries.drop_packet
  rw [drop_outerSegment, ← framed.packet_eq] at behind
  have inside := congrArg (List.drop Endpoint.Block.length) behind
  rwa [List.drop_drop, List.drop_left' (Endpoint.Block.length_encode ..)] at inside

-- A frame adds 36 bytes to a query, wherever the hook's answer has left its end.
theorem frame_query_iff {data buffer : Bytes} {size : Nat}
    (read : Packet.V6.read data = .ok original) (udp : original.segment.kind = .udp)
    (accepted : ∀ n, (tunnel.plainOut original buffer).verdict = .emitted n ↔
      n = 28 + size ∧ n ≤ min buffer.length Datagram.maxLength) (n : Nat) :
    (tunnel.frame host original (tunnel.plainOut original buffer)).verdict = .emitted n ↔
      n = 64 + size ∧ n ≤ min buffer.length Datagram.maxLength := by
  rw [frame_iff read, framing_eq, if_pos udp]
  simp only [accepted, Nat.le_min]
  constructor
  · rintro ⟨_, ⟨rfl, _⟩, rfl, fits, most⟩
    exact ⟨by omega, fits, most⟩
  · rintro ⟨rfl, fits, most⟩
    exact ⟨28 + size, ⟨rfl, by omega, by omega⟩, by omega, fits, most⟩

theorem frame_query_packet {data buffer : Bytes} {n : Nat}
    (read : Packet.V6.read data = .ok original) (udp : original.segment.kind = .udp)
    (emitted : (tunnel.frame host original (tunnel.plainOut original buffer)).verdict = .emitted n) :
    (tunnel.frame host original (tunnel.plainOut original buffer)).packet.length = n ∧
      Dns64.Direction.Restated .query
        (tunnel.frame host original (tunnel.plainOut original buffer)).packet ∧
      (tunnel.frame host original (tunnel.plainOut original buffer)).packet.drop 64
        = (tunnel.plainOut original buffer).packet.drop 28 := by
  obtain ⟨_, framed⟩ := frame_emitted (fun _ verdict => plainOut_complete read verdict) emitted
  have start : innerStart original.segment.protocol = 28 := by
    unfold Segment.protocol
    rw [udp]
    rfl
  have behind := framed.drop_packet
  rw [start] at behind
  refine ⟨?_, ?_, behind⟩
  · rw [framed.packet_eq, framed.length_packet]
  · rw [framed.packet_eq]
    exact restated_of_carries4 framed.carries

theorem frame_consults {data buffer : Bytes} (read : Packet.V6.read data = .ok original)
    (hook : Dns64.Hook) :
    Consults .query
      (if Nat64.ToV4.isQuery original.segment then some ⟨64, original.segment.bytes.drop 8⟩
        else none) buffer
      (fun hook =>
        (tunnel.meeting hook).frame host original ((tunnel.meeting hook).plainOut original buffer))
      hook := by
  obtain ⟨_, whole, short, _⟩ := Packet.V6.segment_of_read read
  have plain : Consults .query
      (if Nat64.ToV4.isQuery original.segment then some ⟨28, original.segment.bytes.drop 8⟩
        else none) buffer (fun hook => (tunnel.meeting hook).plainOut original buffer) hook :=
    Nat64.ToV4.run_consults tunnel.nextId whole short hook
  -- Framing does not call the hook again, so it can only tell two hooks apart by the plain packet.
  have congr : ∀ other : Dns64.Hook, (tunnel.meeting other).plainOut original buffer
        = (tunnel.meeting hook).plainOut original buffer →
      (tunnel.meeting other).frame host original ((tunnel.meeting other).plainOut original buffer)
        = (tunnel.meeting hook).frame host original
            ((tunnel.meeting hook).plainOut original buffer) := by
    intro other same
    rw [same]
    rfl
  by_cases query : Nat64.ToV4.isQuery original.segment
  · have udp := (Nat64.ToV4.isQuery_iff.mp query).1
    simp only [if_pos query] at plain ⊢
    cases plain with
    | unasked calls idle same =>
      obtain ⟨cause, dropped⟩ := idle.resolve_left nofun
      refine .unasked (frame_calls.trans calls) (.inr ⟨cause, ?_⟩)
        fun other => congr other (same other)
      rw [frame_dropped dropped, dropped]
    | asked message carried room calls accepted result same =>
      cases carried
      refine .asked ⟨64, original.segment.bytes.drop 8⟩ rfl room (frame_calls.trans calls)
        (frame_query_iff read udp accepted) ?_ fun other answers => congr other (same other answers)
      intro n emitted
      obtain ⟨length, left, _⟩ := (frame_iff read).mp emitted
      obtain ⟨total, restated, behind⟩ := frame_query_packet read udp emitted
      exact ⟨total, restated, behind.trans (result length left).2.2⟩
  · simp only [if_neg query] at plain ⊢
    cases plain with
    | unasked calls _ same =>
      exact .unasked (frame_calls.trans calls) (.inl rfl) fun other => congr other (same other)
    | asked message carried => cases carried

end Frame

-- A packet from a relayed port, once the host has an address.
theorem encapsulate_tunneled {tunnel : Tunnel} {data : Bytes} (buffer : Bytes)
    {original : Packet.V6} {host : Address.V4} (read : Packet.V6.read data = .ok original)
    (tunneled : bypasses tunnel.context original.segment = false)
    (known : tunnel.context.host = some host) :
    tunnel.encapsulate data buffer
      = if buffer.length < 20 + original.segment.bytes.length + framing original.segment.protocol
        then tunnel.refuse buffer .framedExceedsBuffer
        else tunnel.frame host original (tunnel.plainOut original buffer) := by
  unfold encapsulate
  simp only [read, tunneled, known, Bool.false_eq_true, if_false]

theorem encapsulate_consults (tunnel : Tunnel) (data buffer : Bytes) (hook : Dns64.Hook) :
    Consults .query (query? tunnel.context data) buffer
      (fun hook => (tunnel.meeting hook).encapsulate data buffer) hook := by
  unfold query?
  cases read : Packet.V6.read data with
  | error fault =>
    have refused : ∀ hook, (tunnel.meeting hook).encapsulate data buffer
        = tunnel.refuse buffer (.unreadable fault) := by
      intro hook
      unfold encapsulate
      rw [read]
      rfl
    exact .of_dropped refused rfl rfl
  | ok original =>
    obtain ⟨_, whole, short, _⟩ := Packet.V6.segment_of_read read
    simp only [← Nat64.ToV4.isQuery_iff]
    cases bypass : bypasses tunnel.context original.segment with
    | true =>
      have same : (fun hook => (tunnel.meeting hook).encapsulate data buffer)
          = fun hook => Nat64.ToV4.run tunnel.context hook tunnel.nextId original buffer :=
        funext fun hook => encapsulate_plain read bypass
      rw [same]
      exact Nat64.ToV4.run_consults tunnel.nextId whole short hook
    | false =>
      cases known : tunnel.context.host with
      | none =>
        have refused : ∀ hook, (tunnel.meeting hook).encapsulate data buffer
            = tunnel.refuse buffer .flowNeedsHost := by
          intro hook
          unfold encapsulate meeting
          simp only [read, bypass, known, Bool.false_eq_true, if_false]
          rfl
        exact .of_dropped refused rfl rfl
      | some host =>
        have same : ∀ hook, (tunnel.meeting hook).encapsulate data buffer = _ :=
          fun hook => encapsulate_tunneled buffer read bypass known
        by_cases room : buffer.length < 20 + original.segment.bytes.length
            + framing original.segment.protocol
        · have refused : ∀ hook, (tunnel.meeting hook).encapsulate data buffer
              = tunnel.refuse buffer .framedExceedsBuffer :=
            fun hook => (same hook).trans (if_pos room)
          exact .of_dropped refused rfl rfl
        · have framed := funext fun hook => (same hook).trans (if_neg room)
          rw [framed]
          exact frame_consults read hook

theorem consults_both_ways (tunnel : Tunnel) (data buffer : Bytes) (hook : Dns64.Hook) :
    Consults .query (query? tunnel.context data) buffer
        (fun hook => (tunnel.meeting hook).encapsulate data buffer) hook ∧
      Consults .response (response? tunnel.context data) buffer
        (fun hook => (tunnel.meeting hook).decapsulate data buffer) hook :=
  ⟨tunnel.encapsulate_consults data buffer hook, tunnel.decapsulate_consults data buffer hook⟩

end Tunnel
end Nat64Gateway
