import Nat64Gateway.Proofs.Packet.SameOff
import Nat64Gateway.Proofs.Tunnel.Secrecy

namespace Nat64Gateway

open Wire (onField)

structure Outcome.Alike (first second : Outcome) : Prop extends first.Agrees second where
  calls : first.calls = second.calls

structure Outcome.Refused (outcome : Outcome) (nextId : UInt16) (cause : Drop) : Prop where
  verdict : outcome.verdict = .dropped cause
  nextId : outcome.nextId = nextId
  calls : outcome.calls = []

theorem Outcome.Refused.alike {first second : Outcome} {nextId : UInt16} {cause : Drop}
    (refused : first.Refused nextId cause) (refused_too : second.Refused nextId cause) :
    first.Alike second :=
  ⟨agrees_of_dropped refused.verdict refused_too.verdict
      (refused.nextId.trans refused_too.nextId.symm),
    refused.calls.trans refused_too.calls.symm⟩

theorem Outcome.Alike.refl (outcome : Outcome) : outcome.Alike outcome :=
  ⟨⟨rfl, rfl, rfl⟩, rfl⟩

namespace Datagram

structure Placement.SameOff (offset start : Nat) (first second : Placement) : Prop where
  length : first.length = second.length
  calls : first.calls = second.calls
  taken : ∀ length, first.length = .ok length →
    Wire.SameOff (onField offset) (first.taken start length) (second.taken start length)

section Place

variable {hook : Dns64.Hook} {direction? : Option Dns64.Direction} {direction : Dns64.Direction}
  {buffer left right : Bytes} {start : Nat}

-- The checksum of a datagram is part of the header that stays in front of the message.
theorem withMessage_sameOff {message : Bytes} (same : Wire.SameOff (onField 6) left right)
    (header : 8 ≤ left.length) :
    Wire.SameOff (onField 6) (withMessage left message) (withMessage right message) := by
  have front : (left.take 8).length = 8 := List.length_take_of_le header
  apply ((same.take 8).append (.refl _ message)).overwrite
  rw [Wire.length_encode, List.length_append, front]
  omega

theorem message_sameOff (same : Wire.SameOff (onField 6) left right) :
    left.drop 8 = right.drop 8 := by
  apply (same.drop 8).eq
  intro i _ spotted
  unfold onField at spotted
  omega

theorem place_edited_sameOff (same : Wire.SameOff (onField 6) left right) (header : 8 ≤ left.length)
    (fits : start + left.length ≤ buffer.length) :
    (place hook (some direction) buffer start left).SameOff 6 start
      (place hook (some direction) buffer start right) := by
  have header_too : 8 ≤ right.length := same.length ▸ header
  have fits_too : start + right.length ≤ buffer.length := same.length ▸ fits
  have stands : Wire.field (Wire.overwrite buffer start left) start left.length = left :=
    Wire.field_overwrite_self rfl (by omega)
  have stands_too : Wire.field (Wire.overwrite buffer start right) start right.length = right :=
    Wire.field_overwrite_self rfl (by omega)
  have message := message_sameOff same
  -- The hook finds the same room in both runs.
  have answer : edited hook direction (Wire.overwrite buffer start left) start left.length
      = edited hook direction (Wire.overwrite buffer start right) start right.length := by
    rw [edited_placed header fits, edited_placed header_too fits_too, message]
  have length : (place hook (some direction) buffer start left).length
      = (place hook (some direction) buffer start right).length := by
    unfold place
    rw [editMessage_length, editMessage_length, answer, List.length_drop, List.length_drop,
      Wire.length_overwrite fits, Wire.length_overwrite fits_too]
  refine ⟨length, ?_, ?_⟩
  · rw [place_calls header fits, place_calls header_too fits_too, message]
  · intro total placed
    have taken : (place hook (some direction) buffer start left).taken start total = _ :=
      taken_editMessage header stands placed
    have taken_too : (place hook (some direction) buffer start right).taken start total = _ :=
      taken_editMessage header_too stands_too (length.symm.trans placed)
    rw [taken, taken_too, answer]
    exact withMessage_sameOff same header

theorem place_sameOff {kind : Segment.Kind}
    (same : Wire.SameOff (onField kind.protocol.checksumOffset) left right)
    (carrier : direction?.isSome → kind = .udp) (header : 8 ≤ left.length)
    (fits : start + left.length ≤ buffer.length) :
    (place hook direction? buffer start left).SameOff kind.protocol.checksumOffset start
      (place hook direction? buffer start right) := by
  cases direction? with
  | none =>
    have stands : (place hook none buffer start left).taken start left.length = left :=
      Wire.field_overwrite_self rfl (by omega)
    have stands_too : (place hook none buffer start right).taken start left.length = right :=
      Wire.field_overwrite_self same.length.symm (by omega)
    refine ⟨congrArg Except.ok same.length, rfl, ?_⟩
    intro length placed
    cases placed
    rwa [stands, stands_too]
  | some direction =>
    cases carrier rfl
    exact place_edited_sameOff same header fits

end Place
end Datagram

theorem Packet.Header4.packet_sameOff {header : Header4} {kind other : Segment.Kind}
    {left right : Bytes}
    (same : Wire.SameOff (onField header.protocol.checksumOffset) left right) :
    (header.packet kind left).bytes = (header.packet other right).bytes :=
  congrArg (header.closed ++ ·) (Checksum.sealedSegment_sameOff same)

theorem Packet.Header6.packet_sameOff {header : Header6} {kind other : Segment.Kind}
    {left right : Bytes}
    (same : Wire.SameOff (onField header.protocol.checksumOffset) left right) :
    (header.packet kind left).bytes = (header.packet other right).bytes :=
  congrArg (header.encode ++ ·) (Checksum.sealedSegment_sameOff same)

theorem Packet.Header.written_sameOff {family : Family} {header : Header family}
    {kind other : Segment.Kind} {left right : Bytes}
    (same : Wire.SameOff (onField header.protocol.checksumOffset) left right) :
    header.written kind left = header.written other right := by
  cases family with
  | v4 => exact Header4.packet_sameOff same
  | v6 => exact Header6.packet_sameOff same

namespace Nat64

variable {target : Family} {hook : Dns64.Hook}

structure Plan.SameOff (left right : Plan target) : Prop where
  protocol : left.protocol = right.protocol
  message : left.message = right.message
  hops : left.hops = right.hops
  source : left.source = right.source
  destination : left.destination = right.destination
  segment : Wire.SameOff (onField left.protocol.checksumOffset) left.segment right.segment

theorem checksumOffset_icmp (family : Family) :
    (Segment.Kind.icmp family).protocol.checksumOffset = 2 := by
  cases family <;> rfl

theorem convert_likewise {left right : Segment} (source : Family)
    (same : left.SameOff (onField left.protocol.checksumOffset) right) :
    Likewise (fun first second => first.1 = second.1 ∧
      Wire.SameOff (onField first.1.checksumOffset) first.2 second.2) (convert source left)
      (convert source right) := by
  obtain ⟨kind, left⟩ := left
  obtain ⟨right_kind, right⟩ := right
  obtain ⟨rfl, same⟩ := same
  cases kind with
  | udp => exact .accepted _ _ rfl rfl ⟨rfl, same⟩
  | tcp => exact .accepted _ _ rfl rfl ⟨rfl, same⟩
  | icmp family =>
    unfold convert
    refine .check _ _ fun own => ?_
    cases Decidable.not_not.mp own
    have messages : Wire.SameOff (onField 2) left right := checksumOffset_icmp source ▸ same
    cases Icmp.Message.read_likewise source messages with
    | refused fault refused refused_too =>
      simp only [refused, refused_too]
      exact .refused _ rfl rfl
    | accepted first second read read_too found =>
      obtain ⟨meant, long⟩ := found
      simp only [read, read_too, ← meant]
      cases carried? source first.kind with
      | none => exact .refused _ rfl rfl
      | some echo =>
        refine .accepted _ _ rfl rfl ⟨rfl, ?_⟩
        rw [checksumOffset_icmp source.other]
        exact messages.overwrite long

theorem Plan.SameOff.header {left right : Plan target} (same : left.SameOff right)
    (identification : UInt16) (length : Nat) :
    left.header identification length = right.header identification length := by
  cases target <;>
    simp only [Plan.header, same.protocol, same.hops, same.source, same.destination]

theorem Plan.emit_alike (nextId : UInt16) {buffer : Bytes} {left right : Plan target}
    {kind other_kind : Segment.Kind} (ready : left.Ready kind buffer.length)
    (ready_too : right.Ready other_kind buffer.length) (same : left.SameOff right) :
    (left.emit hook nextId buffer).Alike (right.emit hook nextId buffer) := by
  have segments := same.segment
  rw [← ready.named] at segments
  have placed : (left.place hook buffer).SameOff kind.protocol.checksumOffset target.headerLength
      (right.place hook buffer) := by
    unfold place
    rw [← same.message]
    exact Datagram.place_sameOff segments ready.carrier ready.long ready.room
  refine ⟨?_, emit_calls.trans (placed.calls.trans emit_calls.symm)⟩
  have sizes := size_congr placed.length
  cases sized : right.size hook buffer with
  | error cause =>
    rw [emit_refused nextId sized, emit_refused nextId (sizes.trans sized)]
    exact Outcome.agrees_of_dropped rfl rfl rfl
  | ok length =>
    have emission := emission nextId ready (sizes.trans sized)
    have emission_too := Plan.emission nextId ready_too sized
    have taken : Wire.SameOff (onField kind.protocol.checksumOffset)
        (left.taken hook buffer length) (right.taken hook buffer length) :=
      placed.taken length emission.placed.answer
    rw [emission.carries.named] at taken
    refine ⟨emission.verdict.trans emission_too.verdict.symm, ?_,
      emission.nextId_eq.trans emission_too.nextId_eq.symm⟩
    rw [emission.packet_eq, emission_too.packet_eq, ← same.header]
    exact Packet.Header.written_sameOff taken

theorem translate_alike {left right : Except Drop (Plan target)} {buffer : Bytes}
    {known known_too : Plan target → Segment.Kind → Prop} (nextId : UInt16)
    (warnings warnings_too : List Log.Line) (text text_too : String)
    (prepared : Prepared left known buffer.length)
    (prepared_too : Prepared right known_too buffer.length)
    (likewise : Likewise Plan.SameOff left right) :
    (translate hook nextId warnings text left buffer).Alike
      (translate hook nextId warnings_too text_too right buffer) := by
  cases likewise with
  | refused cause refused refused_too =>
    rw [refused, refused_too]
    exact Outcome.Refused.alike ⟨rfl, rfl, rfl⟩ ⟨rfl, rfl, rfl⟩
  | accepted first second decided decided_too plans =>
    obtain ⟨_, _, ready⟩ := prepared first decided
    obtain ⟨_, _, ready_too⟩ := prepared_too second decided_too
    have alike : (first.emit hook nextId buffer).Alike (second.emit hook nextId buffer) :=
      Plan.emit_alike nextId ready ready_too plans
    rw [decided, decided_too]
    exact ⟨⟨alike.verdict, alike.packet, alike.nextId⟩, alike.calls⟩

namespace ToV4

variable {context : Context}

theorem isQuery_sameOff {left right : Segment} {spots : Nat → Prop}
    (same : left.SameOff spots right) (checksums : left.kind.Checksums spots) :
    isQuery left = isQuery right := by
  obtain ⟨_, destination⟩ := same.ports checksums
  unfold isQuery
  rw [destination, same.kind]

theorem plan_likewise {left right : Packet.V6} (capacity : Nat)
    (same : left.SameOff (onField left.segment.protocol.checksumOffset) right) :
    Likewise Plan.SameOff (plan context left capacity) (plan context right capacity) := by
  have query := isQuery_sameOff same.segment left.segment.kind.checksums_own
  unfold plan
  simp only [bind, Except.bind]
  cases convert_likewise .v6 same.segment with
  | refused cause refused refused_too =>
    rw [refused, refused_too]
    exact .refused cause rfl rfl
  | accepted first second converted converted_too segments =>
    obtain ⟨protocol, segment⟩ := first
    obtain ⟨_, other_segment⟩ := second
    obtain ⟨rfl, segments⟩ := segments
    rw [converted, converted_too, ← same.destination]
    cases context.nat64.embedded? left.destination with
    | none => exact .refused _ rfl rfl
    | some destination =>
      cases decided : sourceFor context destination with
      | error cause =>
        simp only [decided]
        exact .refused cause rfl rfl
      | ok source =>
        simp only [decided, ← segments.length]
        refine .check _ _ fun _ => ?_
        exact .accepted _ _ rfl rfl ⟨rfl, by rw [query], same.hopLimit, rfl, rfl, segments⟩

theorem run_alike (nextId : UInt16) {left right : Packet.V6} (buffer : Bytes)
    (whole : left.segment.Sound) (whole_too : right.segment.Sound)
    (short : left.segment.bytes.length ≤ Datagram.maxLength)
    (same : left.SameOff (onField left.segment.protocol.checksumOffset) right) :
    (run context hook nextId left buffer).Alike (run context hook nextId right buffer) :=
  translate_alike nextId _ _ _ _ (prepared whole short)
    (prepared whole_too (same.segment.bytes.length ▸ short)) (plan_likewise buffer.length same)

end ToV4

namespace ToV6

variable {context : Context}

theorem isResponse_sameOff {left right : Segment} {spots : Nat → Prop}
    (same : left.SameOff spots right) (checksums : left.kind.Checksums spots) :
    isResponse left = isResponse right := by
  obtain ⟨source, _⟩ := same.ports checksums
  unfold isResponse
  rw [source, same.kind]

theorem plan_likewise {left right : Packet.V4} (capacity : Nat)
    (same : left.SameOff (onField left.segment.protocol.checksumOffset) right) :
    Likewise Plan.SameOff (plan context left capacity) (plan context right capacity) := by
  have response := isResponse_sameOff same.segment left.segment.kind.checksums_own
  obtain ⟨_, port⟩ := same.segment.ports left.segment.kind.checksums_own
  unfold plan
  simp only [bind, Except.bind]
  cases convert_likewise .v4 same.segment with
  | refused cause refused refused_too =>
    rw [refused, refused_too]
    exact .refused cause rfl rfl
  | accepted first second converted converted_too segments =>
    obtain ⟨protocol, segment⟩ := first
    obtain ⟨_, other_segment⟩ := second
    obtain ⟨rfl, segments⟩ := segments
    rw [converted, converted_too, ← same.destination, ← port]
    simp only [← segments.length]
    refine .check _ _ fun _ => ?_
    cases destinationFor context left.destination left.segment.destinationPort? with
    | error cause => exact .refused cause rfl rfl
    | ok destination =>
      exact .accepted _ _ rfl rfl
        ⟨rfl, by rw [response], same.timeToLive, by rw [same.source], rfl, segments⟩

theorem run_alike (nextId : UInt16) {left right : Packet.V4} (buffer : Bytes)
    (whole : left.segment.Sound) (whole_too : right.segment.Sound)
    (short : left.segment.bytes.length ≤ Datagram.maxLength)
    (same : left.SameOff (onField left.segment.protocol.checksumOffset) right) :
    (run context hook nextId left buffer).Alike (run context hook nextId right buffer) :=
  translate_alike nextId _ _ _ _ (prepared whole short)
    (prepared whole_too (same.segment.bytes.length ▸ short)) (plan_likewise buffer.length same)

end ToV6
end Nat64
end Nat64Gateway
