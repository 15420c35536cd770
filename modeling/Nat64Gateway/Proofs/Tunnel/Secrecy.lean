import Nat64Gateway.Proofs.Tunnel.Consultation

namespace Nat64Gateway

theorem Outcome.drop_of_front {outcome : Outcome} {front rest : Bytes} {n : Nat}
    (buffer_eq : outcome.buffer = front ++ rest) (total : front.length = n) :
    outcome.buffer.drop n = rest := by
  rw [buffer_eq]
  exact List.drop_left' total

-- Without the hook nothing is written behind the segment.
theorem Datagram.place_rest {hook : Dns64.Hook} {direction? : Option Dns64.Direction}
    {buffer segment : Bytes} {start length : Nat} (fits : start + segment.length ≤ buffer.length)
    (unasked : (place hook direction? buffer start segment).calls = [])
    (placed : (place hook direction? buffer start segment).length = .ok length) :
    (place hook direction? buffer start segment).buffer.drop (start + length)
      = buffer.drop (start + length) := by
  obtain ⟨_, silent⟩ := place_unasked unasked
  rw [silent] at placed ⊢
  cases placed
  exact Wire.drop_overwrite_of_ge (Nat.le_refl _) fits

-- The packet takes the front of the buffer, and the rest is as it was.
structure Outcome.Leaves (outcome : Outcome) (buffer : Bytes) (n : Nat) : Prop where
  inside : n ≤ buffer.length
  rest : outcome.buffer.drop n = buffer.drop n

namespace Nat64

variable {target : Family} {hook : Dns64.Hook} {nextId : UInt16} {buffer : Bytes} {n : Nat}

theorem Plan.emit_leaves {plan : Plan target} {kind : Segment.Kind}
    (ready : plan.Ready kind buffer.length)
    (emitted : (plan.emit hook nextId buffer).verdict = .emitted n)
    (unasked : (plan.emit hook nextId buffer).calls = []) :
    (plan.emit hook nextId buffer).Leaves buffer n := by
  obtain ⟨length, rfl, emission⟩ := emit_emitted ready emitted
  rw [emit_calls] at unasked
  refine ⟨emission.placed.inside, ?_⟩
  rw [Outcome.drop_of_front emission.buffer_eq emission.length_front]
  exact Datagram.place_rest ready.room unasked emission.placed.answer

theorem translate_leaves {warnings : List Log.Line} {text : String}
    {planned : Except Drop (Plan target)} {known : Plan target → Segment.Kind → Prop}
    (prepared : Prepared planned known buffer.length)
    (emitted : (translate hook nextId warnings text planned buffer).verdict = .emitted n)
    (unasked : (translate hook nextId warnings text planned buffer).calls = []) :
    (translate hook nextId warnings text planned buffer).Leaves buffer n := by
  obtain ⟨plan, rfl, verdict⟩ := translate_emitted emitted
  obtain ⟨_, _, ready⟩ := prepared plan rfl
  obtain ⟨inside, rest⟩ := Plan.emit_leaves ready verdict unasked
  exact ⟨inside, rest⟩

end Nat64

namespace Tunnel

variable {tunnel : Tunnel} {data buffer : Bytes} {n : Nat}

theorem encapsulate_leaves (emitted : (tunnel.encapsulate data buffer).verdict = .emitted n)
    (unasked : (tunnel.encapsulate data buffer).calls = []) :
    (tunnel.encapsulate data buffer).Leaves buffer n := by
  obtain ⟨original, read, form⟩ := encapsulate_emitted emitted
  obtain ⟨_, whole, short, _⟩ := Packet.V6.segment_of_read read
  cases form with
  | plain bypass same =>
    rw [same] at emitted unasked ⊢
    exact Nat64.translate_leaves (Nat64.ToV4.prepared whole short) emitted unasked
  | framed host known tunneled same =>
    rw [same] at emitted unasked ⊢
    rw [frame_calls] at unasked
    obtain ⟨⟨length, verdict⟩, framed⟩ :=
      frame_emitted (fun _ verdict => plainOut_complete read verdict) emitted
    have plain : (tunnel.plainOut original buffer).Leaves buffer length :=
      Nat64.translate_leaves (Nat64.ToV4.prepared whole short) verdict unasked
    -- The frame reaches beyond the plain packet that it is made of.
    obtain ⟨front, size⟩ := plainOut_complete read verdict
    have longer : length ≤ n := by
      have total := framed.total
      have start := innerStart_add_framing original.segment.protocol
      simp only [outerHeader, List.length_drop, size] at total
      unfold Endpoint.Block.length at total
      omega
    have kept := plainOut_length_buffer tunnel buffer read
    refine ⟨kept ▸ framed.fits, ?_⟩
    rw [Outcome.drop_of_front framed.buffer_eq framed.length_packet,
      ← Nat.add_sub_cancel' longer, ← List.drop_drop, plain.rest, List.drop_drop]

theorem decapsulate_leaves (emitted : (tunnel.decapsulate data buffer).verdict = .emitted n)
    (unasked : (tunnel.decapsulate data buffer).calls = []) :
    (tunnel.decapsulate data buffer).Leaves buffer n := by
  obtain ⟨outer, read, form⟩ := decapsulate_emitted emitted
  obtain ⟨_, whole, short⟩ := Packet.V4.segment_of_read read
  cases form with
  | plain unframed same =>
    rw [same] at emitted unasked ⊢
    exact Nat64.translate_leaves (Nat64.ToV6.prepared whole short) emitted unasked
  | framed framed peer flow kind length unframed =>
    rw [decapsulate_framed read framed, unframe_eq peer (flowOf_eq_ok.mpr ⟨kind, unframed⟩)]
      at emitted unasked ⊢
    obtain ⟨inside, rest⟩ := Nat64.Plan.emit_leaves (unframed.ready read) emitted unasked
    exact ⟨inside, rest⟩

theorem stale_bytes_unseen (tunnel : Tunnel) (data buffer : Bytes) :
    (tunnel.hook.Local → ∀ other : Bytes, other.length = buffer.length →
        (tunnel.encapsulate data buffer).Agrees (tunnel.encapsulate data other) ∧
          (tunnel.decapsulate data buffer).Agrees (tunnel.decapsulate data other)) ∧
      (∀ n, (tunnel.encapsulate data buffer).verdict = .emitted n →
        (tunnel.encapsulate data buffer).calls = [] →
          (tunnel.encapsulate data buffer).Leaves buffer n) ∧
      (∀ n, (tunnel.decapsulate data buffer).verdict = .emitted n →
        (tunnel.decapsulate data buffer).calls = [] →
          (tunnel.decapsulate data buffer).Leaves buffer n) := by
  refine ⟨?_, fun _ => encapsulate_leaves, fun _ => decapsulate_leaves⟩
  intro faithful other same
  exact ⟨encapsulate_agrees faithful data same.symm, decapsulate_agrees faithful data same.symm⟩

-- The service that adds a byte leaves the rest of the room alone, also where there is none.
theorem appending_local : appending.Local := by
  refine ⟨fun _ _ _ _ _ _ => rfl, ?_⟩
  intro _ room other length rooms message fits
  have inside : length < room.length := fits
  have inside_other : length < other.length := rooms ▸ inside
  have front : ∀ bytes : Bytes, length < bytes.length →
      (Wire.overwrite bytes length [0]).take (length + 1) = bytes.take length ++ [0] := by
    intro bytes long
    unfold Wire.overwrite
    rw [List.take_left' (by rw [Wire.length_take_append _ (Nat.le_of_lt long)]; rfl)]
  simp only [appending, if_pos inside, if_pos inside_other, front room inside,
    front other inside_other, message]

-- A query that is made longer, in buffers full of ones and of nines, and a datagram in front of the
-- nines.
theorem stale_bytes_unseen_loop :
    ((loop.meeting appending).encapsulate query (List.replicate 80 1)).Agrees
        ((loop.meeting appending).encapsulate query (List.replicate 80 9)) ∧
      (loop.encapsulate datagram (List.replicate 80 9)).buffer.drop 65 = List.replicate 15 9 := by
  obtain ⟨unseen, _⟩ :=
    stale_bytes_unseen (loop.meeting appending) query (List.replicate 80 1)
  obtain ⟨_, kept, _⟩ := stale_bytes_unseen loop datagram (List.replicate 80 9)
  exact ⟨(unseen appending_local (List.replicate 80 9) (by rfl)).1,
    (kept 65 (by rfl) (by rfl)).rest⟩

end Tunnel
end Nat64Gateway
