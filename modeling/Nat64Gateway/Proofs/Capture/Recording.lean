import Mathlib.Data.List.Induction
import Nat64Gateway.Capture
import Nat64Gateway.Proofs.Capture.Reading

namespace Nat64Gateway.Capture

-- What the file keeps of a packet: 32 bits of every number, and 1500 bytes.
def entry (sent : Time × Bytes) : Record where
  time := ⟨sent.1.seconds % 2 ^ 32, sent.1.nanoseconds % 2 ^ 32⟩
  length := sent.2.length % 2 ^ 32
  captured := sent.2.take snapshotLength

theorem readFile?_sent (sent : List (Time × Bytes)) :
    readFile? (file (sent.map fun (time, packet) => .ofPacket time packet))
      = some (sent.map entry) := by
  rw [readFile?_file, List.map_map]
  · rfl
  · intro record member
    obtain ⟨⟨time, packet⟩, _, rfl⟩ := List.mem_map.mp member
    exact Nat.lt_of_le_of_lt (List.length_take_le ..) (by decide)

def Event.sender? : Event → Option Nat
  | .send index _ _ => some index
  | .clone index => some index
  | .receive | .close => none

namespace State

def HasRoom (state : State) : Prop :=
  state.isOpen = true ∧ state.queue.length < queueLimit

instance (state : State) : Decidable state.HasRoom :=
  inferInstanceAs (Decidable (_ ∧ _))

structure Rejects (state : State) (index : Nat) (packet : Bytes) : Prop where
  known : index < state.senders.length
  filled : packet ≠ []
  full : ¬state.HasRoom

def accepted? (state : State) : Event → Option (Time × Bytes)
  | .send index (some time) packet =>
    if index < state.senders.length ∧ packet ≠ [] ∧ state.HasRoom then some (time, packet) else none
  | _ => none

def written? (state : State) : Event → Option Record
  | .receive => state.queue.head?
  | _ => none

-- What is seen of the events of a run, in order.
def along {α : Type} (seen? : State → Event → Option α) (state : State) : List Event → List α
  | [] => []
  | event :: later => (seen? state event).toList ++ along seen? (state.step event).1 later

theorem loss?_eq_none (state : State) : state.loss? = none ↔ state.HasRoom := by
  unfold loss? HasRoom
  cases state.isOpen with
  | false => simp
  | true =>
    by_cases full : queueLimit ≤ state.queue.length
    · simp [full]
    · simp [full, Nat.not_le.mp full]

inductive Stepped (state : State) : Event → State × List Log.Line → Prop where
  | accepted {index : Nat} {time : Time} {packet : Bytes} (known : index < state.senders.length)
      (filled : packet ≠ []) (room : state.HasRoom) :
      Stepped state (.send index (some time) packet)
        ({ state with queue := state.queue ++ [.ofPacket time packet] }, [])
  | rejected {index : Nat} {time : Time} {packet : Bytes} {sender : Sender} {loss : Loss}
      (found : state.senders[index]? = some sender) (rejects : state.Rejects index packet) :
      Stepped state (.send index (some time) packet)
        ({ state with senders := state.senders.set index ⟨true⟩ }, report sender loss)
  | passed {index : Nat} {time? : Option Time} {packet : Bytes} {lines : List Log.Line}
      (nothing : time?.isSome → index < state.senders.length → packet = [])
      (calm : ∀ line ∈ lines, line.level ≠ .error) :
      Stepped state (.send index time? packet) (state, lines)
  | copied {index : Nat} {sender : Sender} (found : state.senders[index]? = some sender) :
      Stepped state (.clone index) ({ state with senders := state.senders ++ [sender] }, [])
  | missing {index : Nat} (unknown : ¬index < state.senders.length) :
      Stepped state (.clone index) (state, [])
  | written {record : Record} {queue : List Record} (waiting : state.queue = record :: queue) :
      Stepped state .receive ({ state with queue, file := state.file ++ record.encode }, [])
  | idle (empty : state.queue = []) : Stepped state .receive (state, [])
  | closed : Stepped state .close ({ state with isOpen := false, queue := [] }, [])

theorem stepped_send (state : State) (index : Nat) (time? : Option Time) (packet : Bytes) :
    Stepped state (.send index time? packet) (state.send index time? packet) := by
  unfold send
  by_cases empty : packet = []
  · rw [if_pos empty]
    exact .passed (fun _ _ => empty) nofun
  rw [if_neg empty]
  cases found : state.senders[index]? with
  | none =>
    have unknown : state.senders.length ≤ index := List.getElem?_eq_none_iff.mp found
    exact .passed (fun _ known => absurd known (Nat.not_lt.mpr unknown)) nofun
  | some sender =>
    obtain ⟨known, _⟩ := List.getElem?_eq_some_iff.mp found
    cases time? with
    | none =>
      refine .passed nofun ?_
      intro line member
      rw [List.mem_singleton.mp member]
      decide
    | some time =>
      cases lost : state.loss? with
      | none => exact .accepted known empty ((loss?_eq_none state).mp lost)
      | some loss =>
        refine .rejected found ⟨known, empty, fun room => ?_⟩
        rw [(loss?_eq_none state).mpr room] at lost
        cases lost

theorem stepped (state : State) (event : Event) : Stepped state event (state.step event) := by
  cases event with
  | send index time? packet => exact stepped_send state index time? packet
  | clone index =>
    cases found : state.senders[index]? with
    | none =>
      simp only [step, found]
      exact .missing (Nat.not_lt.mpr (List.getElem?_eq_none_iff.mp found))
    | some sender =>
      simp only [step, found]
      exact .copied found
  | receive =>
    cases waiting : state.queue with
    | nil =>
      simp only [step, waiting]
      exact .idle waiting
    | cons record queue =>
      simp only [step, waiting]
      exact .written waiting
  | close => exact .closed

section Files

variable {state : State} {event : Event}

abbrev accepted (state : State) : List Event → List (Time × Bytes) :=
  along accepted? state

abbrev written (state : State) : List Event → List Record :=
  along written? state

def records (sent : List (Time × Bytes)) : List Record :=
  sent.map fun (time, packet) => .ofPacket time packet

theorem step_file (state : State) (event : Event) : (state.step event).1.file
    = state.file ++ (state.written? event).toList.flatMap Record.encode := by
  have form := stepped state event
  generalize state.step event = result at form ⊢
  cases form with
  | written waiting => simp [written?, waiting]
  | idle empty => simp [written?, empty]
  | _ => simp [written?]

-- What one event loses of the queue, it loses because the writer goes.
theorem step_conserves (state : State) (event : Event) :
    ∃ lost, state.queue ++ records (state.accepted? event).toList
        = (state.written? event).toList ++ (state.step event).1.queue ++ lost ∧
      ((state.step event).1.isOpen = true → lost = []) := by
  have form := stepped state event
  generalize state.step event = result at form ⊢
  cases form with
  | accepted known filled room =>
    exact ⟨[], by simp [accepted?, written?, records, known, filled, room], fun _ => rfl⟩
  | rejected found rejects =>
    exact ⟨[], by simp [accepted?, written?, records, rejects.full], fun _ => rfl⟩
  | @passed index time? packet _ nothing _ =>
    have none_accepted : state.accepted? (.send index time? packet) = none := by
      cases time? with
      | none => rfl
      | some time => exact if_neg fun ⟨known, filled, _⟩ => filled (nothing rfl known)
    exact ⟨[], by simp [none_accepted, written?, records], fun _ => rfl⟩
  | copied | missing => exact ⟨[], by simp [accepted?, written?, records], fun _ => rfl⟩
  | written waiting => exact ⟨[], by simp [accepted?, written?, records, waiting], fun _ => rfl⟩
  | idle empty => exact ⟨[], by simp [accepted?, written?, records, empty], fun _ => rfl⟩
  | closed => exact ⟨state.queue, by simp [accepted?, written?, records], nofun⟩

theorem step_isOpen (opened : (state.step event).1.isOpen = true) : state.isOpen = true := by
  have form := stepped state event
  generalize state.step event = result at form opened
  cases form with
  | closed => cases opened
  | _ => exact opened

theorem step_still_open (kept : event ≠ .close) :
    (state.step event).1.isOpen = state.isOpen := by
  have form := stepped state event
  generalize state.step event = result at form ⊢
  cases form with
  | closed => exact absurd rfl kept
  | _ => rfl

theorem accepted?_closed (gone : state.isOpen = false) : state.accepted? event = none := by
  cases event with
  | send index time? packet =>
    cases time? with
    | none => rfl
    | some time => simp [accepted?, HasRoom, gone]
  | _ => rfl

theorem accepted_closed (gone : state.isOpen = false) (events : List Event) :
    state.accepted events = [] := by
  induction events generalizing state with
  | nil => rfl
  | cons event later ih =>
    have still : (state.step event).1.isOpen = false := by
      rw [← Bool.not_eq_true]
      intro opened
      rw [step_isOpen opened] at gone
      cases gone
    rw [accepted, along, accepted?_closed gone]
    exact ih still

theorem run_isOpen {events : List Event} (opened : (state.run events).1.isOpen = true) :
    state.isOpen = true := by
  induction events generalizing state with
  | nil => exact opened
  | cons event later ih => exact step_isOpen (ih opened)

theorem run_still_open {events : List Event} (kept : Event.close ∉ events) :
    (state.run events).1.isOpen = state.isOpen := by
  induction events generalizing state with
  | nil => rfl
  | cons event later ih =>
    rw [List.mem_cons, not_or] at kept
    obtain ⟨other, kept_later⟩ := kept
    exact (ih kept_later).trans (step_still_open (Ne.symm other))

theorem run_file (state : State) (events : List Event) : (state.run events).1.file
    = state.file ++ (state.written events).flatMap Record.encode := by
  induction events generalizing state with
  | nil => simp [run, along]
  | cons event later ih =>
    have rest := ih (state.step event).1
    rw [step_file] at rest
    rw [run, written, along, List.flatMap_append, ← List.append_assoc]
    exact rest

theorem run_conserves (state : State) (events : List Event) :
    ∃ lost, state.queue ++ records (state.accepted events)
        = state.written events ++ (state.run events).1.queue ++ lost ∧
      ((state.run events).1.isOpen = true → lost = []) := by
  induction events generalizing state with
  | nil => exact ⟨[], by simp [run, along, records], fun _ => rfl⟩
  | cons event later ih =>
    obtain ⟨first, now, first_kept⟩ := step_conserves state event
    obtain ⟨rest, afterwards, rest_kept⟩ := ih (state.step event).1
    have split : records (state.accepted (event :: later))
        = records (state.accepted? event).toList
          ++ records ((state.step event).1.accepted later) := List.map_append
    refine ⟨rest ++ first, ?_, ?_⟩
    · rw [split, ← List.append_assoc, now]
      cases opened : (state.step event).1.isOpen with
      | true =>
        rw [first_kept opened, List.append_nil, List.append_nil, List.append_assoc, afterwards]
        simp [along, run]
      | false =>
        rw [accepted_closed opened] at afterwards ⊢
        simp only [records, List.map_nil, List.append_nil] at afterwards ⊢
        rw [afterwards]
        simp [along, run]
    · intro opened
      rw [rest_kept opened, first_kept (run_isOpen opened)]
      rfl

theorem run_receive (state : State) (count : Nat) :
    (state.run (List.replicate count .receive)).1.queue = state.queue.drop count := by
  induction count generalizing state with
  | zero => rfl
  | succ count ih =>
    have rest := ih (state.step .receive).1
    have next : (state.step .receive).1.queue = state.queue.drop 1 := by
      have form := stepped state .receive
      generalize state.step .receive = result at form ⊢
      cases form with
      | written waiting => rw [waiting]; rfl
      | idle empty => rw [empty]; rfl
    rw [next, List.drop_drop, Nat.add_comm] at rest
    exact rest

end Files

section Runs

theorem run_append (state : State) (before later : List Event) :
    state.run (before ++ later)
      = (((state.run before).1.run later).1,
          (state.run before).2 ++ ((state.run before).1.run later).2) := by
  induction before generalizing state with
  | nil => rfl
  | cons event before ih => simp only [List.cons_append, run, ih]

theorem length_run (state : State) (events : List Event) :
    (state.run events).2.length = events.length := by
  induction events generalizing state with
  | nil => rfl
  | cons event later ih => exact congrArg (· + 1) (ih _)

def after (events : List Event) : State :=
  (run {} events).1

theorem after_append (before : List Event) (event : Event) :
    after (before ++ [event]) = ((after before).step event).1 := by
  unfold after
  rw [run_append]
  rfl

end Runs

end State
end Nat64Gateway.Capture
