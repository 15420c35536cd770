import Nat64Gateway.Proofs.Capture.Recording

namespace Nat64Gateway.Capture.State

variable {state : State} {event : Event} {index : Nat}

-- A sender has lost a packet, or was copied from one that had.
inductive HasLost : List Event → Nat → Prop where
  | rejected {before : List Event} {index : Nat} {time : Time} {packet : Bytes}
      (rejects : (after before).Rejects index packet) :
      HasLost (before ++ [.send index (some time) packet]) index
  | copied {before : List Event} {source : Nat} (lost : HasLost before source) :
      HasLost (before ++ [.clone source]) (after before).senders.length
  | kept {before : List Event} {event : Event} {index : Nat} (lost : HasLost before index) :
      HasLost (before ++ [event]) index

theorem HasLost.append {before : List Event} (lost : HasLost before index) (later : List Event) :
    HasLost (before ++ later) index := by
  induction later using List.reverseRecOn with
  | nil => rwa [List.append_nil]
  | append_singleton middle event ih =>
    rw [← List.append_assoc]
    exact .kept ih

theorem getElem?_copied {senders : List Sender} {source : Nat} {sender : Sender}
    (found : senders[source]? = some sender) : (senders ++ [sender])[index]? = some ⟨true⟩ ↔
      senders[index]? = some ⟨true⟩ ∨ index = senders.length ∧ senders[source]? = some ⟨true⟩ := by
  rcases Nat.lt_trichotomy index senders.length with before | rfl | behind
  · rw [List.getElem?_append_left before]
    simp [Nat.ne_of_lt before]
  · rw [List.getElem?_concat_length, found]
    simp
  · have outside : senders.length + 1 ≤ index := behind
    rw [List.getElem?_eq_none (by simpa using outside), List.getElem?_eq_none (by omega)]
    simp [Nat.ne_of_gt behind]

-- An event makes a sender remember a loss by rejecting its packet or by copying the memory.
theorem step_remembers : (state.step event).1.senders[index]? = some ⟨true⟩ ↔
    state.senders[index]? = some ⟨true⟩ ∨
      (∃ time packet, event = .send index (some time) packet ∧ state.Rejects index packet) ∨
      ∃ source, event = .clone source ∧ index = state.senders.length ∧
        state.senders[source]? = some ⟨true⟩ := by
  have form := stepped state event
  generalize state.step event = result at form ⊢
  cases form with
  | accepted known filled room =>
    have taken : ∀ packet, ¬state.Rejects index packet := fun _ rejects => rejects.full room
    simp [taken]
  | @rejected place _ _ _ _ found rejects =>
    by_cases own : place = index
    · subst own
      rw [List.getElem?_set_self rejects.known]
      simp [rejects]
    · rw [List.getElem?_set_ne own]
      simp [own]
  | @passed place time? packet _ nothing _ =>
    constructor
    · exact .inl
    · rintro (remembered | ⟨time, sent, same, rejects⟩ | ⟨source, other, _⟩)
      · exact remembered
      · cases same
        exact absurd (nothing rfl rejects.known) rejects.filled
      · cases other
  | copied found =>
    rw [getElem?_copied found]
    simp
  | missing unknown =>
    simp [List.getElem?_eq_none (Nat.not_lt.mp unknown)]
  | written => simp
  | idle => simp
  | closed => simp

theorem hasLost_iff (events : List Event) (index : Nat) :
    HasLost events index ↔ (after events).senders[index]? = some ⟨true⟩ := by
  constructor
  · intro lost
    induction lost with
    | rejected rejects =>
      rw [after_append, step_remembers]
      exact .inr (.inl ⟨_, _, rfl, rejects⟩)
    | copied _ remembered =>
      rw [after_append, step_remembers]
      exact .inr (.inr ⟨_, rfl, rfl, remembered⟩)
    | kept _ remembered =>
      rw [after_append, step_remembers]
      exact .inl remembered
  · intro remembers
    induction events using List.reverseRecOn generalizing index with
    | nil =>
      have fresh : ([({} : Sender)] : List Sender)[index]? = some ⟨true⟩ := remembers
      cases index <;> cases fresh
    | append_singleton before event ih =>
      rw [after_append, step_remembers] at remembers
      rcases remembers with earlier | ⟨time, packet, rfl, rejects⟩ | ⟨source, rfl, rfl, earlier⟩
      · exact .kept (ih index earlier)
      · exact .rejected rejects
      · exact .copied (ih source earlier)

def isError (line : Log.Line) : Bool :=
  line.level = .error

-- An error is about a loss that its sender does not remember yet.
theorem step_errors : (state.step event).2.filter isError ≠ [] ↔
    ∃ index time packet, event = .send index (some time) packet ∧ state.Rejects index packet ∧
      state.senders[index]? ≠ some ⟨true⟩ := by
  have form := stepped state event
  generalize state.step event = result at form ⊢
  cases form with
  | accepted known filled room =>
    have taken : ∀ index packet, ¬state.Rejects index packet := fun _ _ rejects =>
      rejects.full room
    simp [taken]
  | @rejected _ _ _ sender _ found rejects =>
    obtain ⟨remembers⟩ := sender
    cases remembers <;> simp [report, isError, found, rejects]
  | @passed place time? packet lines nothing calm =>
    have quiet : lines.filter isError = [] :=
      List.filter_eq_nil_iff.mpr fun line member => by simpa [isError] using calm line member
    constructor
    · exact absurd quiet
    · rintro ⟨index, time, sent, same, rejects, _⟩
      cases same
      exact absurd (nothing rfl rejects.known) rejects.filled
  | copied | missing | written | idle | closed => simp

theorem length_step_errors : ((state.step event).2.filter isError).length ≤ 1 := by
  have form := stepped state event
  generalize state.step event = result at form ⊢
  cases form with
  | @rejected _ _ _ sender =>
    refine Nat.le_trans (List.length_filter_le ..) ?_
    unfold report
    split <;> simp
  | passed _ calm =>
    rw [List.filter_eq_nil_iff.mpr fun line member => by simpa [isError] using calm line member]
    simp
  | _ => simp

def errorsOf (index : Nat) (events : List Event) : List Log.Line :=
  (events.zip (run {} events).2).flatMap fun (event, lines) =>
    if event.sender? = some index then lines.filter isError else []

theorem errorsOf_append (index : Nat) (before : List Event) (event : Event) :
    errorsOf index (before ++ [event]) = errorsOf index before ++
      if event.sender? = some index then ((after before).step event).2.filter isError else [] := by
  unfold errorsOf
  rw [run_append, List.zip_append (length_run {} before).symm, List.flatMap_append]
  exact congrArg _ (List.append_nil _)

theorem errorsOf_silent {before : List Event} (lost : HasLost before index) :
    errorsOf index (before ++ [event]) = errorsOf index before := by
  rw [errorsOf_append]
  split
  · rename_i own
    have silent : ((after before).step event).2.filter isError = [] := by
      refine Decidable.not_not.mp fun errors => ?_
      obtain ⟨place, time, packet, rfl, _, forgotten⟩ := step_errors.mp errors
      cases own
      exact forgotten ((hasLost_iff before index).mp lost)
    rw [silent, List.append_nil]
  · exact List.append_nil _

theorem errorsOf_inherited {before : List Event} (lost : HasLost before index)
    (later : List Event) : errorsOf index (before ++ later) = errorsOf index before := by
  induction later using List.reverseRecOn with
  | nil => rw [List.append_nil]
  | append_singleton middle event ih =>
    rw [← List.append_assoc, errorsOf_silent (lost.append middle), ih]

theorem errorsOf_once (index : Nat) (events : List Event) :
    (errorsOf index events).length ≤ 1 ∧ (errorsOf index events ≠ [] → HasLost events index) := by
  induction events using List.reverseRecOn with
  | nil => exact ⟨Nat.zero_le 1, absurd rfl⟩
  | append_singleton before event ih =>
    obtain ⟨once, remembered⟩ := ih
    by_cases fresh : errorsOf index before = []
    · rw [errorsOf_append, fresh, List.nil_append]
      split
      · rename_i own
        refine ⟨length_step_errors, fun errors => ?_⟩
        obtain ⟨place, time, packet, rfl, rejects, _⟩ := step_errors.mp errors
        cases own
        exact .rejected rejects
      · exact ⟨Nat.zero_le 1, absurd rfl⟩
    · have lost := remembered fresh
      rw [errorsOf_silent lost]
      exact ⟨once, fun _ => .kept lost⟩

theorem length_senders_step (state : State) (event : Event) :
    state.senders.length ≤ (state.step event).1.senders.length := by
  have form := stepped state event
  generalize state.step event = result at form ⊢
  cases form with
  | rejected => simp
  | copied => simp
  | _ => exact Nat.le_refl _

theorem errorsOf_unborn (events : List Event) (unborn : (after events).senders.length ≤ index) :
    errorsOf index events = [] := by
  induction events using List.reverseRecOn with
  | nil => rfl
  | append_singleton before event ih =>
    rw [after_append] at unborn
    have earlier := Nat.le_trans (length_senders_step (after before) event) unborn
    rw [errorsOf_append, ih earlier, List.nil_append]
    split
    · rename_i own
      refine Decidable.not_not.mp fun errors => ?_
      obtain ⟨place, time, packet, rfl, rejects, _⟩ := step_errors.mp errors
      cases own
      exact absurd rejects.known (Nat.not_lt.mpr earlier)
    · rfl

structure Kept (events : List Event) : Prop where
  -- A writer that stays needs as many steps as there are records left to write them all.
  drains : ∀ count, (after events).queue.length ≤ count →
    (after (events ++ List.replicate count .receive)).queue = []
  whole : Event.close ∉ events → (after events).queue = [] →
    readFile? (after events).file = some ((accepted {} events).map entry)
  -- At any other time, and also if the writer goes, the first of them.
  front : ∃ written lost, accepted {} events = written ++ lost ∧
    readFile? (after events).file = some (written.map entry)
  unambiguous : ∀ records, (∀ record ∈ records, record.Fits) →
    (after events).file = Capture.file records → readFile? (after events).file = some records
  -- No packet of either family is as long as a length of 32 bits can say.
  lengths : ∀ sent ∈ accepted {} events, sent.2.length < 2 ^ 32 →
    (entry sent).length = sent.2.length

structure Reported (events : List Event) : Prop where
  once : ∀ index, (errorsOf index events).length ≤ 1
  first : ∀ before event later, events = before ++ event :: later →
    ∃ lines, (run {} events).2[before.length]? = some lines ∧
      ((∃ line ∈ lines, line.level = .error) ↔
        ∃ index time packet, event = .send index (some time) packet ∧
          (after before).Rejects index packet ∧ ¬HasLost before index)
  inherited : ∀ before source later, events = before ++ .clone source :: later →
    HasLost before source → errorsOf (after before).senders.length events = []

theorem kept (events : List Event) : Kept events := by
  obtain ⟨lost, conserved, still⟩ := run_conserves {} events
  have written_file : (after events).file = Capture.file (State.written {} events) :=
    run_file {} events
  rw [List.nil_append] at conserved
  refine ⟨?_, ?_, ?_, fun _ fit same => readFile?_eq_some.mpr ⟨fit, same⟩,
    fun _ _ short => Nat.mod_eq_of_lt short⟩
  · intro count enough
    unfold after at enough ⊢
    rw [run_append, run_receive]
    exact List.drop_eq_nil_of_le enough
  · intro stays caught_up
    have opened : (after events).isOpen = true := run_still_open stays
    rw [still opened] at conserved
    unfold after at caught_up
    rw [caught_up, List.append_nil, List.append_nil] at conserved
    rw [written_file, ← conserved]
    exact readFile?_sent _
  · rw [List.append_assoc] at conserved
    obtain ⟨front, back, split, same, _⟩ := List.map_eq_append_iff.mp conserved
    refine ⟨front, back, split, ?_⟩
    rw [written_file, ← same]
    exact readFile?_sent front

theorem reported (events : List Event) : Reported events := by
  refine ⟨fun index => (errorsOf_once index events).1, ?_, ?_⟩
  · rintro before event later rfl
    refine ⟨((after before).step event).2, ?_, ?_⟩
    · rw [run_append, List.getElem?_append_right (Nat.le_of_eq (length_run {} before)), length_run,
        Nat.sub_self]
      rfl
    · have errors : (∃ line ∈ ((after before).step event).2, line.level = .error) ↔
          ((after before).step event).2.filter isError ≠ [] := by
        simp [List.filter_eq_nil_iff, isError]
      rw [errors, step_errors]
      simp only [hasLost_iff, ne_eq]
  · rintro before source later rfl lost
    have copy := HasLost.copied lost
    have unborn : errorsOf (after before).senders.length before = [] :=
      errorsOf_unborn before (Nat.le_refl _)
    have silent := errorsOf_append (after before).senders.length before (.clone source)
    have quiet : ((after before).step (.clone source)).2.filter isError = [] := by
      refine Decidable.not_not.mp fun errors => ?_
      obtain ⟨_, _, _, other, _⟩ := step_errors.mp errors
      cases other
    rw [unborn, quiet, ite_self, List.append_nil] at silent
    rw [List.append_cons, errorsOf_inherited copy, silent]

theorem records_accepted (events : List Event) : Kept events ∧ Reported events :=
  ⟨kept events, reported events⟩

def noon : Option Time := some ⟨1700000000, 5⟩

-- Two senders, and a writer that catches up with them.
def twoSenders : List Event :=
  [.send 0 noon [0x60, 0, 0, 0], .clone 0, .send 1 noon [], .receive, .send 1 noon [0x45, 0],
    .receive]

-- The writer goes, and what is lost then is not complained about twice.
def abandoned : List Event :=
  [.close, .send 0 noon [0x60], .clone 0, .send 1 noon [0x60]]

theorem records_accepted_twoSenders :
    (Event.close ∉ twoSenders ∧ (after twoSenders).queue = [] ∧
      readFile? (after twoSenders).file
        = some [⟨⟨1700000000, 5⟩, 4, [0x60, 0, 0, 0]⟩, ⟨⟨1700000000, 5⟩, 2, [0x45, 0]⟩]) ∧
      HasLost [.close, .send 0 noon [0x60]] 0 ∧ errorsOf 1 abandoned = [] ∧
      (errorsOf 0 abandoned).length ≤ 1 := by
  obtain ⟨drained, _⟩ := records_accepted twoSenders
  obtain ⟨_, complained⟩ := records_accepted abandoned
  have stays : Event.close ∉ twoSenders := by decide
  have caught_up : (after twoSenders).queue = [] := by decide
  have lost : HasLost [.close, .send 0 noon [0x60]] 0 := (hasLost_iff _ _).mpr (by decide)
  exact ⟨⟨stays, caught_up, drained.whole stays caught_up⟩, lost,
    complained.inherited [.close, .send 0 noon [0x60]] 0 [.send 1 noon [0x60]] rfl lost,
    complained.once 0⟩

end Nat64Gateway.Capture.State
