import Nat64Gateway.FairSelect

namespace Nat64Gateway.FairSelect

-- The shorter of the delays. A source that is never ready has none.
def Both.least (delays : Both Delay) : Delay :=
  Option.merge min delays.a delays.b

def Result.first? (result : Result) : Option Side :=
  result.rounds.flatten.head?

theorem Side.eq_or_other (side first : Side) : side = first ∨ side = first.other := by
  cases side <;> cases first <;> decide

theorem Side.forall_iff {p : Side → Prop} : (∀ side, p side) ↔ p .a ∧ p .b := by
  refine ⟨fun all => ⟨all .a, all .b⟩, fun both side => ?_⟩
  cases side with
  | a => exact both.1
  | b => exact both.2

theorem Side.exists_iff {p : Side → Prop} : (∃ side, p side) ↔ p .a ∨ p .b := by
  constructor
  · rintro ⟨side, found⟩
    cases side with
    | a => exact .inl found
    | b => exact .inr found
  · exact fun either => either.elim (fun found => ⟨.a, found⟩) (fun found => ⟨.b, found⟩)

theorem Side.other_ne (side : Side) : side.other ≠ side := by
  cases side <;> decide

section Rounds

variable {first winner : Side} {delays : Both Delay} {limit least : Nat}

def Both.passed (delays : Both Delay) : Both Delay :=
  ⟨delays.a.map (· - 1), delays.b.map (· - 1)⟩

theorem get_passed (delays : Both Delay) (side : Side) :
    delays.passed.get side = (delays.get side).map (· - 1) := by
  cases side <;> rfl

theorem poll_late (late : delays.get first ≠ some 0) :
    poll delays first = (false, (poll delays first).2) :=
  Prod.ext (decide_eq_false late) rfl

theorem poll_other (delays : Both Delay) (first : Side) :
    poll (poll delays first).2 first.other
      = (decide (delays.get first.other = some 0), delays.passed) := by
  cases first <;> rfl

theorem round_first (ready : delays.get first = some 0) :
    round first delays = ⟨some first, [first], (poll delays first).2⟩ := by
  unfold round poll
  rw [decide_eq_true ready]

theorem round_other (late : delays.get first ≠ some 0)
    (ready : delays.get first.other = some 0) :
    round first delays = ⟨some first.other, [first, first.other], delays.passed⟩ := by
  unfold round
  rw [poll_late late]
  simp only [poll_other, decide_eq_true ready]

theorem round_idle (late : ∀ side, delays.get side ≠ some 0) :
    round first delays = ⟨none, [first, first.other], delays.passed⟩ := by
  unfold round
  rw [poll_late (late first)]
  simp only [poll_other, decide_eq_false (late first.other)]

theorem rounds_givenUp
    (late : ∀ side delay, delays.get side = some delay → limit ≤ delay) :
    rounds first limit delays = ⟨none, List.replicate limit [first, first.other]⟩ := by
  induction limit generalizing delays with
  | zero => rfl
  | succ limit ih =>
    have idle : ∀ side, delays.get side ≠ some 0 := by
      intro side ready
      exact absurd (late side 0 ready) (Nat.not_succ_le_zero limit)
    have later : ∀ side delay, delays.passed.get side = some delay → limit ≤ delay := by
      intro side delay left
      rw [get_passed] at left
      obtain ⟨before, found, rfl⟩ := Option.map_eq_some_iff.mp left
      have bound := late side before found
      omega
    unfold rounds
    rw [round_idle idle]
    simp only [ih later, List.replicate_succ]

-- The side with the shorter delay; on a tie the one that is polled first.
structure Wins (first winner : Side) (delays : Both Delay) (least : Nat) : Prop where
  ready : delays.get winner = some least
  shortest : ∀ side delay, delays.get side = some delay → least ≤ delay
  tie : delays.get first = some least → winner = first

theorem Wins.passed (wins : Wins first winner delays (least + 1)) :
    Wins first winner delays.passed least := by
  obtain ⟨ready, shortest, tie⟩ := wins
  have left : ∀ {side delay}, delays.passed.get side = some delay →
      delays.get side = some (delay + 1) := by
    intro side delay found
    rw [get_passed] at found
    obtain ⟨before, known, rfl⟩ := Option.map_eq_some_iff.mp found
    have bound := shortest side before known
    rw [known, Nat.sub_add_cancel (by omega)]
  refine ⟨?_, fun side delay found => ?_, fun found => tie (left found)⟩
  · rw [get_passed, ready]
    rfl
  · exact Nat.le_of_succ_le_succ (shortest side _ (left found))

def closing (first winner : Side) : List Side :=
  if winner = first then [first] else [first, first.other]

theorem round_won (wins : Wins first winner delays 0) :
    (round first delays).winner = some winner ∧
      (round first delays).polled = closing first winner := by
  unfold closing
  by_cases ahead : delays.get first = some 0
  · obtain rfl := wins.tie ahead
    rw [round_first ahead, if_pos rfl]
    exact ⟨rfl, rfl⟩
  · rcases winner.eq_or_other first with rfl | rfl
    · exact absurd wins.ready ahead
    · rw [round_other ahead wins.ready, if_neg first.other_ne]
      exact ⟨rfl, rfl⟩

theorem rounds_returned (wins : Wins first winner delays least) (inside : least < limit) :
    rounds first limit delays = ⟨some winner,
      List.replicate least [first, first.other] ++ [closing first winner]⟩ := by
  obtain ⟨limit, rfl⟩ : ∃ rest, limit = rest + 1 := ⟨limit - 1, by omega⟩
  induction least generalizing limit delays with
  | zero =>
    obtain ⟨returned, polled⟩ := round_won wins
    unfold rounds
    generalize round first delays = this at returned polled
    obtain ⟨_, _, _⟩ := this
    cases returned
    cases polled
    rfl
  | succ least ih =>
    have idle : ∀ side, delays.get side ≠ some 0 := by
      intro side early
      exact absurd (wins.shortest side 0 early) (Nat.not_succ_le_zero least)
    obtain ⟨limit, rfl⟩ : ∃ rest, limit = rest + 1 := ⟨limit - 1, by omega⟩
    have later := ih wins.passed limit (by omega)
    rw [rounds, round_idle idle]
    simp only [later, List.replicate_succ, List.cons_append]

end Rounds

section Calls

variable {first : Side} {call : Call} {delays : Both Delay} {limit least : Nat}

-- The least delay is one of the two, and none is shorter.
theorem least_eq_some : delays.least = some least ↔ (∃ side, delays.get side = some least) ∧
    ∀ side delay, delays.get side = some delay → least ≤ delay := by
  rw [Side.exists_iff, Side.forall_iff]
  obtain ⟨a, b⟩ := delays
  unfold Both.least Both.get
  cases a with
  | none =>
    cases b with
    | none => simp
    | some late =>
      simp only [Option.merge, Option.some.injEq, reduceCtorEq, false_or, false_imp_iff,
        implies_true, true_and, forall_eq']
      omega
  | some early =>
    cases b with
    | none =>
      simp only [Option.merge, Option.some.injEq, reduceCtorEq, or_false, false_imp_iff,
        implies_true, and_true, forall_eq']
      omega
    | some late =>
      simp only [Option.merge, Option.some.injEq, forall_eq']
      omega

theorem least_eq_none : delays.least = none ↔ ∀ side, delays.get side = none := by
  rw [Side.forall_iff]
  obtain ⟨a, b⟩ := delays
  cases a <;> cases b <;> simp [Both.least, Both.get]

theorem exists_wins (first : Side) (shorter : delays.least = some least) :
    ∃ winner, Wins first winner delays least := by
  obtain ⟨⟨side, found⟩, shortest⟩ := least_eq_some.mp shorter
  by_cases ahead : delays.get first = some least
  · exact ⟨first, ahead, shortest, fun _ => rfl⟩
  · exact ⟨side, found, shortest, fun ready => absurd ready ahead⟩

theorem get_polls (result : Result) (side : Side) :
    result.polls.get side = result.rounds.flatten.count side := by
  cases side <;> rfl

theorem count_idle (first side : Side) (rounds : Nat) :
    (List.replicate rounds [first, first.other]).flatten.count side = rounds := by
  have once : [first, first.other].count side = 1 := by
    cases first <;> cases side <;> rfl
  induction rounds with
  | zero => rfl
  | succ rounds ih => rw [List.replicate_succ, List.flatten_cons, List.count_append, once, ih,
      Nat.add_comm]

theorem count_closing (first winner side : Side) : (closing first winner).count side
    = if side = winner ∨ side = first then 1 else 0 := by
  cases first <;> cases winner <;> cases side <;> rfl

structure Serves (first : Side) (call : Call) (result : Result) : Prop where
  returned : ∀ least, call.delays.least = some least → least < call.limit →
    ∃ winner, Wins first winner call.delays least ∧ result.winner = some winner ∧
      result.rounds.length = least + 1 ∧ result.polls.get winner = least + 1 ∧
      result.polls.get winner.other = if winner.other = first then least + 1 else least
  givenUp : (∀ least, call.delays.least = some least → call.limit ≤ least) →
    result.winner = none ∧ result.rounds.length = call.limit ∧
      ∀ side, result.polls.get side = call.limit
  -- A source with a delay is ready at the poll behind the delay, which is its last.
  spent : ∀ side delay, call.delays.get side = some delay → result.polls.get side ≤ delay + 1
  leads : ∀ polled ∈ result.rounds, polled.head? = some first
  opens : result.first? = if call.limit = 0 then none else some first

theorem head?_closing (first winner : Side) : (closing first winner).head? = some first := by
  cases first <;> cases winner <;> rfl

theorem head?_flatten {rounds : List (List Side)}
    (leads : ∀ polled ∈ rounds, polled.head? = some first) :
    rounds.flatten.head? = if rounds.length = 0 then none else some first := by
  cases rounds with
  | nil => rfl
  | cons polled later =>
    have ahead := leads polled List.mem_cons_self
    rw [List.flatten_cons, List.head?_append, ahead]
    rfl

theorem serves_returned {winner : Side} (wins : Wins first winner call.delays least)
    (shorter : call.delays.least = some least) (inside : least < call.limit) :
    Serves first call (rounds first call.limit call.delays) := by
  rw [rounds_returned wins inside]
  have polls : ∀ side, (Result.mk (some winner)
      (List.replicate least [first, first.other] ++ [closing first winner])).polls.get side
        = least + if side = winner ∨ side = first then 1 else 0 := by
    intro side
    rw [get_polls, List.flatten_append, List.count_append, count_idle, List.flatten_singleton,
      count_closing]
  have leads : ∀ polled ∈ List.replicate least [first, first.other] ++ [closing first winner],
      polled.head? = some first := by
    intro polled member
    rcases List.mem_append.mp member with idle | last
    · rw [List.eq_of_mem_replicate idle]
      rfl
    · rw [List.mem_singleton.mp last, head?_closing]
  refine ⟨?_, ?_, ?_, leads, ?_⟩
  · intro shortest same _
    obtain rfl := Option.some.inj (shorter.symm.trans same)
    refine ⟨winner, wins, rfl, by simp, ?_, ?_⟩
    · rw [polls, if_pos (.inl rfl)]
    · rw [polls]
      simp only [winner.other_ne, false_or]
      split <;> rfl
  · intro late
    exact absurd inside (Nat.not_lt.mpr (late least shorter))
  · intro side delay found
    have bound := wins.shortest side delay found
    rw [polls]
    split <;> omega
  · have some_round : call.limit ≠ 0 := by omega
    have opens := head?_flatten leads
    rw [if_neg (by simp)] at opens
    rw [if_neg some_round]
    exact opens

theorem serves_givenUp (late : ∀ least, call.delays.least = some least → call.limit ≤ least) :
    Serves first call (rounds first call.limit call.delays) := by
  have beyond : ∀ side delay, call.delays.get side = some delay → call.limit ≤ delay := by
    intro side delay found
    cases shorter : call.delays.least with
    | none =>
      rw [least_eq_none.mp shorter side] at found
      cases found
    | some least =>
      obtain ⟨_, shortest⟩ := least_eq_some.mp shorter
      exact Nat.le_trans (late least shorter) (shortest side delay found)
  rw [rounds_givenUp beyond]
  have polls : ∀ side, (Result.mk none
      (List.replicate call.limit [first, first.other])).polls.get side = call.limit := by
    intro side
    rw [get_polls, count_idle]
  have leads : ∀ polled ∈ List.replicate call.limit [first, first.other],
      polled.head? = some first := by
    intro polled member
    rw [List.eq_of_mem_replicate member]
    rfl
  refine ⟨?_, ?_, ?_, leads, ?_⟩
  · intro least shorter inside
    exact absurd inside (Nat.not_lt.mpr (late least shorter))
  · intro _
    exact ⟨rfl, List.length_replicate, polls⟩
  · intro side delay found
    rw [polls]
    exact Nat.le_succ_of_le (beyond side delay found)
  · have opens := head?_flatten leads
    rw [List.length_replicate] at opens
    exact opens

theorem select_serves (first : Side) (call : Call) : Serves first call (select first call).2 := by
  by_cases reached : ∃ least, call.delays.least = some least ∧ least < call.limit
  · obtain ⟨least, shorter, inside⟩ := reached
    obtain ⟨winner, wins⟩ := exists_wins first shorter
    exact serves_returned wins shorter inside
  · refine serves_givenUp fun least shorter => ?_
    exact Nat.not_lt.mp fun inside => reached ⟨least, shorter, inside⟩

end Calls

section Runs

variable {turn side : Side} {call : Call}

def turnAfter (turn : Side) (calls : List Call) : Side :=
  calls.foldl (fun turn call => (select turn call).1) turn

def turns (side : Side) : Nat → List Side
  | 0 => []
  | count + 1 => side :: turns side.other count

theorem select_turn (turn : Side) (polled : 0 < call.limit) :
    (select turn call).1 = turn.other :=
  if_neg (Nat.ne_of_gt polled)

theorem select_unpolled (turn : Side) (idle : call.limit = 0) : (select turn call).1 = turn :=
  if_pos idle

theorem run_append (turn : Side) (front back : List Call) :
    run turn (front ++ back) = run turn front ++ run (turnAfter turn front) back := by
  induction front generalizing turn with
  | nil => rfl
  | cons call later ih => exact congrArg ((select turn call).2 :: ·) (ih _)

theorem length_run (turn : Side) (calls : List Call) :
    (run turn calls).length = calls.length := by
  induction calls generalizing turn with
  | nil => rfl
  | cons call later ih => exact congrArg (· + 1) (ih _)

theorem run_at (turn : Side) (front : List Call) (call : Call) (back : List Call) :
    (run turn (front ++ call :: back))[front.length]?
      = some (select (turnAfter turn front) call).2 := by
  rw [run_append, List.getElem?_append_right (Nat.le_of_eq (length_run turn front)), length_run,
    Nat.sub_self]
  rfl

theorem turnAfter_unpolled (turn : Side) {calls : List Call}
    (idle : ∀ call ∈ calls, call.limit = 0) : turnAfter turn calls = turn := by
  induction calls with
  | nil => rfl
  | cons call later ih =>
    rw [turnAfter, List.foldl_cons, select_unpolled turn (idle call List.mem_cons_self)]
    exact ih fun other member => idle other (List.mem_cons_of_mem _ member)

theorem first?_run (turn : Side) (calls : List Call) :
    (run turn calls).filterMap Result.first?
      = turns turn (calls.countP fun call => 0 < call.limit) := by
  induction calls generalizing turn with
  | nil => rfl
  | cons call later ih =>
    have opens := (select_serves turn call).opens
    rw [run, List.filterMap_cons, opens, List.countP_cons]
    by_cases idle : call.limit = 0
    · simp [idle, ih, select_unpolled turn idle]
    · have polled : 0 < call.limit := Nat.pos_of_ne_zero idle
      simp [idle, polled, ih, select_turn turn polled, turns]

-- A source that is ready at once is returned if it has the turn.
theorem winner_of_turn (ready : call.delays.get turn = some 0) (polled : 0 < call.limit) :
    (select turn call).2.winner = some turn := by
  have shorter : call.delays.least = some 0 :=
    least_eq_some.mpr ⟨⟨turn, ready⟩, fun _ delay _ => Nat.zero_le delay⟩
  obtain ⟨winner, wins, returned, _⟩ := (select_serves turn call).returned 0 shorter polled
  rw [returned, wins.tie ready]

-- Whoever is ready at once in two polled calls in a row has the turn in one of them.
theorem returned_of_two {one two : Call} {front between back : List Call}
    (polled_one : 0 < one.limit) (polled_two : 0 < two.limit)
    (idle : ∀ call ∈ between, call.limit = 0) (ready_one : one.delays.get side = some 0)
    (ready_two : two.delays.get side = some 0) :
    ((run turn (front ++ one :: between ++ two :: back))[front.length]?.bind Result.winner
        = some side) ∨
      ((run turn (front ++ one :: between ++ two :: back))[(front ++ one :: between).length]?.bind
        Result.winner = some side) := by
  have later : turnAfter turn (front ++ one :: between) = (turnAfter turn front).other := by
    rw [turnAfter, List.foldl_append, List.foldl_cons, select_turn _ polled_one]
    exact turnAfter_unpolled _ idle
  rcases side.eq_or_other (turnAfter turn front) with rfl | rfl
  · refine .inl ?_
    rw [List.append_assoc, List.cons_append, run_at]
    exact winner_of_turn ready_one polled_one
  · refine .inr ?_
    rw [run_at, later]
    exact winner_of_turn ready_two polled_two

end Runs

-- The turns of all calls that were polled, what each call comes to, and that nobody is passed over
-- twice.
theorem selects_fairly (calls : List Call) :
    (run start calls).filterMap Result.first?
        = turns .a (calls.countP fun call => 0 < call.limit) ∧
      (∀ front call back, calls = front ++ call :: back →
        ∃ result first, (run start calls)[front.length]? = some result ∧
          Serves first call result) ∧
      ∀ front one between two back side, calls = front ++ one :: between ++ two :: back →
        0 < one.limit → 0 < two.limit → (∀ call ∈ between, call.limit = 0) →
        one.delays.get side = some 0 → two.delays.get side = some 0 →
          ((run start calls)[front.length]?.bind Result.winner = some side) ∨
            ((run start calls)[(front ++ one :: between).length]?.bind Result.winner
              = some side) := by
  refine ⟨first?_run start calls, ?_, ?_⟩
  · rintro front call back rfl
    exact ⟨_, _, run_at start front call back, select_serves _ call⟩
  · rintro front one between two back side rfl polled_one polled_two idle ready_one ready_two
    exact returned_of_two polled_one polled_two idle ready_one ready_two

def busy : Call := ⟨⟨some 0, some 0⟩, 10⟩
def unpolled : Call := ⟨⟨some 0, none⟩, 0⟩
def slow : Call := ⟨⟨some 4, some 2⟩, 10⟩

theorem selects_fairly_busy :
    (∃ result winner, (run start [slow, busy, unpolled, busy])[0]? = some result ∧
        result.winner = some winner ∧ slow.delays.get winner = some 2 ∧
        result.rounds.length = 3) ∧
      ((run start [slow, busy, unpolled, busy])[1]?.bind Result.winner = some .b ∨
        (run start [slow, busy, unpolled, busy])[3]?.bind Result.winner = some .b) := by
  obtain ⟨_, serves, passed⟩ := selects_fairly [slow, busy, unpolled, busy]
  obtain ⟨result, first, found, served⟩ := serves [] slow [busy, unpolled, busy] rfl
  obtain ⟨winner, wins, returned, rounds, _⟩ := served.returned 2 rfl (by decide)
  exact ⟨⟨result, winner, found, returned, wins.ready, rounds⟩,
    passed [slow] busy [unpolled] busy [] .b rfl (by decide) (by decide) (by decide) rfl rfl⟩

end Nat64Gateway.FairSelect
