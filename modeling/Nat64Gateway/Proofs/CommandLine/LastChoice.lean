import Nat64Gateway.Proofs.CommandLine.Settings

namespace Nat64Gateway.CommandLine

namespace Given

variable {given left right : List Given} {name : OptionName}

def last? (name : OptionName) (given : List Given) : Option Given :=
  (given.filter (·.name = name)).getLast?

def lastValue? (name : OptionName) (given : List Given) : Option String :=
  (last? name given).map value

-- Without those that a later one of the same name overrides.
def effective : List Given → List Given
  | [] => []
  | first :: later =>
    if later.any (·.name = first.name) then effective later else first :: effective later

-- Options may pass each other, but none passes one of its own name.
structure Reordered (left right : List Given) : Prop where
  permuted : left.Perm right
  inOrder : ∀ name, left.filter (·.name = name) = right.filter (·.name = name)

theorem last?_cons (name : OptionName) (first : Given) (later : List Given) :
    last? name (first :: later)
      = (last? name later).or (if first.name = name then some first else none) := by
  unfold last?
  by_cases named : first.name = name
  · rw [List.filter_cons_of_pos (by simpa using named), List.getLast?_cons, if_pos named]
    cases (later.filter (·.name = name)).getLast? <;> rfl
  · rw [List.filter_cons_of_neg (by simpa using named), if_neg named, Option.or_none]

theorem of_last? {final : Given} (last : last? name given = some final) :
    final ∈ given ∧ final.name = name := by
  have found := List.mem_of_getLast? last
  rw [List.mem_filter] at found
  exact ⟨found.1, by simpa using found.2⟩

theorem last?_isSome (name : OptionName) (given : List Given) :
    (last? name given).isSome = given.any (·.name = name) := by
  unfold last?
  rw [Bool.eq_iff_iff, List.getLast?_isSome, List.any_eq_true, ne_eq, List.filter_eq_nil_iff]
  simp only [not_forall, exists_prop, not_not]

theorem last?_eq_lastValue? (name : OptionName) (given : List Given) :
    last? name given = (lastValue? name given).map (Given.mk name) := by
  unfold lastValue?
  cases last : last? name given with
  | none => rfl
  | some final => rw [Option.map_some, Option.map_some, ← (of_last? last).2]

theorem effective_subset {each : Given} (member : each ∈ effective given) : each ∈ given := by
  induction given with
  | nil => exact member
  | cons first later ih =>
    unfold effective at member
    split at member
    · exact List.mem_cons_of_mem _ (ih member)
    · rcases List.mem_cons.mp member with rfl | deeper
      · exact List.mem_cons_self
      · exact List.mem_cons_of_mem _ (ih deeper)

theorem last?_effective (name : OptionName) (given : List Given) :
    last? name (effective given) = last? name given := by
  induction given with
  | nil => rfl
  | cons first later ih =>
    rw [last?_cons]
    unfold effective
    split
    · rename_i overridden
      rw [ih]
      by_cases named : first.name = name
      · rw [named, ← last?_isSome] at overridden
        rw [Option.or_of_isSome overridden]
      · rw [if_neg named, Option.or_none]
    · rw [last?_cons, ih]

theorem Reordered.last? (reordered : Reordered left right) (name : OptionName) :
    last? name left = Given.last? name right := by
  unfold Given.last?
  rw [reordered.inOrder name]

end Given

def outcome (program : String) (given : List Given) : Course :=
  run program (given.map Given.text ++ ["serve"])

namespace Settings

variable {given : List Given}

def chooseAll (settings : Settings) (given : List Given) : Settings :=
  (given.filterMap Given.choice?).foldl choose settings

theorem chooseAll_cons {first : Given} {choice : Choice}
    (understood : Choice.read first.name first.value = .ok choice) (settings : Settings)
    (later : List Given) :
    settings.chooseAll (first :: later) = (settings.choose choice).chooseAll later := by
  rw [chooseAll, List.filterMap_cons_some (Given.choice?_eq understood), List.foldl_cons, chooseAll]

-- The scan goes on behind understood options with what they have set.
theorem scan_texts_append (understood : ∀ each ∈ given, each.Understood) (settings : Settings)
    (later : List String) :
    scan settings (given.map Given.text ++ later) = scan (settings.chooseAll given) later := by
  induction given generalizing settings with
  | nil => rfl
  | cons first others ih =>
    obtain ⟨choice, read⟩ := understood first List.mem_cons_self
    have rest := ih (fun each member => understood each (List.mem_cons_of_mem _ member))
    rw [List.map_cons, List.cons_append, scan, Given.read_text read, chooseAll_cons read]
    exact rest (settings.choose choice)

theorem scan_texts (understood : ∀ each ∈ given, each.Understood) (settings : Settings) :
    scan settings (given.map Given.text) = { settings := settings.chooseAll given } := by
  have whole := scan_texts_append understood settings []
  rwa [List.append_nil] at whole

-- By induction on the options, for whatever settings those in front have left.
theorem held_chooseAll (understood : ∀ each ∈ given, each.Understood) (settings : Settings)
    (name : OptionName) :
    (settings.chooseAll given).held name
      = ((Given.last? name given).bind Given.choice?).or (settings.held name) := by
  induction given generalizing settings with
  | nil => rfl
  | cons first later ih =>
    obtain ⟨choice, read⟩ := understood first List.mem_cons_self
    have others : ∀ each ∈ later, each.Understood :=
      fun each member => understood each (List.mem_cons_of_mem _ member)
    rw [chooseAll_cons read, ih others, held_choose, Choice.name_read read, Given.last?_cons]
    cases last : Given.last? name later with
    | none =>
      by_cases named : first.name = name
      · simp [named, Given.choice?_eq read]
      · simp [named]
    | some final =>
      obtain ⟨kept, finalRead⟩ := others final (Given.of_last? last).1
      simp [Given.choice?_eq finalRead]

theorem chooseAll_congr {left right : List Given} (understoodLeft : ∀ each ∈ left, each.Understood)
    (understoodRight : ∀ each ∈ right, each.Understood)
    (same : ∀ name, Given.last? name left = Given.last? name right) (settings : Settings) :
    settings.chooseAll left = settings.chooseAll right := by
  apply held_ext
  intro name
  rw [held_chooseAll understoodLeft, held_chooseAll understoodRight, same]

end Settings

section

variable {given left right : List Given}

theorem run_texts (understood : ∀ each ∈ given, each.Understood) (program action : String) :
    run program (given.map Given.text ++ [action])
      = act action (Settings.chooseAll {} given) { output := [version] } := by
  unfold run
  rw [List.dropLast_concat, List.getLast?_concat, Settings.scan_texts understood]
  rfl

theorem outcome_eq (understood : ∀ each ∈ given, each.Understood) (program : String) :
    outcome program given
      = act "serve" (Settings.chooseAll {} given) { output := [version] } :=
  run_texts understood program "serve"

theorem outcome_congr (understoodLeft : ∀ each ∈ left, each.Understood)
    (understoodRight : ∀ each ∈ right, each.Understood)
    (same : ∀ name, Given.last? name left = Given.last? name right) (program : String) :
    outcome program left = outcome program right := by
  rw [outcome_eq understoodLeft, outcome_eq understoodRight,
    Settings.chooseAll_congr understoodLeft understoodRight same]

theorem last_choice_counts (program : String) (understood : ∀ each ∈ given, each.Understood) :
    -- every option stands at its last choice, or at its default without one,
    (∃ settings : Settings,
      (∀ name, settings.held name
        = ((Given.last? name given).bind Given.choice?).or (({} : Settings).held name))
      ∧ outcome program given = act "serve" settings { output := [version] })
    -- so that the last values determine the outcome,
    ∧ (∀ other : List Given, (∀ each ∈ other, each.Understood) →
      (∀ name, Given.lastValue? name other = Given.lastValue? name given) →
      outcome program other = outcome program given)
    -- and neither another order nor leaving out what is overridden is seen.
    ∧ (∀ other : List Given, Given.Reordered given other →
      outcome program other = outcome program given)
    ∧ outcome program (Given.effective given) = outcome program given := by
  refine ⟨⟨Settings.chooseAll {} given, ?_, outcome_eq understood program⟩, ?_, ?_, ?_⟩
  · exact Settings.held_chooseAll understood {}
  · intro other understoodOther same
    refine outcome_congr understoodOther understood (fun name => ?_) program
    rw [Given.last?_eq_lastValue?, same, ← Given.last?_eq_lastValue?]
  · intro other reordered
    have understoodOther : ∀ each ∈ other, each.Understood :=
      fun each member => understood each (reordered.permuted.mem_iff.mpr member)
    exact outcome_congr understoodOther understood (fun name => (reordered.last? name).symm) program
  · have understoodEffective : ∀ each ∈ Given.effective given, each.Understood :=
      fun each member => understood each (Given.effective_subset member)
    exact outcome_congr understoodEffective understood
      (fun name => Given.last?_effective name given) program

def remoteTwice : List Given := [
  ⟨.tunnelRemote, "10.0.0.1:9000"⟩, ⟨.uplinkPeer, "10.0.0.3:6446"⟩, ⟨.logLevel, "off"⟩,
  ⟨.tunnelRemote, "10.0.0.2:9000"⟩]

def remoteFirst : List Given := [
  ⟨.tunnelRemote, "10.0.0.1:9000"⟩, ⟨.tunnelRemote, "10.0.0.2:9000"⟩, ⟨.logLevel, "off"⟩,
  ⟨.uplinkPeer, "10.0.0.3:6446"⟩]

theorem last_choice_counts_remoteTwice :
    (∀ each ∈ remoteTwice, each.Understood)
    ∧ Given.Reordered remoteTwice remoteFirst
    ∧ outcome "tunnel64" remoteFirst = outcome "tunnel64" remoteTwice
    ∧ Given.effective remoteTwice = remoteTwice.tail
    ∧ outcome "tunnel64" (Given.effective remoteTwice) = outcome "tunnel64" remoteTwice := by
  have understood : ∀ each ∈ remoteTwice, each.Understood := by decide
  have reordered : Given.Reordered remoteTwice remoteFirst :=
    ⟨by decide, fun name => by cases name <;> rfl⟩
  obtain ⟨_, _, moved, dropped⟩ := last_choice_counts "tunnel64" understood
  exact ⟨understood, reordered, moved remoteFirst reordered, rfl, dropped⟩

end

end Nat64Gateway.CommandLine
