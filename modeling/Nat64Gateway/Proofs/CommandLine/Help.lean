import Nat64Gateway.Proofs.CommandLine.LastChoice

namespace Nat64Gateway.CommandLine

section

variable {given : List Given} {word : String}

theorem Argument.read_help (asks : word ∈ helpWords) : read word = .help := by
  unfold read
  rw [if_pos (List.contains_iff_mem.mpr asks)]

theorem scan_help (asks : word ∈ Argument.helpWords) (settings : Settings) (later : List String) :
    scan settings (word :: later) = { settings, halt := some .help } := by
  rw [scan, Argument.read_help asks]

theorem act_help (asks : word ∈ Argument.helpWords) (settings : Settings) (report : Report) :
    act word settings report = misuse report "No action specified" := by
  have other : word ≠ "serve" := by
    rintro rfl
    revert asks
    decide
  exact if_pos other

-- As long as one argument is behind it, a help word is among those that are scanned.
theorem dropLast_help (front : List String) {later : List String} (followed : later ≠ []) :
    (front ++ word :: later).dropLast = front ++ word :: later.dropLast := by
  rw [List.dropLast_append_of_ne_nil (List.cons_ne_nil word later),
    List.dropLast_cons_of_ne_nil followed]

theorem run_help (understood : ∀ each ∈ given, each.Understood)
    (asks : word ∈ Argument.helpWords) (program : String) {later : List String}
    (followed : later ≠ []) :
    run program (given.map Given.text ++ word :: later)
      = .finished 0 { output := [version, usage] } := by
  unfold run
  rw [dropLast_help _ followed, Settings.scan_texts_append understood, scan_help asks]
  rfl

theorem help_honoured (program : String) (understood : ∀ each ∈ given, each.Understood)
    (asks : word ∈ Argument.helpWords) :
    -- Help behind understood options is given if anything at all follows,
    (∀ later ≠ [], run program (given.map Given.text ++ word :: later)
      = .finished 0 { output := [version, usage] })
    -- but as the last argument it is taken for an action, and for an unknown one.
    ∧ run program (given.map Given.text ++ [word])
      = .finished 2 { output := [version, usage], errors := ["No action specified"] } := by
  constructor
  · intro later followed
    exact run_help understood asks program followed
  · rw [run_texts understood, act_help asks]
    rfl

-- The value of an option is no help word, whatever it says.
def quiet : List Given := [⟨.logLevel, "off"⟩, ⟨.capture, "help"⟩]

theorem help_honoured_quiet :
    (∀ each ∈ quiet, each.Understood)
    ∧ "help" ∈ Argument.helpWords
    ∧ run "tunnel64" (quiet.map Given.text ++ ["help", "--mtu", "serve"])
      = .finished 0 { output := [version, usage] }
    ∧ run "tunnel64" (quiet.map Given.text ++ ["help"])
      = .finished 2 { output := [version, usage], errors := ["No action specified"] } := by
  have understood : ∀ each ∈ quiet, each.Understood := by decide
  have asks : "help" ∈ Argument.helpWords := by decide
  obtain ⟨followed, last⟩ := help_honoured "tunnel64" understood asks
  exact ⟨understood, asks, followed ["--mtu", "serve"] (by decide), last⟩

-- Nothing but the help word, with no argument in front of it and none behind.
theorem lone_help_refused :
    "--help" ∈ Argument.helpWords
    ∧ run "tunnel64" ["--help"] ≠ .finished 0 { output := [version, usage] } := by
  refine ⟨by decide, ?_⟩
  intro honoured
  have refused : run "tunnel64" ["--help"]
      = .finished 2 { output := [version, usage], errors := ["No action specified"] } := by rfl
  rw [refused] at honoured
  cases honoured

end

end Nat64Gateway.CommandLine
