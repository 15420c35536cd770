import Mathlib.Data.Option.Basic
import Nat64Gateway.CommandLine

namespace Nat64Gateway.CommandLine

namespace Choice

variable {α β : Type} {choice : Choice}

theorem splitAt?_append {separator : Char} {front back : List Char} (apart : separator ∉ front) :
    splitAt? separator (String.ofList (front ++ separator :: back))
      = some (String.ofList front, String.ofList back) := by
  have taken : (front ++ separator :: back).takeWhile (· ≠ separator) = front := by
    rw [List.takeWhile_append_of_pos]
    · simp
    · intro c member
      have other : c ≠ separator := by
        rintro rfl
        exact apart member
      simpa using other
  unfold splitAt?
  simp only [String.toList_ofList, taken, List.drop_left]

theorem name_of_map {make : α → Choice} {name : OptionName} {value : Except String α}
    (named : ∀ content, (make content).name = name) (understood : make <$> value = .ok choice) :
    choice.name = name := by
  cases value with
  | error reason => cases understood
  | ok content =>
    cases understood
    exact named content

theorem name_of_both {make : α → β → Choice} {name : OptionName} {first : Except String α}
    {second : Except String β} (named : ∀ one two, (make one two).name = name)
    (understood : (do
      let one ← first
      let two ← second
      .ok (make one two)) = Except.ok choice) : choice.name = name := by
  cases first with
  | error reason => cases understood
  | ok one =>
    cases second with
    | error reason => cases understood
    | ok two =>
      cases understood
      exact named one two

theorem name_readLogLevel {value : String} (understood : readLogLevel value = .ok choice) :
    choice.name = .logLevel := by
  unfold readLogLevel at understood
  split at understood <;> cases understood
  rfl

theorem name_readHostAddress {value : String} (understood : readHostAddress value = .ok choice) :
    choice.name = .hostAddress := by
  unfold readHostAddress at understood
  split at understood
  · cases understood
  · exact name_of_both (fun _ _ => rfl) understood

theorem name_readNat64Prefix {value : String} (understood : readNat64Prefix value = .ok choice) :
    choice.name = .nat64Prefix := by
  unfold readNat64Prefix at understood
  split at understood
  · cases understood
  · exact name_of_both (fun _ _ => rfl) understood

theorem name_readPortOrder {value : String} (understood : readPortOrder value = .ok choice) :
    choice.name = .endpointPortOrder := by
  unfold readPortOrder at understood
  split at understood <;> cases understood
  rfl

theorem name_read {name : OptionName} {value : String} (understood : read name value = .ok choice) :
    choice.name = name := by
  cases name with
  | logLevel => exact name_readLogLevel understood
  | hostAddress => exact name_readHostAddress understood
  | nat64Prefix => exact name_readNat64Prefix understood
  | endpointPortOrder => exact name_readPortOrder understood
  | capture => cases understood; rfl
  | _ => exact name_of_map (fun _ => rfl) understood

end Choice

structure Given where
  name : OptionName
  value : String
deriving DecidableEq

namespace Given

def text (given : Given) : String :=
  given.name.text ++ "=" ++ given.value

def choice? (given : Given) : Option Choice :=
  (Choice.read given.name given.value).toOption

def Understood (given : Given) : Prop :=
  ∃ choice, Choice.read given.name given.value = .ok choice

instance (given : Given) : Decidable given.Understood :=
  match read : Choice.read given.name given.value with
  | .ok choice => .isTrue ⟨choice, read⟩
  | .error _ => .isFalse fun ⟨_, understood⟩ => nomatch read.symm.trans understood

theorem choice?_eq {given : Given} {choice : Choice}
    (understood : Choice.read given.name given.value = .ok choice) :
    given.choice? = some choice := by
  rw [choice?, understood]
  rfl

theorem text_eq (given : Given) :
    given.text = String.ofList (given.name.text.toList ++ '=' :: given.value.toList) := by
  apply String.toList_inj.mp
  simp [text]

theorem name_apart (name : OptionName) : '=' ∉ name.text.toList := by
  cases name <;> decide

-- No help word has a separator.
theorem text_not_help (given : Given) : Argument.helpWords.contains given.text = false := by
  have separated : '=' ∈ given.text.toList := by
    rw [text_eq, String.toList_ofList]
    exact List.mem_append_right _ List.mem_cons_self
  rw [← Bool.not_eq_true, List.contains_iff_mem]
  intro word
  have clear : ∀ word ∈ Argument.helpWords, '=' ∉ word.toList := by decide
  exact clear _ word separated

theorem read_text {given : Given} {choice : Choice}
    (understood : Choice.read given.name given.value = .ok choice) :
    Argument.read given.text = .chosen choice := by
  unfold Argument.read
  rw [text_not_help, if_neg Bool.false_ne_true, text_eq,
    Choice.splitAt?_append (name_apart given.name)]
  simp only [String.ofList_toList, OptionName.ofText?_text, understood]

end Given

namespace Settings

-- The choice of an option that is in force, its default included.
def held (settings : Settings) : OptionName → Option Choice
  | .logLevel => some (.logLevel settings.logLevel)
  | .hostAddress => settings.host.map fun (address, netmask) => .hostAddress address netmask
  | .defaultRouter => settings.router.map .defaultRouter
  | .localV6 => settings.localV6.map .localV6
  | .tunnelRemote => settings.remote.map .tunnelRemote
  | .tunnelLocalPort => some (.tunnelLocalPort settings.localPort)
  | .nat64Prefix => settings.nat64.map fun (address, length) => .nat64Prefix address length
  | .ephemeralThreshold => some (.ephemeralThreshold settings.threshold)
  | .endpointPortOrder => some (.endpointPortOrder settings.portOrder)
  | .segmentListen => some (.segmentListen settings.segmentListen)
  | .uplinkListen => some (.uplinkListen settings.uplinkListen)
  | .uplinkPeer => settings.uplinkPeer.map .uplinkPeer
  | .capture => settings.capture.map .capture

theorem held_choose (settings : Settings) (choice : Choice) (name : OptionName) :
    (settings.choose choice).held name
      = if choice.name = name then some choice else settings.held name := by
  cases choice <;> cases name <;> rfl

-- Settings are told apart by what they hold.
theorem held_ext {left right : Settings} (same : ∀ name, left.held name = right.held name) :
    left = right := by
  have host : left.host = right.host :=
    Option.map_injective (fun _ _ equal => Prod.ext (Choice.hostAddress.inj equal).1
      (Choice.hostAddress.inj equal).2) (same .hostAddress)
  have nat64 : left.nat64 = right.nat64 :=
    Option.map_injective (fun _ _ equal => Prod.ext (Choice.nat64Prefix.inj equal).1
      (Choice.nat64Prefix.inj equal).2) (same .nat64Prefix)
  cases left
  cases right
  rw [Settings.mk.injEq]
  exact ⟨Choice.logLevel.inj (Option.some.inj (same .logLevel)), host,
    Option.map_injective (fun _ _ => Choice.defaultRouter.inj) (same .defaultRouter),
    Option.map_injective (fun _ _ => Choice.localV6.inj) (same .localV6),
    Option.map_injective (fun _ _ => Choice.tunnelRemote.inj) (same .tunnelRemote),
    Choice.tunnelLocalPort.inj (Option.some.inj (same .tunnelLocalPort)), nat64,
    Choice.ephemeralThreshold.inj (Option.some.inj (same .ephemeralThreshold)),
    Choice.endpointPortOrder.inj (Option.some.inj (same .endpointPortOrder)),
    Choice.segmentListen.inj (Option.some.inj (same .segmentListen)),
    Choice.uplinkListen.inj (Option.some.inj (same .uplinkListen)),
    Option.map_injective (fun _ _ => Choice.uplinkPeer.inj) (same .uplinkPeer),
    Option.map_injective (fun _ _ => Choice.capture.inj) (same .capture)⟩

end Settings
end Nat64Gateway.CommandLine
