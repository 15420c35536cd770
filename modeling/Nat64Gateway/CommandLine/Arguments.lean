import Nat64Gateway.CommandLine.Settings

namespace Nat64Gateway.CommandLine

inductive Argument where
  | chosen (choice : Choice)
  | help
  | unknown (argument : String)
  | valueless (argument : String)
  | refused (name value reason : String)
deriving DecidableEq, Repr

namespace Argument

def helpWords : List String := ["--help", "help"]

def read (argument : String) : Argument :=
  if helpWords.contains argument then .help
  else
    match Choice.splitAt? '=' argument with
    | none => .valueless argument
    | some (name, value) =>
      match OptionName.ofText? name with
      | none => .unknown argument
      | some option =>
        match Choice.read option value with
        | .ok choice => .chosen choice
        | .error reason => .refused name value reason

end Argument

inductive Halt where
  | help
  | valueless (argument : String)
  | refused (name value reason : String)
deriving DecidableEq, Repr

structure Scan where
  settings : Settings := {}
  complaints : List String := []
  halt : Option Halt := none
deriving DecidableEq, Repr

def Scan.complain (complaint : String) (scan : Scan) : Scan :=
  { scan with complaints := complaint :: scan.complaints }

def scan (settings : Settings) : List String → Scan
  | [] => { settings }
  | argument :: later =>
    match Argument.read argument with
    | .chosen choice => scan (settings.choose choice) later
    | .unknown argument => (scan settings later).complain ("Unsupported argument " ++ argument)
    | .help => { settings, halt := some .help }
    | .valueless argument => { settings, halt := some (.valueless argument) }
    | .refused name value reason => { settings, halt := some (.refused name value reason) }

end Nat64Gateway.CommandLine
