namespace Nat64Gateway.Log

inductive Level where
  | error
  | warn
  | info
  | debug
  | trace
deriving DecidableEq, Repr

namespace Level

def text : Level → String
  | .error => "ERROR"
  | .warn => "WARN"
  | .info => "INFO"
  | .debug => "DEBUG"
  | .trace => "TRACE"

-- Grows as the matter loses weight.
def detail : Level → Nat
  | .error => 1
  | .warn => 2
  | .info => 3
  | .debug => 4
  | .trace => 5

def admits (limit : Option Level) (level : Level) : Bool :=
  limit.any fun most => level.detail ≤ most.detail

-- Warnings and errors are for the operator's eyes and go to standard error.
def isComplaint (level : Level) : Bool :=
  level.detail ≤ warn.detail

end Level

inductive Part where
  | context
  | nat64
  | tunnel
  | capture
  | relay
deriving DecidableEq, Repr

def Part.text : Part → String
  | .context => "tunnel64::context"
  | .nat64 => "tunnel64::ip::translate"
  | .tunnel => "tunnel64::tunnel"
  | .capture => "tunnel64::pcap"
  | .relay => "tunnel64::gateway"

structure Line where
  level : Level
  part : Part
  message : String
deriving DecidableEq, Repr

def Line.text (line : Line) : String :=
  line.level.text ++ " " ++ line.part.text ++ " -- " ++ line.message

end Nat64Gateway.Log
