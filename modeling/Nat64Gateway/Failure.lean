import Nat64Gateway.Fault

namespace Nat64Gateway

inductive Failure where
  | internal (detail : String)
  | invalidAddress (reason : String)
  | io (reason : String)
deriving DecidableEq, Repr

namespace Failure

def ofFault (fault : Fault) : Failure :=
  .invalidAddress fault.message

def message : Failure → String
  | .internal detail => detail
  | .invalidAddress reason => "Invalid address: " ++ reason
  | .io reason => "IO error: " ++ reason

def cause? : Failure → Option String
  | .internal _ => none
  | .invalidAddress reason | .io reason => some reason

end Failure
end Nat64Gateway
