namespace Nat64Gateway.CommandLine

inductive NumberFault where
  | empty
  | digit
  | large
deriving DecidableEq, Repr

def NumberFault.text : NumberFault → String
  | .empty => "cannot parse integer from empty string"
  | .digit => "invalid digit found in string"
  | .large => "number too large to fit in target type"

namespace Number

-- `value` is what the digits read so far amount to, always below `bound`.
def readDigits (bound value : Nat) : List Char → Except NumberFault Nat
  | [] => .ok value
  | c :: rest =>
    if !c.isDigit then .error .digit
    else
      let next := value * 10 + (c.toNat - '0'.toNat)
      if bound ≤ next then .error .large else readDigits bound next rest

-- A sign without digits counts as a character that is none.
def read (bound : Nat) (text : String) : Except NumberFault Nat :=
  match text.toList with
  | [] => .error .empty
  | ['+'] => .error .digit
  | '+' :: digits => readDigits bound 0 digits
  | digits => readDigits bound 0 digits

end Number
end Nat64Gateway.CommandLine
