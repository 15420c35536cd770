import Nat64Gateway.Address

namespace Nat64Gateway.Address

namespace Reader

def digit? (radix : Nat) (c : Char) : Option Nat :=
  let value :=
    if '0' ≤ c ∧ c ≤ '9' then c.toNat - '0'.toNat
    else if 'a' ≤ c ∧ c ≤ 'f' then c.toNat - 'a'.toNat + 10
    else if 'A' ≤ c ∧ c ≤ 'F' then c.toNat - 'A'.toNat + 10
    else radix
  if value < radix then some value else none

-- How a number is written: `width` limits the digits, `bound` the value.
structure NumberForm where
  radix : Nat
  bound : Nat
  width : Option Nat
  leadingZeros : Bool

def octet : NumberForm := ⟨10, 256, some 3, false⟩
def group : NumberForm := ⟨16, 65536, some 4, true⟩
def portNumber : NumberForm := ⟨10, 65536, none, true⟩
def scopeNumber : NumberForm := ⟨10, 0x100000000, none, true⟩

-- All digits in front belong to the number, so that one digit too many refuses it.
def number (form : NumberForm) (text : List Char) : Option (Nat × List Char) :=
  let isDigit := fun c => (digit? form.radix c).isSome
  let digits := (text.takeWhile isDigit).filterMap (digit? form.radix)
  let value := digits.foldl (fun value digit => value * form.radix + digit) 0
  if digits = [] ∨ form.width.any (· < digits.length)
      ∨ (form.leadingZeros = false ∧ digits.head? = some 0 ∧ 1 < digits.length)
      ∨ form.bound ≤ value then none
  else some (value, text.dropWhile isDigit)

def mark (c : Char) : List Char → Option (List Char)
  | [] => none
  | d :: rest => if d = c then some rest else none

def v4 (text : List Char) : Option (V4 × List Char) := do
  let (a, text) ← number octet text
  let (b, text) ← number octet (← mark '.' text)
  let (c, text) ← number octet (← mark '.' text)
  let (d, text) ← number octet (← mark '.' text)
  some (V4.ofOctets [UInt8.ofNat a, UInt8.ofNat b, UInt8.ofNat c, UInt8.ofNat d], text)

-- Every item but the first stands behind a colon.
def item {α : Type} (first : Bool) (reader : List Char → Option (α × List Char))
    (text : List Char) : Option (α × List Char) :=
  if first then reader text else (mark ':' text).bind reader

-- At most `room` groups. The flag tells that the last two of them were written as an IPv4 address,
-- which ends the groups.
def groups : Nat → Bool → List Char → List Nat × Bool × List Char
  | 0, _, text => ([], false, text)
  | room + 1, first, text =>
    match if room = 0 then none else item first v4 text with
    | some (address, rest) =>
      ([address.bits.toNat / 65536, address.bits.toNat % 65536], true, rest)
    | none =>
      match item first (number group) text with
      | none => ([], false, text)
      | some (value, rest) =>
        let (values, dotted, rest) := groups room false rest
        (value :: values, dotted, rest)

def ofGroups (groups : List Nat) : V6 :=
  ⟨BitVec.ofNat 128 (groups.foldl (fun value group => value * 65536 + group) 0)⟩

def v6 (text : List Char) : Option (V6 × List Char) :=
  let (front, dotted, rest) := groups 8 true text
  if front.length = 8 then some (ofGroups front, rest)
  else if dotted then none
  else do
    let rest ← mark ':' (← mark ':' rest)
    let (back, _, rest) := groups (7 - front.length) true rest
    let zeros := List.replicate (8 - front.length - back.length) 0
    some (ofGroups (front ++ zeros ++ back), rest)

def port (text : List Char) : Option (UInt16 × List Char) := do
  let (value, rest) ← number portNumber (← mark ':' text)
  some (UInt16.ofNat value, rest)

def socket4 (text : List Char) : Option (Socket4 × List Char) := do
  let (address, rest) ← v4 text
  let (port, rest) ← port rest
  some (⟨address, port⟩, rest)

def socket6 (text : List Char) : Option (Socket × List Char) := do
  let (address, rest) ← v6 (← mark '[' text)
  let (scope, rest) := ((mark '%' rest).bind (number scopeNumber)).getD (0, rest)
  let (port, rest) ← port (← mark ']' rest)
  some (.v6 address scope port, rest)

def socket (text : List Char) : Option (Socket × List Char) :=
  match socket4 text with
  | some (socket, rest) => some (.v4 socket, rest)
  | none => socket6 text

def whole {α : Type} (reader : List Char → Option (α × List Char)) (text : String) : Option α :=
  match reader text.toList with
  | some (value, []) => some value
  | _ => none

end Reader

-- Nothing longer than `255.255.255.255` is looked at.
def V4.read? (text : String) : Option V4 :=
  if 15 < text.utf8ByteSize then none else Reader.whole Reader.v4 text

def V6.read? (text : String) : Option V6 :=
  Reader.whole Reader.v6 text

def Socket4.read? (text : String) : Option Socket4 :=
  Reader.whole Reader.socket4 text

def Socket.read? (text : String) : Option Socket :=
  Reader.whole Reader.socket text

end Nat64Gateway.Address
