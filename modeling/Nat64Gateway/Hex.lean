import Nat64Gateway.Wire

namespace Nat64Gateway.Hex

def digits : List Char := "0123456789abcdef".toList

def digit (value : Nat) : Char :=
  digits.getD value '0'

def ofByte (byte : UInt8) : List Char :=
  [digit (byte.toNat / 16), digit (byte.toNat % 16)]

def plain (bytes : Bytes) : String :=
  String.ofList (bytes.flatMap ofByte)

def spaced (bytes : Bytes) : String :=
  String.ofList ((bytes.map ofByte).intersperse [' ']).flatten

-- A 16-bit word with all four digits, in capitals behind a lower-case mark.
def word (value : Nat) : String :=
  "0x" ++ String.ofList ((Wire.encode 2 value).flatMap fun byte => (ofByte byte).map Char.toUpper)

def shortest (value : Nat) : String :=
  String.ofList (Nat.toDigits 16 value)

end Nat64Gateway.Hex
