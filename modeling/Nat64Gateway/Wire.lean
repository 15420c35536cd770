namespace Nat64Gateway

abbrev Bytes := List UInt8

namespace Wire

-- Digits that do not fit into `width` bytes are dropped from the front.
def encode : Nat → Nat → Bytes
  | 0, _ => []
  | width + 1, value => encode width (value / 256) ++ [UInt8.ofNat value]

def decode (bytes : Bytes) : Nat :=
  bytes.foldl (fun value byte => value * 256 + byte.toNat) 0

-- Fields that stick out of the bytes are cut short; every reader checks the room first.
def field (bytes : Bytes) (offset width : Nat) : Bytes :=
  (bytes.drop offset).take width

def capacity : Nat → Nat
  | 0 => 1
  | width + 1 => 256 * capacity width

def number (bytes : Bytes) (offset width : Nat) : Nat :=
  decode (field bytes offset width)

def byte (bytes : Bytes) (offset : Nat) : UInt8 :=
  bytes.getD offset 0

def word (bytes : Bytes) (offset : Nat) : UInt16 :=
  UInt16.ofNat (number bytes offset 2)

def encodeWord (value : UInt16) : Bytes :=
  encode 2 value.toNat

-- `new` in the place of as many bytes from `offset` on.
def overwrite (bytes : Bytes) (offset : Nat) (new : Bytes) : Bytes :=
  bytes.take offset ++ new ++ bytes.drop (offset + new.length)

@[simp] theorem length_encode (width value : Nat) : (encode width value).length = width := by
  induction width generalizing value with
  | zero => rfl
  | succ width ih => simp [encode, ih]

theorem decode_append_singleton (bytes : Bytes) (last : UInt8) :
    decode (bytes ++ [last]) = decode bytes * 256 + last.toNat := by
  simp [decode]

theorem decode_encode (width value : Nat) :
    decode (encode width value) = value % capacity width := by
  induction width generalizing value with
  | zero => simp [encode, decode, capacity, Nat.mod_one]
  | succ width ih =>
    have low : (UInt8.ofNat value).toNat = value % 256 := by simp
    rw [encode, decode_append_singleton, ih, low, capacity, Nat.mod_mul]
    omega

theorem decode_encode_of_lt {width value : Nat} (fits : value < capacity width) :
    decode (encode width value) = value := by
  rw [decode_encode, Nat.mod_eq_of_lt fits]

theorem decode_lt (bytes : Bytes) : decode bytes < capacity bytes.length := by
  suffices reversed : ∀ back : Bytes, decode back.reverse < capacity back.length by
    simpa using reversed bytes.reverse
  intro back
  induction back with
  | nil => simp [decode, capacity]
  | cons last front ih =>
    have small : last.toNat < 256 := last.toNat_lt
    rw [List.reverse_cons, decode_append_singleton, List.length_cons, capacity]
    omega

theorem encode_decode (bytes : Bytes) : encode bytes.length (decode bytes) = bytes := by
  suffices reversed : ∀ back : Bytes, encode back.length (decode back.reverse) = back.reverse by
    simpa using reversed bytes.reverse
  intro back
  induction back with
  | nil => rfl
  | cons last front ih =>
    have small : last.toNat < 256 := last.toNat_lt
    have high : (decode front.reverse * 256 + last.toNat) / 256 = decode front.reverse := by omega
    have low : UInt8.ofNat (decode front.reverse * 256 + last.toNat) = last := by
      apply UInt8.toNat_inj.mp
      simp
    rw [List.reverse_cons, decode_append_singleton, List.length_cons, encode, high, low, ih]

theorem length_overwrite {bytes new : Bytes} {offset : Nat}
    (inside : offset + new.length ≤ bytes.length) :
    (overwrite bytes offset new).length = bytes.length := by
  simp [overwrite]
  omega

end Wire
end Nat64Gateway
