import Nat64Gateway.Proofs.Wire

namespace Nat64Gateway.Guarded

inductive Accident where
  | bounds
  | lengths
  | underflow
  | overflow
  | narrowing
deriving DecidableEq, Repr

-- An operation does what it says or stops with the accident that it met.
abbrev Checked (α : Type) := Except Accident α

section Operations

def slice (bytes : Bytes) (start stop : Nat) : Checked Bytes :=
  if start ≤ stop ∧ stop ≤ bytes.length then .ok (Wire.field bytes start (stop - start))
  else .error .bounds

def sliceFrom (bytes : Bytes) (start : Nat) : Checked Bytes :=
  if start ≤ bytes.length then .ok (bytes.drop start) else .error .bounds

def sliceTo (bytes : Bytes) (stop : Nat) : Checked Bytes :=
  if stop ≤ bytes.length then .ok (bytes.take stop) else .error .bounds

def byteAt (bytes : Bytes) (index : Nat) : Checked UInt8 :=
  if index < bytes.length then .ok (Wire.byte bytes index) else .error .bounds

def array (width : Nat) (part : Bytes) : Checked Bytes :=
  if part.length = width then .ok part else .error .lengths

def copy (bytes : Bytes) (start stop : Nat) (new : Bytes) : Checked Bytes :=
  if start ≤ stop ∧ stop ≤ bytes.length then
    if new.length = stop - start then .ok (Wire.overwrite bytes start new) else .error .lengths
  else .error .bounds

def put (bytes : Bytes) (index : Nat) (value : UInt8) : Checked Bytes :=
  if index < bytes.length then .ok (Wire.overwrite bytes index [value]) else .error .bounds

def fill (bytes : Bytes) (start stop : Nat) (value : UInt8) : Checked Bytes :=
  copy bytes start stop (List.replicate (stop - start) value)

-- The bytes from `start` to `stop` to another place, where they may overlap themselves.
def move (bytes : Bytes) (start stop target : Nat) : Checked Bytes := do
  let part ← slice bytes start stop
  copy bytes target (target + part.length) part

-- An edit that sees the slice from `start` to `stop` and nothing else.
def within (bytes : Bytes) (start stop : Nat) (edit : Bytes → Checked Bytes) : Checked Bytes := do
  let part ← slice bytes start stop
  let changed ← edit part
  copy bytes start stop changed

def minus (left right : Nat) : Checked Nat :=
  if right ≤ left then .ok (left - right) else .error .underflow

def plus (left right : UInt32) : Checked UInt32 :=
  if left.toNat + right.toNat < 4294967296 then .ok (left + right) else .error .overflow

def narrow (value : Nat) : Checked UInt16 :=
  if value < 65536 then .ok (UInt16.ofNat value) else .error .narrowing

end Operations

@[simp] theorem ok_bind {α β : Type} (value : α) (next : α → Checked β) :
    ((Except.ok value : Checked α) >>= next) = next value :=
  rfl

section Access

variable {bytes new : Bytes} {start stop index : Nat}

theorem slice_eq (ordered : start ≤ stop) (inside : stop ≤ bytes.length) :
    slice bytes start stop = .ok (Wire.field bytes start (stop - start)) :=
  if_pos ⟨ordered, inside⟩

theorem sliceFrom_eq (inside : start ≤ bytes.length) :
    sliceFrom bytes start = .ok (bytes.drop start) :=
  if_pos inside

theorem sliceTo_eq (inside : stop ≤ bytes.length) : sliceTo bytes stop = .ok (bytes.take stop) :=
  if_pos inside

theorem byteAt_eq (inside : index < bytes.length) :
    byteAt bytes index = .ok (Wire.byte bytes index) :=
  if_pos inside

theorem array_eq {width : Nat} (same : new.length = width) : array width new = .ok new :=
  if_pos same

theorem copy_eq (same : start + new.length = stop) (inside : stop ≤ bytes.length) :
    copy bytes start stop new = .ok (Wire.overwrite bytes start new) := by
  unfold copy
  rw [if_pos ⟨by omega, inside⟩, if_pos (by omega)]

theorem put_eq {value : UInt8} (inside : index < bytes.length) :
    put bytes index value = .ok (Wire.overwrite bytes index [value]) :=
  if_pos inside

theorem fill_eq {value : UInt8} (ordered : start ≤ stop) (inside : stop ≤ bytes.length) :
    fill bytes start stop value
      = .ok (Wire.overwrite bytes start (List.replicate (stop - start) value)) :=
  copy_eq (by rw [List.length_replicate]; omega) inside

theorem fill_two {value : UInt8} (inside : start + 2 ≤ bytes.length) :
    fill bytes start (start + 2) value = .ok (Wire.overwrite bytes start [value, value]) := by
  rw [fill_eq (Nat.le_add_right ..) inside, Nat.add_sub_cancel_left]
  rfl

-- Writes that follow one another are one longer write.
theorem copy_next {first : Bytes} {next : Nat} (behind : start + first.length = next)
    (same : next + new.length = stop) (inside : stop ≤ bytes.length) :
    copy (Wire.overwrite bytes start first) next stop new
      = .ok (Wire.overwrite bytes start (first ++ new)) := by
  have room : start + first.length ≤ bytes.length := by omega
  have length := Wire.length_overwrite room
  rw [copy_eq same (by omega), ← behind, Wire.overwrite_adjacent room]

theorem put_next {first : Bytes} {value : UInt8} (behind : start + first.length = index)
    (inside : index < bytes.length) :
    put (Wire.overwrite bytes start first) index value
      = .ok (Wire.overwrite bytes start (first ++ [value])) := by
  have room : start + first.length ≤ bytes.length := by omega
  have length := Wire.length_overwrite room
  rw [put_eq (by omega), ← behind, Wire.overwrite_adjacent room]

theorem fill_next {first : Bytes} {next : Nat} {value : UInt8}
    (behind : start + first.length = next) (ordered : next ≤ stop)
    (inside : stop ≤ bytes.length) :
    fill (Wire.overwrite bytes start first) next stop value
      = .ok (Wire.overwrite bytes start (first ++ List.replicate (stop - next) value)) :=
  copy_next behind (by rw [List.length_replicate]; omega) inside

theorem move_eq {target : Nat} (ordered : start ≤ stop) (inside : stop ≤ bytes.length)
    (room : target + (stop - start) ≤ bytes.length) :
    move bytes start stop target
      = .ok (Wire.overwrite bytes target (Wire.field bytes start (stop - start))) := by
  have width := Wire.length_field (by omega : start + (stop - start) ≤ bytes.length)
  unfold move
  rw [slice_eq ordered inside, ok_bind]
  exact copy_eq rfl (by rw [width]; exact room)

theorem within_eq {edit : Bytes → Checked Bytes} {changed : Bytes} (ordered : start ≤ stop)
    (inside : stop ≤ bytes.length)
    (edited : edit (Wire.field bytes start (stop - start)) = .ok changed)
    (same : changed.length = stop - start) :
    within bytes start stop edit = .ok (Wire.overwrite bytes start changed) := by
  unfold within
  rw [slice_eq ordered inside, ok_bind, edited, ok_bind]
  exact copy_eq (by omega) inside

-- What stands at the front is edited, and the rest stays.
theorem within_front {edit : Bytes → Checked Bytes} {old : Bytes}
    (stands : Wire.field bytes 0 stop = old) (inside : stop ≤ bytes.length)
    (edited : edit old = .ok new) (same : new.length = stop) :
    within bytes 0 stop edit = .ok (new ++ bytes.drop stop) := by
  rw [within_eq (Nat.zero_le _) inside (by rw [Nat.sub_zero, stands]; exact edited)
    (by rw [Nat.sub_zero]; exact same)]
  simp [Wire.overwrite, same]

end Access

theorem minus_eq {left right : Nat} (enough : right ≤ left) :
    minus left right = .ok (left - right) :=
  if_pos enough

theorem plus_eq {left right : UInt32} (room : left.toNat + right.toNat < 4294967296) :
    plus left right = .ok (left + right) :=
  if_pos room

theorem narrow_eq {value : Nat} (fits : value < 65536) :
    narrow value = .ok (UInt16.ofNat value) :=
  if_pos fits

theorem encodeWord_narrowed {value : Nat} (fits : value < 65536) :
    Wire.encodeWord (UInt16.ofNat value) = Wire.encode 2 value := by
  unfold Wire.encodeWord
  rw [UInt16.toNat_ofNat', Nat.mod_eq_of_lt fits]

def octets (bytes : Bytes) (start width : Nat) : Checked Bytes := do
  let part ← slice bytes start (start + width)
  array width part

theorem octets_eq {bytes : Bytes} {start width : Nat} (inside : start + width ≤ bytes.length) :
    octets bytes start width = .ok (Wire.field bytes start width) := by
  have length := Wire.length_field inside
  unfold octets
  rw [slice_eq (Nat.le_add_right ..) inside, ok_bind, Nat.add_sub_cancel_left, array_eq length]

def number (bytes : Bytes) (start width : Nat) : Checked Nat := do
  let part ← octets bytes start width
  .ok (Wire.decode part)

theorem number_eq {bytes : Bytes} {start width : Nat} (inside : start + width ≤ bytes.length) :
    number bytes start width = .ok (Wire.number bytes start width) := by
  unfold number
  rw [octets_eq inside, ok_bind]
  rfl

end Nat64Gateway.Guarded
