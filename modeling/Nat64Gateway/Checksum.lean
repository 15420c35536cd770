import Nat64Gateway.Protocol
import Nat64Gateway.Wire

namespace Nat64Gateway.Checksum

structure Accumulator where
  total : UInt32
deriving DecidableEq, Repr

namespace Accumulator

def start (seed : UInt16) : Accumulator := ⟨seed.toUInt32⟩

def foldOnce (total : UInt32) : UInt32 :=
  (total >>> 16) + (total &&& 0xffff)

-- 0xffff + 0xffff is 0x1fffe, and 1 + 0xfffe is 0xffff: a second step leaves no carry behind.
def fold (sum : Accumulator) : Accumulator :=
  ⟨foldOnce (foldOnce sum.total)⟩

-- An odd byte at the end is the high half of a word.
def addWords (total : UInt32) : Bytes → UInt32
  | [] => total
  | [high] => total + (high.toUInt32 <<< 8)
  | high :: low :: rest => addWords (total + (high.toUInt32 <<< 8 ||| low.toUInt32)) rest

-- Folding first keeps room for a chunk of 128 KiB.
def add (sum : Accumulator) (chunk : Bytes) : Accumulator :=
  ⟨addWords sum.fold.total chunk⟩

def sum (sum : Accumulator) : UInt16 :=
  sum.fold.total.toUInt16

-- Never zero, which is how a UDP sender says that there is no checksum.
def value (acc : Accumulator) : UInt16 :=
  if acc.sum = 0xffff then 0xffff else ~~~acc.sum

end Accumulator

def sum (seed : UInt16) (bytes : Bytes) : UInt16 :=
  ((Accumulator.start seed).add bytes).sum

def headerValue (header : Bytes) : UInt16 :=
  ((Accumulator.start 0).add header).value

def headerValid (header : Bytes) : Bool :=
  sum 0 header = 0xffff

def headerLength4 (packet : Bytes) : Nat :=
  (Wire.byte packet 0).toNat % 16 * 4

def headerLength : Family → Bytes → Nat
  | .v4, packet => headerLength4 packet
  | .v6, _ => 40

-- What is summed ahead of a segment of `length` bytes. ICMP over IPv4 has no pseudo-header.
def pseudoHeader (family : Family) (packet : Bytes) (protocol : Protocol) (length : Nat) :
    List Bytes :=
  match family with
  | .v4 =>
    if protocol = .icmp4 then []
    else [Wire.field packet 12 8, [0, protocol.number], Wire.encode 2 length]
  | .v6 => [Wire.field packet 8 32, Wire.encode 4 length, [0, 0, 0, protocol.number]]

def transportSum (family : Family) (packet : Bytes) (protocol : Protocol) : Accumulator :=
  let segment := packet.drop (headerLength family packet)
  let ahead := pseudoHeader family packet protocol segment.length
  (ahead.foldl Accumulator.add (Accumulator.start 0)).add segment

def transportValue (family : Family) (packet : Bytes) (protocol : Protocol) : UInt16 :=
  (transportSum family packet protocol).value

def transportField (family : Family) (packet : Bytes) (protocol : Protocol) : Nat :=
  headerLength family packet + protocol.checksumOffset

-- UDP over IPv4 may leave the checksum out.
def omitted (family : Family) (packet : Bytes) (protocol : Protocol) : Bool :=
  family = .v4 ∧ protocol = .udp ∧
    Wire.field packet (transportField family packet protocol) 2 = [0, 0]

def transportValid (family : Family) (packet : Bytes) (protocol : Protocol) : Bool :=
  omitted family packet protocol || (transportSum family packet protocol).sum = 0xffff

def fillHeader (packet : Bytes) : Bytes :=
  let blank := Wire.overwrite packet 10 [0, 0]
  Wire.overwrite blank 10 (Wire.encode 2 (headerValue (blank.take (headerLength4 packet))).toNat)

def fillTransport (family : Family) (packet : Bytes) (protocol : Protocol) : Bytes :=
  let offset := transportField family packet protocol
  let blank := Wire.overwrite packet offset [0, 0]
  Wire.overwrite blank offset (Wire.encode 2 (transportValue family blank protocol).toNat)

theorem length_fillHeader {packet : Bytes} (header : 12 ≤ packet.length) :
    (fillHeader packet).length = packet.length := by
  have blank : (Wire.overwrite packet 10 [0, 0]).length = packet.length :=
    Wire.length_overwrite header
  exact (Wire.length_overwrite (by rw [blank, Wire.length_encode]; exact header)).trans blank

theorem length_fillTransport {family : Family} {packet : Bytes} {protocol : Protocol}
    (inside : transportField family packet protocol + 2 ≤ packet.length) :
    (fillTransport family packet protocol).length = packet.length := by
  have blank : (Wire.overwrite packet (transportField family packet protocol) [0, 0]).length
      = packet.length := Wire.length_overwrite inside
  exact (Wire.length_overwrite (by rw [blank, Wire.length_encode]; exact inside)).trans blank

end Nat64Gateway.Checksum
