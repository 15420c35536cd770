import Nat64Gateway.Wire

namespace Nat64Gateway.Capture

def snapshotLength : Nat := 1500

-- Nanosecond times; version 2.4; packets begin with an IPv4 or IPv6 header (link type 101).
def fileHeader : Bytes :=
  Wire.encode 4 0xa1b23c4d ++ Wire.encode 2 2 ++ Wire.encode 2 4 ++ Wire.encode 4 0
    ++ Wire.encode 4 0 ++ Wire.encode 4 snapshotLength ++ Wire.encode 2 0 ++ Wire.encode 2 101

structure Time where
  seconds : Nat
  nanoseconds : Nat
deriving DecidableEq, Repr

structure Record where
  time : Time
  length : Nat
  captured : Bytes
deriving DecidableEq, Repr

namespace Record

def ofPacket (time : Time) (packet : Bytes) : Record where
  time
  length := packet.length
  captured := packet.take snapshotLength

def encode (record : Record) : Bytes :=
  Wire.encode 4 record.time.seconds ++ Wire.encode 4 record.time.nanoseconds
    ++ Wire.encode 4 record.captured.length ++ Wire.encode 4 record.length ++ record.captured

theorem length_encode (record : Record) : record.encode.length = 16 + record.captured.length := by
  simp only [encode, List.length_append, Wire.length_encode]

end Record

def file (records : List Record) : Bytes :=
  fileHeader ++ records.flatMap Record.encode

end Nat64Gateway.Capture
