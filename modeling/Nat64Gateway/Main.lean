import Nat64Gateway.Capture
import Nat64Gateway.CommandLine
import Nat64Gateway.FairSelect
import Nat64Gateway.Relay.Journal
import Std.Async.Signal
import Std.Async.UDP

namespace Nat64Gateway.Program

open Std.Async Std.Net

-- Sockets as the operating system names them, and as the library does.
def bytesOf (segments : List UInt16) : Bytes :=
  segments.flatMap Wire.encodeWord

def ofSystem : SocketAddress → Address.Socket
  | .v4 socket => .v4 ⟨.ofOctets socket.addr.octets.toList, socket.port⟩
  | .v6 socket => .v6 (.ofOctets (bytesOf socket.addr.segments.toList)) 0 socket.port

def toSystem : Address.Socket → SocketAddress
  | .v4 socket =>
    let octet := Wire.byte socket.address.octets
    .v4 ⟨.ofParts (octet 0) (octet 1) (octet 2) (octet 3), socket.port⟩
  | .v6 address _ port =>
    let group := fun index => Wire.word address.octets (2 * index)
    .v6 ⟨.ofParts (group 0) (group 1) (group 2) (group 3) (group 4) (group 5) (group 6) (group 7),
      port⟩

-- Codes of the socket library come negated and its texts begin with a small letter.
def systemText (code : UInt32) (details : String) : String :=
  let code := if code.toNat < 0x80000000 then code.toNat else 0x100000000 - code.toNat
  details.capitalize ++ " (os error " ++ toString code ++ ")"

def reason : IO.Error → String
  | .noFileOrDirectory _ code details | .alreadyExists _ code details
  | .permissionDenied _ code details | .inappropriateType _ code details
  | .resourceExhausted _ code details | .noSuchThing _ code details
  | .invalidArgument _ code details | .resourceBusy code details | .otherError code details
  | .unsupportedOperation code details => systemText code details
  | failure => toString failure

def log (limit : Option Log.Level) (lines : List Log.Line) : IO Unit :=
  lines.forM fun line => do
    if Log.Level.admits limit line.level then
      if line.level.isComplaint then IO.eprintln line.text else IO.println line.text

structure Recorder where
  handle : IO.FS.Handle
  state : Capture.State

def openCapture (path : String) : IO Recorder := do
  let handle ← IO.FS.Handle.mk path .write
  let state : Capture.State := {}
  handle.write state.file.toByteArray
  handle.flush
  return { handle, state }

def now : IO (Option Capture.Time) := do
  let time ← Std.Time.Timestamp.now
  let nanoseconds := time.toNanosecondsSinceUnixEpoch.val
  if nanoseconds < 0 then return none
  return some ⟨nanoseconds.toNat / 1000000000, nanoseconds.toNat % 1000000000⟩

-- Sends one packet to the capture and lets the writer catch up. The state keeps no written bytes.
def record (limit : Option Log.Level) (recorder : Recorder) (packet : Bytes) : IO Recorder := do
  let (state, lines) := recorder.state.step (.send 0 (← now) packet)
  log limit lines
  try
    recorder.handle.write (state.queue.flatMap Capture.Record.encode).toByteArray
    recorder.handle.flush
  catch failure =>
    log limit [⟨.error, .capture, "Failed to write packet to PCAP file: " ++ reason failure⟩]
  return { recorder with state := { state with queue := [] } }

structure Sockets where
  segment : UDP.Socket
  uplink : UDP.Socket

def Sockets.get (sockets : Sockets) : Relay.Side → UDP.Socket
  | .segment => sockets.segment
  | .uplink => sockets.uplink

inductive Event where
  | datagram (received : Relay.Received Address.Socket)
  | failure (side : Relay.Side) (reason : String)
  | shutdown

def sideName : Relay.Side → String
  | .segment => "segment"
  | .uplink => "uplink"

def event (side : Relay.Side) (data : ByteArray) : Option SocketAddress → Event
  | some sender => .datagram ⟨side, ofSystem sender, data.toList⟩
  | none => .failure side "datagram without a sender"

def sideOf : FairSelect.Side → Relay.Side
  | .a => .segment
  | .b => .uplink

-- Both sides are asked in turn before anyone waits.
def next (sockets : Sockets) (signal : Signal.Waiter) (turn : FairSelect.Side) : Async Event := do
  let receive := fun side => (sockets.get side).recvSelector Relay.maxPacket.toUInt64
  let wait := fun side =>
    Selectable.case (receive side) fun (data, sender) => return event side data sender
  for side in [sideOf turn, sideOf turn.other] do
    if let some (data, sender) ← (receive side).tryFn then
      return event side data sender
  Selectable.one #[wait .segment, wait .uplink, .case signal.selector fun _ => return .shutdown]

def deliver (limit : Option Log.Level) (sockets : Sockets) (sent : Relay.Sent Address.Socket) :
    Async Unit := do
  try
    (sockets.get sent.side).send sent.data.toByteArray (some (toSystem sent.recipient))
  catch failure =>
    log limit [Relay.line .warn
      ("Failed to send packet to " ++ sideName sent.side ++ ": " ++ reason failure)]

partial def serve (limit : Option Log.Level) (sockets : Sockets) (signal : Signal.Waiter)
    (relay : Relay Address.Socket) (recorder : Option Recorder) (turn : FairSelect.Side) :
    Async Unit := do
  match ← next sockets signal turn with
  | .shutdown => log limit [Relay.line .info "Stopping gateway"]
  | .failure side text =>
    log limit [Relay.line .warn ("Failed to receive packet from " ++ sideName side ++ ": " ++ text)]
    serve limit sockets signal relay recorder turn.other
  | .datagram received =>
    log limit (relay.remarks Address.Socket.text received)
    let (relay, reply?) := relay.handle received
    let mut recorder := recorder
    if let some reply := reply? then
      log limit reply.outcome.log
      for sent in reply.sent do
        if let some kept := recorder then
          recorder := some (← record limit kept sent.data)
        deliver limit sockets sent
    serve limit sockets signal relay recorder turn.other

def bound (address : Address.Socket) : IO UDP.Socket := do
  let socket ← UDP.Socket.mk
  socket.bind (toSystem address)
  return socket

def start (station : CommandLine.Station) : IO Unit := do
  let recorder ← station.capture.mapM openCapture
  let sockets : Sockets := {
    segment := ← bound station.segmentListen
    uplink := ← bound station.uplinkListen }
  let name := fun (socket : UDP.Socket) => do
    return (ofSystem (← socket.getSockName)).text
  log station.logLevel (Relay.opening station.context (← name sockets.segment)
    (← name sockets.uplink) station.uplinkPeer.text)
  let nextId := UInt16.ofNat (← IO.rand 0 65535)
  let relay : Relay Address.Socket := {
    tunnel := { context := station.context, nextId }
    uplinkPeer := station.uplinkPeer }
  let signal ← Signal.Waiter.mk .sigint false
  (serve station.logLevel sockets signal relay recorder FairSelect.start).block

def print (report : CommandLine.Report) : IO Unit := do
  report.output.forM IO.println
  report.errors.forM IO.eprintln

end Nat64Gateway.Program

open Nat64Gateway in
def main (arguments : List String) : IO UInt32 := do
  match CommandLine.run "tunnel64" arguments with
  | .finished code report =>
    Program.print report
    return code.toUInt32
  | .serving station report =>
    Program.print report
    try
      Program.start station
      return 0
    catch failure =>
      IO.println (CommandLine.brokenText (Program.reason failure))
      return 1
