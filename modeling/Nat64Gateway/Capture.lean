import Nat64Gateway.Capture.File
import Nat64Gateway.Log

namespace Nat64Gateway.Capture

def queueLimit : Nat := 100

structure Sender where
  hasLost : Bool := false
deriving DecidableEq, Repr

structure State where
  file : Bytes := fileHeader
  queue : List Record := []
  isOpen : Bool := true
  senders : List Sender := [{}]
deriving DecidableEq, Repr

inductive Loss where
  | full
  | closed
deriving DecidableEq, Repr

def Loss.text : Loss → String
  | .full => "no available capacity"
  | .closed => "channel closed"

-- Senders are told apart by their place in the list of senders. A clock that stands before the epoch
-- has no time to record.
inductive Event where
  | send (sender : Nat) (time? : Option Time) (packet : Bytes)
  | clone (sender : Nat)
  | receive
  | close
deriving DecidableEq, Repr

namespace State

def loss? (state : State) : Option Loss :=
  if !state.isOpen then some .closed
  else if queueLimit ≤ state.queue.length then some .full
  else none

def report (sender : Sender) (loss : Loss) : List Log.Line :=
  if sender.hasLost then []
  else [⟨.error, .capture,
    "PCAP send buffer is full, some data will be lost: " ++ loss.text⟩]

def untimed : Log.Line :=
  ⟨.warn, .capture,
    "Failed to convert time into UNIX for PCAP: second time provided was later than self"⟩

-- Empty packets are not recorded and cannot be lost.
def send (state : State) (index : Nat) (time? : Option Time) (packet : Bytes) :
    State × List Log.Line :=
  if packet = [] then (state, [])
  else
    match state.senders[index]?, time?, state.loss? with
    | none, _, _ => (state, [])
    | some _, none, _ => (state, [untimed])
    | some _, some time, none =>
      ({ state with queue := state.queue ++ [.ofPacket time packet] }, [])
    | some sender, some _, some loss =>
      ({ state with senders := state.senders.set index ⟨true⟩ }, report sender loss)

def step (state : State) : Event → State × List Log.Line
  | .send index time? packet => state.send index time? packet
  | .clone index =>
    match state.senders[index]? with
    | none => (state, [])
    | some sender => ({ state with senders := state.senders ++ [sender] }, [])
  | .receive =>
    match state.queue with
    | [] => (state, [])
    | record :: queue => ({ state with queue, file := state.file ++ record.encode }, [])
  | .close => ({ state with isOpen := false, queue := [] }, [])

def run (state : State) : List Event → State × List (List Log.Line)
  | [] => (state, [])
  | event :: later =>
    let (next, lines) := state.step event
    let (final, rest) := next.run later
    (final, lines :: rest)

def drained (state : State) : Bytes :=
  state.file ++ state.queue.flatMap Record.encode

end State
end Nat64Gateway.Capture
