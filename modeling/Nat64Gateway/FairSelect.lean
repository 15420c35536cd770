namespace Nat64Gateway.FairSelect

inductive Side where
  | a
  | b
deriving DecidableEq, Repr

def Side.other : Side → Side
  | .a => .b
  | .b => .a

@[simp] theorem Side.other_other (side : Side) : side.other.other = side := by
  cases side <;> rfl

structure Both (α : Type) where
  a : α
  b : α
deriving DecidableEq, Repr

namespace Both

variable {α : Type}

def get (both : Both α) : Side → α
  | .a => both.a
  | .b => both.b

def update (both : Both α) (change : α → α) : Side → Both α
  | .a => { both with a := change both.a }
  | .b => { both with b := change both.b }

end Both

-- How many more polls a source answers with "not yet"; `none` is never ready.
abbrev Delay := Option Nat

structure Round where
  winner : Option Side
  polled : List Side
  delays : Both Delay
deriving DecidableEq, Repr

structure Result where
  winner : Option Side
  rounds : List (List Side)
deriving DecidableEq, Repr

def Result.polls (result : Result) : Both Nat where
  a := result.rounds.flatten.count .a
  b := result.rounds.flatten.count .b

def poll (delays : Both Delay) (side : Side) : Bool × Both Delay :=
  (delays.get side = some 0, delays.update (Option.map (· - 1)) side)

-- `first`, then the other side unless `first` was ready.
def round (first : Side) (delays : Both Delay) : Round :=
  match poll delays first with
  | (true, delays) => ⟨some first, [first], delays⟩
  | (false, delays) =>
    match poll delays first.other with
    | (true, delays) => ⟨some first.other, [first, first.other], delays⟩
    | (false, delays) => ⟨none, [first, first.other], delays⟩

def rounds (first : Side) : Nat → Both Delay → Result
  | 0, _ => ⟨none, []⟩
  | limit + 1, delays =>
    match round first delays with
    | ⟨some winner, polled, _⟩ => ⟨some winner, [polled]⟩
    | ⟨none, polled, delays⟩ =>
      let later := rounds first limit delays
      ⟨later.winner, polled :: later.rounds⟩

-- A call: the delays of its sources, and the number of rounds after which it is given up.
structure Call where
  delays : Both Delay
  limit : Nat
deriving DecidableEq, Repr

-- `turn` is the side that the next call polls first.
def select (turn : Side) (call : Call) : Side × Result :=
  (if call.limit = 0 then turn else turn.other, rounds turn call.limit call.delays)

def run (turn : Side) : List Call → List Result
  | [] => []
  | call :: later =>
    let (turn, result) := select turn call
    result :: run turn later

def start : Side := .a

end Nat64Gateway.FairSelect
