import OffChain.Classification.Worker

/-!
# The channel between feed and worker

Calls reach the worker through a channel that holds only so many of them.  The feed puts them in one
by one and waits while the channel is full; it closes the channel when it has no more of them, or
when it sees that the worker is to stop.  Feed and worker move in any order, and the order to stop
can come at any time; what the worker does to the store does not depend on the order of the moves,
but for how far it comes.
-/

namespace OffChain.Classification

/-- A channel with its two ends. -/
structure Channel where
  /-- How many calls it can hold. -/
  capacity : Nat
  /-- The calls that are still to be put in, first one first. -/
  feed : List Transaction
  /-- The calls that it holds, first one first. -/
  held : List Transaction
  /-- Whether no more calls will be put in. -/
  isClosed : Bool
  /-- Whether the worker has been told to stop. -/
  isStopSet : Bool
  /-- The worker. -/
  worker : Worker
  /-- Whether the worker has ended. -/
  hasEnded : Bool

namespace Channel

/-- The empty channel, before the worker has done anything. -/
def start (capacity : Nat) (archive : Archive) (calls : List Transaction) : Channel :=
  { capacity := capacity
    feed := calls
    held := []
    isClosed := false
    isStopSet := false
    worker := ⟨archive, Stats.zero⟩
    hasEnded := false }

/-- What can happen next. -/
inductive Move where
  /-- The feed puts a call in. -/
  | send
  /-- The feed closes the channel. -/
  | close
  /-- The worker is told to stop. -/
  | stop
  /-- The worker looks for its next call. -/
  | work
deriving DecidableEq, Repr

/-- The feed puts its next call in, if there is room for it. -/
def send? (c : Channel) : Option Channel :=
  match c.feed with
  | [] => none
  | trx :: rest =>
    if c.isClosed || c.hasEnded || c.capacity ≤ c.held.length then none
    else some { c with feed := rest, held := c.held ++ [trx] }

/-- The feed closes the channel, if it has no more calls or no use for them. -/
def close? (c : Channel) : Option Channel :=
  if c.isClosed then none
  else if c.feed.isEmpty || c.isStopSet || c.hasEnded then some { c with isClosed := true }
  else none

/-- The worker ends if it is to stop and otherwise takes a call; if there is none, it ends or waits
depending on whether the channel is closed. -/
def work? (c : Channel) : Option Channel :=
  if c.hasEnded then none
  else if c.isStopSet then some { c with hasEnded := true }
  else
    match c.held with
    | trx :: rest => some { c with held := rest, worker := (c.worker.take trx).value }
    | [] => if c.isClosed then some { c with hasEnded := true } else none

/-- The channel after a move, if the move is possible. -/
def step? (c : Channel) : Move → Option Channel
  | .send => c.send?
  | .close => c.close?
  | .stop => some { c with isStopSet := true }
  | .work => c.work?

/-- The channel after some moves, if all of them are possible. -/
def run? (c : Channel) : List Move → Option Channel
  | [] => some c
  | move :: rest => (c.step? move).bind fun c => c.run? rest

end Channel

end OffChain.Classification
