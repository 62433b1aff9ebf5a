import OffChain.Classification.Channel

/-!
# Told to stop in the middle of a call

Here the worker receives a call in one move and finishes it in another one, so that the feed can
move, and the worker can be told to stop, while a call is in flight.  The worker is told to stop
during the `n`-th attempt of the run to write a classification, and before the run if `n` is zero.
-/

namespace OffChain.Classification

/-- A channel whose worker can be in the middle of a call. -/
structure Flight where
  /-- The channel; its worker has not done anything yet about the call in flight. -/
  channel : Channel
  /-- The calls that the worker has finished, first one first. -/
  finished : List Transaction
  /-- The call in flight, if there is one. -/
  call : Option Transaction

namespace Flight

/-- The empty channel, before the worker has received anything. -/
def start (n capacity : Nat) (archive : Archive) (calls : List Transaction) : Flight :=
  { channel := { Channel.start capacity archive calls with isStopSet := n == 0 }
    finished := []
    call := none }

/-- The calls that the worker received, first one first. -/
def received (f : Flight) : List Transaction :=
  f.finished ++ f.call.toList

/-- Whether the `n`-th attempt to write is in progress and the worker was not told to stop yet: it
is told now, before anything comes of the attempt. -/
def isStopDue (n : Nat) (f : Flight) : Bool :=
  !f.channel.isStopSet && f.call.any fun trx =>
    (examine f.channel.worker.archive trx).value.2.isAttempt
      && f.channel.worker.stats.attempts + 1 == n

/-- The worker is told to stop. -/
def stop? (n : Nat) (f : Flight) : Option Flight :=
  if f.isStopDue n then some { f with channel := { f.channel with isStopSet := true } } else none

/-- The worker finishes the call in flight.  Without one it ends if it is to stop, and otherwise
receives a call; if there is none, it ends or waits depending on whether the channel is closed. -/
def work? (n : Nat) (f : Flight) : Option Flight :=
  match f.call with
  | some trx =>
    if f.isStopDue n then none
    else some
      { channel := { f.channel with worker := (f.channel.worker.take trx).value }
        finished := f.finished ++ [trx]
        call := none }
  | none =>
    if f.channel.hasEnded then none
    else if f.channel.isStopSet then
      some { f with channel := { f.channel with hasEnded := true } }
    else
      match f.channel.held with
      | trx :: rest =>
        some { f with channel := { f.channel with held := rest }, call := some trx }
      | [] =>
        if f.channel.isClosed then some { f with channel := { f.channel with hasEnded := true } }
        else none

/-- What is there after a move, if the move is possible. -/
def step? (n : Nat) (f : Flight) : Channel.Move → Option Flight
  | .send => f.channel.send?.map fun c => { f with channel := c }
  | .close => f.channel.close?.map fun c => { f with channel := c }
  | .stop => f.stop? n
  | .work => f.work? n

/-- What is there after some moves, if all of them are possible. -/
def run? (n : Nat) (f : Flight) : List Channel.Move → Option Flight
  | [] => some f
  | move :: rest => (f.step? n move).bind fun f => f.run? n rest

end Flight

end OffChain.Classification
