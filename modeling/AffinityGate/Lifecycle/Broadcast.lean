import AffinityGate.Lifecycle.Shutdown

/-!
# The broadcast of a shutdown

A broadcast channel keeps its latest messages, as many as its capacity.  Each receiver gets, in
order, what is sent after it has subscribed; one that is further behind than the capacity is told
how many messages it has missed, and goes on with the oldest one that is kept.  A shutdown is a flag
and such a channel: the trigger that finds the flag down raises it and sends its reason.
-/

namespace AffinityGate

/-- A channel: all that was ever sent, and for each receiver how much of it is behind the
receiver. -/
structure Broadcast (capacity : Nat) (α : Type) where
  sent : List α
  cursors : List Nat
  deriving DecidableEq, Repr

namespace Broadcast

/-- What a receiver is told. -/
inductive Reply (α : Type)
  | message (m : α)
  | empty
  | lagged (missed : Nat)
  deriving DecidableEq, Repr

/-- The message of a reply that has one. -/
def Reply.message? {α : Type} : Reply α → Option α
  | .message m => some m
  | .empty | .lagged _ => none

variable {capacity : Nat} {α : Type}

/-- A channel that nobody has used. -/
def fresh : Broadcast capacity α := ⟨[], []⟩

/-- A message goes to all that have subscribed, and to nobody if nobody has. -/
def send (c : Broadcast capacity α) (m : α) : Broadcast capacity α :=
  { c with sent := c.sent ++ [m] }

/-- A new receiver has all that was sent behind it. -/
def subscribe (c : Broadcast capacity α) : Broadcast capacity α :=
  { c with cursors := c.cursors ++ [c.sent.length] }

/-- The next reply to a receiver, if there is such a receiver. -/
def receive (c : Broadcast capacity α) (i : Nat) : Broadcast capacity α × Option (Reply α) :=
  match c.cursors[i]? with
  | none => (c, none)
  | some p =>
    if capacity < c.sent.length - p then
      let oldest := c.sent.length - capacity
      ({ c with cursors := c.cursors.set i oldest }, some (.lagged (oldest - p)))
    else
      match c.sent[p]? with
      | some m => ({ c with cursors := c.cursors.set i (p + 1) }, some (.message m))
      | none => (c, some .empty)

end Broadcast

namespace Shutdown

/-- How many messages the channel of a shutdown keeps. -/
def channelCapacity : Nat := 16

/-- The flag and the channel of a shutdown. -/
structure Relay where
  flag : Bool
  channel : Broadcast channelCapacity ShutdownReason
  deriving DecidableEq, Repr

namespace Relay

/-- Nothing has happened. -/
def fresh : Relay := ⟨false, .fresh⟩

/-- One step.  A task that waits has a receiver of its own, which is none of the numbered ones. -/
def step (r : Relay) : Step → Relay
  | .subscribe => { r with channel := r.channel.subscribe }
  | .trigger reason => if r.flag then r else ⟨true, r.channel.send reason⟩
  | .receive i => { r with channel := (r.channel.receive i).1 }
  | .wait | .spawnWaiter | .join _ => r

/-- A run of steps. -/
def run (r : Relay) (steps : List Step) : Relay :=
  steps.foldl step r

end Relay
end Shutdown
end AffinityGate
