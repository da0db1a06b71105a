import AffinityGate.Lifecycle.Shutdown

/-!
# Shutdown in small steps

Waiters and triggers take their steps in any order.  A waiter subscribes, then looks at the flag,
and then receives; a trigger claims the flag, and if it was the first, sends its reason to all
that have subscribed.
-/

namespace AffinityGate

/-- Where a waiter stands; a subscribed one has an inbox. -/
inductive Waiter
  | starting
  | subscribed (inbox : List ShutdownReason)
  | receiving (inbox : List ShutdownReason)
  | returned (reason : ShutdownReason)
  deriving DecidableEq, Repr

namespace Waiter

/-- A message for those who have subscribed. -/
def deliver (reason : ShutdownReason) : Waiter → Waiter
  | .subscribed inbox => .subscribed (inbox ++ [reason])
  | .receiving inbox => .receiving (inbox ++ [reason])
  | w => w

/-- The next step of a waiter.  Without a message it stays in receiving. -/
def step (flag : Bool) : Waiter → Waiter
  | .starting => .subscribed []
  | .subscribed inbox => if flag then .returned .graceful else .receiving inbox
  | .receiving (reason :: _) => .returned reason
  | .receiving [] => .receiving []
  | .returned reason => .returned reason

/-- Whether a waiter waits for a message that is not there. -/
def isBlocked : Waiter → Bool
  | .receiving [] => true
  | _ => false

end Waiter

/-- Where a trigger stands. -/
inductive Trigger
  | starting (reason : ShutdownReason)
  | claimed (reason : ShutdownReason)
  | sent (reason : ShutdownReason)
  | late (reason : ShutdownReason)
  deriving DecidableEq, Repr

/-- The flag, the waiters and the triggers. -/
structure ShutdownRace where
  flag : Bool
  waiters : List Waiter
  triggers : List Trigger
  deriving DecidableEq, Repr

namespace ShutdownRace

/-- Nothing has happened. -/
def fresh : ShutdownRace := ⟨false, [], []⟩

/-- A move: a waiter or a trigger arrives, or one of them takes its next step. -/
inductive Move
  | newWaiter
  | newTrigger (reason : ShutdownReason)
  | waiter (position : Nat)
  | trigger (position : Nat)
  deriving DecidableEq, Repr

/-- The next step of the trigger at a position. -/
def stepTrigger (s : ShutdownRace) (i : Nat) : Trigger → ShutdownRace
  | .starting reason =>
    if s.flag then { s with triggers := s.triggers.set i (.late reason) }
    else { s with flag := true, triggers := s.triggers.set i (.claimed reason) }
  | .claimed reason =>
    { s with
      waiters := s.waiters.map (Waiter.deliver reason)
      triggers := s.triggers.set i (.sent reason) }
  | .sent _ | .late _ => s

/-- One move. -/
def step (s : ShutdownRace) : Move → ShutdownRace
  | .newWaiter => { s with waiters := s.waiters ++ [.starting] }
  | .newTrigger reason => { s with triggers := s.triggers ++ [.starting reason] }
  | .waiter i =>
    match s.waiters[i]? with
    | some w => { s with waiters := s.waiters.set i (w.step s.flag) }
    | none => s
  | .trigger i =>
    match s.triggers[i]? with
    | some t => s.stepTrigger i t
    | none => s

/-- A run of moves. -/
def run (s : ShutdownRace) (moves : List Move) : ShutdownRace :=
  moves.foldl step s

/-- Whether the first trigger has taken both its steps. -/
def isSent (s : ShutdownRace) : Bool :=
  s.triggers.any fun
    | .sent _ => true
    | _ => false

end ShutdownRace
end AffinityGate
