import AffinityGate.Time.Duration

/-!
# Shutdown

The first trigger decides the reason of a shutdown and is broadcast once; later triggers change
nothing.  A receiver gets the broadcast if it subscribed before; whoever waits after the trigger is
told of a graceful shutdown at once.
-/

namespace AffinityGate

/-- Why a shutdown happens. -/
inductive ShutdownReason
  | graceful
  | force
  deriving DecidableEq, Repr

/-- The name of a reason. -/
def ShutdownReason.name : ShutdownReason → String
  | .graceful => "graceful"
  | .force => "force"

/-- The state of the shutdown: whether it was triggered, the messages each receiver has not taken
yet, and what each waiting task has returned. -/
structure Shutdown where
  initiated : Bool
  receivers : List (List ShutdownReason)
  waiters : List (Option ShutdownReason)
  deriving DecidableEq, Repr

namespace Shutdown

/-- How long requests in flight may take after the trigger. -/
def defaultTimeout : Duration := Duration.ofMillis 30000

/-- Nothing has happened. -/
def fresh : Shutdown := ⟨false, [], []⟩

/-- What a step answers. -/
inductive Answer
  | receiver (number : Nat)
  | triggered
  | waited (reason : Option ShutdownReason)
  | waiter (position : Nat)
  | received (message : Option (Option ShutdownReason))
  | joined (result : Option (Option ShutdownReason))
  deriving DecidableEq, Repr

/-- A step of a run. -/
inductive Step
  | subscribe
  | trigger (reason : ShutdownReason)
  | wait
  | spawnWaiter
  | receive (receiver : Nat)
  | join (waiter : Nat)
  deriving DecidableEq, Repr

/-- The first trigger is sent to every receiver and wakes every waiting task. -/
def trigger (s : Shutdown) (reason : ShutdownReason) : Shutdown :=
  if s.initiated then s
  else ⟨true, s.receivers.map (· ++ [reason]), s.waiters.map fun w => some (w.getD reason)⟩

/-- What waiting returns: nothing before the trigger, and a graceful shutdown after it. -/
def wait (s : Shutdown) : Option ShutdownReason :=
  if s.initiated then some .graceful else none

/-- One step with its answer. -/
def step (s : Shutdown) : Step → Shutdown × Answer
  | .subscribe => ({ s with receivers := s.receivers ++ [[]] }, .receiver s.receivers.length)
  | .trigger reason => (s.trigger reason, .triggered)
  | .wait => (s, .waited s.wait)
  | .spawnWaiter => ({ s with waiters := s.waiters ++ [s.wait] }, .waiter s.waiters.length)
  | .receive i =>
    match s.receivers[i]? with
    | none => (s, .received none)
    | some [] => (s, .received (some none))
    | some (m :: rest) => ({ s with receivers := s.receivers.set i rest }, .received (some (some m)))
  | .join i =>
    match s.waiters[i]? with
    | none => (s, .joined none)
    | some none => (s, .joined (some none))
    | some (some r) => ({ s with waiters := s.waiters.eraseIdx i }, .joined (some (some r)))

end Shutdown
end AffinityGate
