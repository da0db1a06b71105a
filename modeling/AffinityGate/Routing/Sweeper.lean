import AffinityGate.Routing.OwnerCache

/-!
# Periodic purging

A sweeper purges the cache every time to live.  The clock may jump past several due times; the
sweeper then purges once, at the new time, and counts the next period from there unless it is late
by no more than the tolerance of the timer.
-/

namespace AffinityGate

/-- A cache, its clock, and the due times of its sweepers. -/
structure SweptCache where
  now : Nat
  cache : OwnerCache
  due : List Nat
  deriving DecidableEq

namespace SweptCache

/-- Lateness, in milliseconds, up to which a period is counted from the due time. -/
def tolerance : Nat := 5

/-- The period of the sweepers. -/
def period (s : SweptCache) : Nat := s.cache.ttl.timerMillis

/-- A step of a run. -/
inductive Step
  | put (id : ProcessId) (owner : String)
  | get (id : ProcessId)
  | purge
  | advance (millis : Nat)
  | sweep
  | stopSweep
  deriving DecidableEq

/-- The due time after one that has passed. -/
def nextDue (now period due : Nat) : Nat :=
  if due + tolerance < now then now + period
  else due + ((now - due) / period + 1) * period

/-- The cache at a new time: if a sweeper is due, stale entries are gone. -/
def settle (s : SweptCache) : SweptCache :=
  if s.due.any (· ≤ s.now) then
    { s with
      cache := s.cache.purge s.now
      due := s.due.map fun d => if d ≤ s.now then nextDue s.now s.period d else d }
  else s

/-- One step.  A sweeper without a period never runs. -/
def step (s : SweptCache) : Step → SweptCache
  | .put id owner => { s with cache := s.cache.put s.now id owner }
  | .get id => { s with cache := (s.cache.get s.now id).2 }
  | .purge => { s with cache := s.cache.purge s.now }
  | .advance millis => settle { s with now := s.now + millis }
  | .sweep => if s.period = 0 then s else { s with due := s.due ++ [s.now + s.period] }
  | .stopSweep => { s with due := [] }

end SweptCache
end AffinityGate
