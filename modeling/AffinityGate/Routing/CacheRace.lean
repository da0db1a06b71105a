import AffinityGate.Routing.OwnerCache

/-!
# Concurrent use of the owner cache

Calls on one cache take their steps in any order, and the clock may move between any two steps.  A
`get` reads a copy, looks whether the copy is stale, and if so removes the entry that is then
present, provided that it is stale itself; a `put` takes the time and then writes; a purge meets one
entry after the other, in any order, and removes and counts it if it is stale.  Entries that are
written while a purge runs may be met or not.  What is fresh is never removed (`mem_removeStale`).
-/

namespace AffinityGate

namespace OwnerCache

/-- The entry of a process is dropped if it is stale. -/
def removeStale (c : OwnerCache) (now : Nat) (id : ProcessId) : OwnerCache :=
  { c with entries := c.entries.filter fun e => e.id != id || c.isFresh now e }

/-- How many entries are dropped so. -/
def staleOf (c : OwnerCache) (now : Nat) (id : ProcessId) : Nat :=
  c.entries.countP fun e => e.id == id && !c.isFresh now e

theorem mem_removeStale {c : OwnerCache} {now : Nat} {id : ProcessId} {e : CacheEntry} :
    e ∈ (c.removeStale now id).entries ↔ e ∈ c.entries ∧ (e.id ≠ id ∨ c.isFresh now e = true) := by
  simp [removeStale]

end OwnerCache

/-- Where a call on a shared cache stands. -/
inductive CacheCall
  | get (id : ProcessId)
  | getRead (id : ProcessId) (copy : CacheEntry)
  | getStale (id : ProcessId)
  | got (id : ProcessId) (owner : Option String)
  | put (id : ProcessId) (owner : String)
  | putStamped (id : ProcessId) (owner : String) (time : Nat)
  | putDone (id : ProcessId) (owner : String)
  | purge
  | purging (due : List ProcessId) (removed : Nat)
  | purged (removed : Nat)
  deriving DecidableEq

/-- A shared cache, its clock, and the calls on it. -/
structure CacheRace where
  now : Nat
  cache : OwnerCache
  calls : List CacheCall
  deriving DecidableEq

namespace CacheRace

/-- A move: a call begins, a call takes its next step, a purge meets the entry of a process, or the
clock moves on. -/
inductive Move
  | begin (call : CacheCall)
  | advance (position : Nat)
  | visit (position : Nat) (id : ProcessId)
  | tick (millis : Nat)
  deriving DecidableEq

/-- Calls as they begin. -/
def isBeginning : CacheCall → Bool
  | .get _ | .put _ _ | .purge => true
  | _ => false

/-- The next step of a call, with the cache after it.  A finished call takes no step, and a purge
none before it has met every entry that was there when it began. -/
def stepCall (now : Nat) (c : OwnerCache) : CacheCall → OwnerCache × CacheCall
  | .get id =>
    match c.find? id with
    | none => (c, .got id none)
    | some e => (c, .getRead id e)
  | .getRead id copy =>
    if c.isFresh now copy then (c, .got id (some copy.owner)) else (c, .getStale id)
  | .getStale id => (c.removeStale now id, .got id none)
  | .put id owner => (c, .putStamped id owner now)
  | .putStamped id owner time => (c.put time id owner, .putDone id owner)
  | .purge => (c, .purging (c.entries.map (·.id)) 0)
  | .purging [] removed => (c, .purged removed)
  | .purging (id :: due) removed => (c, .purging (id :: due) removed)
  | .got id owner => (c, .got id owner)
  | .putDone id owner => (c, .putDone id owner)
  | .purged removed => (c, .purged removed)

/-- One move.  Only a call that has not taken a step can begin. -/
def step (s : CacheRace) : Move → CacheRace
  | .begin call => if isBeginning call then { s with calls := s.calls ++ [call] } else s
  | .advance i =>
    match s.calls[i]? with
    | none => s
    | some call =>
      let (cache, call) := stepCall s.now s.cache call
      { s with cache := cache, calls := s.calls.set i call }
  | .visit i id =>
    match s.calls[i]? with
    | some (.purging due removed) =>
      let call := .purging (due.filter (· != id)) (removed + s.cache.staleOf s.now id)
      { s with cache := s.cache.removeStale s.now id, calls := s.calls.set i call }
    | _ => s
  | .tick millis => { s with now := s.now + millis }

/-- A run of moves. -/
def run (s : CacheRace) (moves : List Move) : CacheRace :=
  moves.foldl step s

end CacheRace
end AffinityGate
