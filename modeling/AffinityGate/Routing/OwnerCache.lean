import AffinityGate.Process.Id
import AffinityGate.Time.Duration

/-!
# The owner cache

The cache keeps, for each process, the owner written last and the time of the writing.  An entry is
fresh while it is younger than the time to live; entries past it are dropped when they are met, and
`purge` drops all of them.  Times are milliseconds of one clock.
-/

namespace AffinityGate

/-- An owner and when it was written. -/
structure CacheEntry where
  id : ProcessId
  owner : String
  written : Nat
  deriving DecidableEq

/-- Entries of distinct processes, the latest written first. -/
structure OwnerCache where
  ttl : Duration
  entries : List CacheEntry
  deriving DecidableEq

namespace OwnerCache

/-- A cache without entries. -/
def empty (ttl : Duration) : OwnerCache := ⟨ttl, []⟩

/-- The number of entries, fresh or not. -/
def size (c : OwnerCache) : Nat := c.entries.length

/-- Whether an entry is younger than the time to live. -/
def isFresh (c : OwnerCache) (now : Nat) (e : CacheEntry) : Bool :=
  (Duration.ofMillis (now - e.written)).nanos < c.ttl.nanos

/-- The entry of a process. -/
def find? (c : OwnerCache) (id : ProcessId) : Option CacheEntry :=
  c.entries.find? (·.id == id)

/-- The owner of a process, if its entry is fresh; an entry that is not is dropped. -/
def get (c : OwnerCache) (now : Nat) (id : ProcessId) : Option String × OwnerCache :=
  match c.find? id with
  | none => (none, c)
  | some e =>
    if c.isFresh now e then (some e.owner, c)
    else (none, { c with entries := c.entries.filter (·.id != id) })

/-- Writes the owner of a process; its age restarts at zero. -/
def put (c : OwnerCache) (now : Nat) (id : ProcessId) (owner : String) : OwnerCache :=
  { c with entries := ⟨id, owner, now⟩ :: c.entries.filter (·.id != id) }

/-- Drops all entries that are not fresh. -/
def purge (c : OwnerCache) (now : Nat) : OwnerCache :=
  { c with entries := c.entries.filter (c.isFresh now) }

/-- How many entries a purge drops: those that are not fresh. -/
def stale (c : OwnerCache) (now : Nat) : Nat :=
  c.entries.countP fun e => !c.isFresh now e

end OwnerCache

/-- Where resolved owners are kept. -/
inductive OwnerStore
  | forgetful
  | timed (cache : OwnerCache)
  deriving DecidableEq

namespace OwnerStore

/-- The owner of a process, if one is kept and fresh. -/
def get (s : OwnerStore) (now : Nat) (id : ProcessId) : Option String × OwnerStore :=
  match s with
  | .forgetful => (none, .forgetful)
  | .timed c => ((c.get now id).1, .timed (c.get now id).2)

/-- Keeps the owner of a process. -/
def put (s : OwnerStore) (now : Nat) (id : ProcessId) (owner : String) : OwnerStore :=
  match s with
  | .forgetful => .forgetful
  | .timed c => .timed (c.put now id owner)

/-- The number of entries, for a store that has entries. -/
def size? : OwnerStore → Option Nat
  | .forgetful => none
  | .timed c => some c.size

end OwnerStore
end AffinityGate
