import AffinityGate.Digest.Stable
import AffinityGate.Host.Url
import AffinityGate.Process.Id

/-!
# Host pools and candidate sequences

A pool is a non-empty list of distinct base URLs.  Its order is part of the placement: the
candidates for a process are the hosts of the pool in order, starting at the hash of the process id
modulo the size of the pool.
-/

namespace AffinityGate

/-- A backend host: its position in the pool, if it is in the pool, and its base URL. -/
structure Host where
  position : Option Nat
  url : HostUrl
  deriving DecidableEq, Repr

/-- A non-empty list of distinct base URLs. -/
structure HostPool where
  urls : List HostUrl
  nonempty : urls ≠ []
  distinct : urls.Nodup
  deriving DecidableEq

namespace HostPool

/-- Reads configured texts behind those already read; the first bad or repeated one is reported. -/
def collect : List HostUrl → List String → Except HostError (List HostUrl)
  | seen, [] => .ok seen
  | seen, raw :: rest =>
    match HostUrl.parse raw with
    | .error e => .error e
    | .ok u => if u ∈ seen then .error (.duplicate u.text) else collect (seen ++ [u]) rest

theorem nodup_of_collect {seen us : List HostUrl} {raws : List String} (hseen : seen.Nodup)
    (h : collect seen raws = .ok us) : us.Nodup := by
  induction raws generalizing seen with
  | nil =>
    cases h
    exact hseen
  | cons raw rest ih =>
    unfold collect at h
    split at h
    · cases h
    · rename_i u hu
      split at h
      · cases h
      · rename_i hmem
        refine ih ?_ h
        rw [List.nodup_append]
        refine ⟨hseen, by simp, ?_⟩
        intro a ha b hb
        simp only [List.mem_singleton] at hb
        subst hb
        exact fun e => hmem (e ▸ ha)

theorem length_of_collect {seen us : List HostUrl} {raws : List String}
    (h : collect seen raws = .ok us) : us.length = seen.length + raws.length := by
  induction raws generalizing seen with
  | nil =>
    cases h
    simp
  | cons raw rest ih =>
    unfold collect at h
    split at h
    · cases h
    · split at h
      · cases h
      · have := ih h
        simp only [List.length_append, List.length_singleton] at this
        simp only [List.length_cons]
        omega

/-- Reads the configured texts of a pool. -/
def parse (raws : List String) : Except HostError HostPool :=
  if hne : raws = [] then .error .emptyPool
  else
    match h : collect [] raws with
    | .error e => .error e
    | .ok us =>
      .ok ⟨us, by
        have := length_of_collect h
        intro hus
        rw [hus] at this
        exact hne (List.length_eq_zero_iff.mp (by simpa using this.symm)),
        nodup_of_collect List.nodup_nil h⟩

/-- The hosts with their positions. -/
def hosts (pool : HostPool) : List Host :=
  pool.urls.mapIdx fun i u => ⟨some i, u⟩

/-- The number of hosts. -/
def size (pool : HostPool) : Nat :=
  pool.urls.length

theorem length_hosts (pool : HostPool) : pool.hosts.length = pool.size := by
  simp [hosts, size]

theorem size_pos (pool : HostPool) : 0 < pool.size :=
  List.length_pos_iff.mpr pool.nonempty

end HostPool

/-- The position of the first candidate for an id among `size` hosts. -/
def primaryIndex (id : String) (size : Nat) : Nat :=
  (Digest.stable (Utf8.ofText id)).toNat % size

/-- The candidates for a process: the pool in order from the primary host on, then from its start. -/
def HostPool.candidates (pool : HostPool) (id : ProcessId) : List Host :=
  let start := primaryIndex id.text pool.size
  pool.hosts.drop start ++ pool.hosts.take start

theorem HostPool.length_candidates (pool : HostPool) (id : ProcessId) :
    (pool.candidates id).length = pool.size := by
  have h : primaryIndex id.text pool.size < pool.size := Nat.mod_lt _ pool.size_pos
  simp only [candidates, List.length_append, List.length_drop, List.length_take, length_hosts]
  omega

end AffinityGate
