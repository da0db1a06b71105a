import Mathlib.Data.List.Rotate
import Mathlib.Data.Stream.Init
import AffinityGate.Proofs.Host.Construction

/-!
# Candidates: the pool, rotated

The candidates for a process are the hosts that one meets when one walks round the pool, from the
host at the hash of the process id modulo the size of the pool until that host comes again.
`candidates_rotate_pool` says this for every pool that is read from configured texts, with the
64-bit FNV-1a hash written out over the natural numbers: which host comes at which place, that each
host of the pool comes once, and that no base URL comes twice.
-/

namespace AffinityGate

/-! ## The placement hash -/

/-- The bytes of a text are those that the text is kept as. -/
theorem Utf8.ofText_eq_toUTF8 (s : String) : ofText s = s.toUTF8.data.toList := by
  have h : s.toUTF8 = (ofText s).toByteArray := String.utf8Encode_toList.symm
  rw [h]
  simp

namespace Digest

/-- The 64-bit FNV-1a hash over the natural numbers: from the offset basis on, each byte is combined
by exclusive or, and the state is then multiplied by the prime 2^40 + 2^8 + 0xB3 modulo 2^64, which
is the number of words. -/
def fnv1a (bs : Bytes) : Nat :=
  bs.foldl (fun state b => (state ^^^ b.toNat) * 0x100000001B3 % UInt64.size)
    14695981039346656037

theorem toNat_stableStep (hash : UInt64) (b : UInt8) :
    (stableStep hash b).toNat = (hash.toNat ^^^ b.toNat) * 0x100000001B3 % UInt64.size := by
  rw [stableStep, UInt64.toNat_mul, UInt64.toNat_xor, UInt8.toNat_toUInt64]
  rfl

/-- Multiplication of words wraps as the hash has it. -/
theorem toNat_stable (bs : Bytes) : (stable bs).toNat = fnv1a bs := by
  -- The induction needs any state in front, not the basis alone.
  have h : ∀ hash : UInt64, (bs.foldl stableStep hash).toNat =
      bs.foldl (fun state b => (state ^^^ b.toNat) * 0x100000001B3 % UInt64.size) hash.toNat := by
    induction bs with
    | nil => exact fun _ => rfl
    | cons b bs ih =>
      intro hash
      rw [List.foldl_cons, List.foldl_cons, ih, toNat_stableStep]
  exact h stableBasis

end Digest

theorem primaryIndex_eq (id : String) (size : Nat) :
    primaryIndex id size = Digest.fnv1a id.toUTF8.data.toList % size := by
  rw [primaryIndex, Digest.toNat_stable, Utf8.ofText_eq_toUTF8]

/-! ## Walking round a list -/

/-- Round and round a list, the places come again after its length. -/
theorem getElem?_mod_length {α : Type} {l : List α} (h : l ≠ []) (i : Nat) :
    l[i % l.length]? = some ((Stream'.cycle l h).get i) := by
  have hpos : 0 < l.length := List.length_pos_iff.mpr h
  induction i using Nat.strong_induction_on with
  | _ i ih =>
    rw [Stream'.cycle_eq]
    by_cases hi : i < l.length
    · rw [Stream'.get_append_left i l _ hi, Nat.mod_eq_of_lt hi, List.getElem?_eq_getElem hi]
    · obtain ⟨j, rfl⟩ := Nat.exists_eq_add_of_le (Nat.le_of_not_lt hi)
      rw [Stream'.get_append_right, Nat.add_mod_left]
      exact ih j (by omega)

/-- A rotation is one round of the walk, begun further on. -/
theorem rotate_eq_take_cycle {α : Type} {l : List α} (h : l ≠ []) (n : Nat) :
    l.rotate n = ((Stream'.cycle l h).drop n).take l.length := by
  refine List.ext_getElem? fun k => ?_
  by_cases hk : k < l.length
  · rw [List.getElem?_rotate hk, getElem?_mod_length h, Stream'.getElem?_take hk,
      Stream'.get_drop, Nat.add_comm]
  · have hle := Nat.le_of_not_lt hk
    rw [List.getElem?_eq_none (by simpa using hle), List.getElem?_eq_none (by simpa using hle)]

namespace HostPool

/-! ## The hosts of a pool -/

theorem map_url_hosts (pool : HostPool) : pool.hosts.map (·.url) = pool.urls := by
  refine List.ext_getElem? fun i => ?_
  rw [List.getElem?_map, getElem?_hosts, Option.map_map]
  exact Option.map_id'

theorem hosts_ne_nil (pool : HostPool) : pool.hosts ≠ [] := by
  rw [← List.length_pos_iff, length_hosts]
  exact pool.size_pos

/-! ## Candidates -/

theorem candidates_eq_rotate (pool : HostPool) (id : ProcessId) :
    pool.candidates id = pool.hosts.rotate (primaryIndex id.text pool.size) := by
  have hlt : primaryIndex id.text pool.size < pool.size := Nat.mod_lt _ pool.size_pos
  rw [List.rotate_eq_drop_append_take (by rw [length_hosts]; exact Nat.le_of_lt hlt)]
  rfl

/-- **Candidates are the pool, rotated.**  In a pool that is read from configured texts, of which
there are then some, a process has its first candidate at the FNV-1a hash of its id's UTF-8 bytes
modulo their number.  The candidates are as many, the `k`-th of them stands `k` places on round the
pool, and so they are the hosts met on one walk round it; each host comes exactly once, and no base
URL comes twice. -/
theorem candidates_rotate_pool {raws : List String} {pool : HostPool} (h : parse raws = .ok pool)
    (id : ProcessId) :
    let size := raws.length
    let primary := Digest.fnv1a id.text.toUTF8.data.toList % size
    0 < size ∧ pool.size = size ∧ primaryIndex id.text pool.size = primary ∧ primary < size ∧
    (pool.candidates id).length = size ∧
    (∀ k < size, ∃ host, (pool.candidates id)[k]? = some host ∧
      pool.hosts[(primary + k) % size]? = some host ∧
      host.position = some ((primary + k) % size)) ∧
    pool.candidates id = ((Stream'.cycle pool.hosts pool.hosts_ne_nil).drop primary).take size ∧
    (pool.candidates id).Perm pool.hosts ∧
    (∀ host ∈ pool.hosts, (pool.candidates id).count host = 1) ∧
    ((pool.candidates id).map (·.url.text)).Nodup := by
  intro size primary
  have hsize : pool.size = size := size_of_parse h
  have hlength : pool.hosts.length = size := pool.length_hosts.trans hsize
  have hpos : 0 < size := hsize ▸ pool.size_pos
  have hprimary : primaryIndex id.text pool.size = primary := by rw [primaryIndex_eq, hsize]
  have hrotate : pool.candidates id = pool.hosts.rotate primary := by
    rw [candidates_eq_rotate, hprimary]
  have hperm : (pool.candidates id).Perm pool.hosts := hrotate ▸ List.rotate_perm _ _
  have htexts : ((pool.candidates id).map (·.url.text)).Nodup := by
    have hnodup := nodup_texts_of_parse h
    rw [← map_url_hosts, List.map_map] at hnodup
    exact (hperm.map _).nodup_iff.mpr hnodup
  refine ⟨hpos, hsize, hprimary, Nat.mod_lt _ hpos, ?_, fun k hk => ?_, ?_, hperm,
    fun host hhost => ?_, htexts⟩
  · rw [hperm.length_eq, hlength]
  · have hplace : (primary + k) % size < pool.urls.length :=
      (Nat.mod_lt _ hpos).trans_eq hsize.symm
    have hhost := pool.getElem?_hosts ((primary + k) % size)
    rw [List.getElem?_eq_getElem hplace, Option.map_some] at hhost
    refine ⟨_, ?_, hhost, rfl⟩
    rw [hrotate, List.getElem?_rotate (hlength ▸ hk), hlength, Nat.add_comm, hhost]
  · rw [hrotate, rotate_eq_take_cycle pool.hosts_ne_nil, hlength]
  · exact List.count_eq_one_of_mem htexts.of_map (hperm.mem_iff.mpr hhost)

/-- Three hosts, two of them not as they are stored, and a process whose hash leads to the second:
its last candidate is the first host of the pool. -/
theorem last_candidate_of_three :
    let raws := ["http://a", " http://b/base// ", "https://a"]
    let pool : HostPool := ⟨[⟨"http://a", false⟩, ⟨"http://b/base", false⟩, ⟨"https://a", true⟩],
      by decide, by decide⟩
    let id : ProcessId := ⟨"pid-a", by rfl, by decide⟩
    HostPool.parse raws = .ok pool ∧ primaryIndex id.text pool.size = 1 ∧
    (pool.candidates id)[2]? = some ⟨some 0, ⟨"http://a", false⟩⟩ ∧
    ((pool.candidates id).map (·.url.text)).Nodup := by
  intro raws pool id
  have hparse : HostPool.parse raws = .ok pool := by decide +kernel
  obtain ⟨-, -, hindex, -, -, hplaces, -, -, -, htexts⟩ := candidates_rotate_pool hparse id
  have hprimary : primaryIndex id.text pool.size = 1 := by decide +kernel
  obtain ⟨host, hcandidate, hhost, -⟩ := hplaces 2 (by decide)
  rw [← hindex, hprimary] at hhost
  exact ⟨hparse, hprimary, hcandidate.trans (hhost.symm.trans (by decide +kernel)), htexts⟩

end HostPool
end AffinityGate
