import Mathlib.Data.List.Nodup
import AffinityGate.Host.Pool
import AffinityGate.Proofs.Host.Accepted

/-!
# How configured texts become a pool

Configured texts are read in order against those that were read before.  `collect_eq_ok_iff` says
which prefixes are read and `exists_stop_of_collect` at which text reading stops; from the two,
`pool_or_first_fault` says exactly which lists of texts make a pool, what stands at each position of
it, and that a list that makes none is refused for its first position with a fault.
-/

namespace AffinityGate

open Url

theorem HostUrl.parse_eq_error_iff {raw : String} {e : HostError} :
    parse raw = .error e ↔ ∃ fault, fault? (stored raw.toList) = some fault ∧
      e = .invalidUrl raw fault := by
  rw [parse]
  cases fault? (stored raw.toList) with
  | none => simp
  | some fault => simp [eq_comm]

/-- When a text is accepted. -/
theorem HostUrl.exists_parse_iff {raw : String} :
    (∃ u, parse raw = .ok u) ↔ StartsAsBase raw ∧ IsBase (stored raw.toList) := by
  simp only [parse_eq_ok_iff, exists_and_left, exists_eq, and_true]

theorem HostUrl.text_of_parse {raw : String} {u : HostUrl} (h : parse raw = .ok u) :
    u.text = String.ofList (stored raw.toList) := by
  obtain ⟨-, -, rfl⟩ := parse_eq_ok_iff.mp h
  rfl

/-- Accepted texts are read as one base URL if they have one stored form. -/
theorem HostUrl.parse_eq_iff {raw raw' : String} {u u' : HostUrl} (h : parse raw = .ok u)
    (h' : parse raw' = .ok u') : u = u' ↔ stored raw.toList = stored raw'.toList := by
  obtain ⟨-, -, rfl⟩ := parse_eq_ok_iff.mp h
  obtain ⟨-, -, rfl⟩ := parse_eq_ok_iff.mp h'
  exact ofRaw_eq_iff

namespace HostPool

/-! ## What is read -/

/-- Each text behind those already read is read as one base URL. -/
theorem forall₂_of_collect {seen us : List HostUrl} {raws : List String}
    (h : collect seen raws = .ok us) :
    ∃ read, us = seen ++ read ∧
      List.Forall₂ (fun raw u => HostUrl.parse raw = .ok u) raws read := by
  induction raws generalizing seen with
  | nil =>
    cases h
    exact ⟨[], by simp, .nil⟩
  | cons raw rest ih =>
    rw [collect] at h
    split at h
    · cases h
    · rename_i u hu
      split at h
      · cases h
      · obtain ⟨read, rfl, hread⟩ := ih h
        exact ⟨u :: read, by simp, .cons hu hread⟩

/-- Texts are read behind others if each is a base URL and none comes twice. -/
theorem collect_of_forall₂ {seen read : List HostUrl} {raws : List String}
    (hread : List.Forall₂ (fun raw u => HostUrl.parse raw = .ok u) raws read)
    (hnodup : (seen ++ read).Nodup) : collect seen raws = .ok (seen ++ read) := by
  induction hread generalizing seen with
  | nil => simp [collect]
  | @cons raw u rest read hu hread ih =>
    have hnew : u ∉ seen := fun hmem =>
      (List.nodup_append.mp hnodup).2.2 u hmem u List.mem_cons_self rfl
    have hmoved : seen ++ u :: read = seen ++ [u] ++ read := by simp
    rw [hmoved] at hnodup ⊢
    simp only [collect, hu, if_neg hnew]
    exact ih hnodup

theorem collect_eq_ok_iff {us : List HostUrl} {raws : List String} :
    collect [] raws = .ok us ↔
      List.Forall₂ (fun raw u => HostUrl.parse raw = .ok u) raws us ∧ us.Nodup := by
  constructor
  · intro h
    obtain ⟨read, rfl, hread⟩ := forall₂_of_collect h
    exact ⟨hread, nodup_of_collect List.nodup_nil h⟩
  · rintro ⟨hread, hnodup⟩
    rw [← List.nil_append us] at hnodup ⊢
    exact collect_of_forall₂ hread hnodup

theorem parse_eq_ok_iff {raws : List String} {pool : HostPool} :
    parse raws = .ok pool ↔ raws ≠ [] ∧ collect [] raws = .ok pool.urls := by
  rw [parse]
  by_cases hne : raws = []
  · simp [hne]
  · rw [dif_neg hne, and_iff_right hne]
    split
    · rename_i e herror
      simp [herror]
    · rename_i us hus
      obtain ⟨urls, hnonempty, hdistinct⟩ := pool
      simp [hus]

theorem parse_eq_error_iff {raws : List String} {e : HostError} :
    parse raws = .error e ↔
      raws = [] ∧ e = .emptyPool ∨ raws ≠ [] ∧ collect [] raws = .error e := by
  rw [parse]
  by_cases hne : raws = []
  · simp [hne, eq_comm]
  · rw [dif_neg hne]
    split
    · rename_i e' herror
      simp [hne, herror]
    · rename_i us hus
      simp [hne, hus]

/-- The base URLs of a pool are what the configured texts are read as, in their order. -/
theorem forall₂_of_parse {raws : List String} {pool : HostPool} (h : parse raws = .ok pool) :
    List.Forall₂ (fun raw u => HostUrl.parse raw = .ok u) raws pool.urls :=
  (collect_eq_ok_iff.mp (parse_eq_ok_iff.mp h).2).1

/-- Texts that are read one by one are read as the base URLs with their stored forms. -/
theorem forall₂_iff {raws : List String} {us : List HostUrl} :
    List.Forall₂ (fun raw u => HostUrl.parse raw = .ok u) raws us ↔
      us = raws.map HostUrl.ofRaw ∧
      ∀ raw ∈ raws, HostUrl.StartsAsBase raw ∧ IsBase (HostUrl.stored raw.toList) := by
  induction raws generalizing us with
  | nil => simp
  | cons raw rest ih =>
    rw [List.forall₂_cons_left_iff, List.map_cons, List.forall_mem_cons]
    constructor
    · rintro ⟨u, us, hu, hus, rfl⟩
      obtain ⟨hstart, hbase, rfl⟩ := HostUrl.parse_eq_ok_iff.mp hu
      obtain ⟨rfl, hall⟩ := ih.mp hus
      exact ⟨rfl, ⟨hstart, hbase⟩, hall⟩
    · rintro ⟨rfl, ⟨hstart, hbase⟩, hall⟩
      exact ⟨_, _, HostUrl.parse_eq_ok_iff.mpr ⟨hstart, hbase, rfl⟩, ih.mpr ⟨rfl, hall⟩, rfl⟩

theorem size_of_parse {raws : List String} {pool : HostPool} (h : parse raws = .ok pool) :
    pool.size = raws.length :=
  (forall₂_of_parse h).length_eq.symm

/-- The texts of the base URLs of a pool are distinct too: the text tells whether it is secure. -/
theorem nodup_texts_of_parse {raws : List String} {pool : HostPool} (h : parse raws = .ok pool) :
    (pool.urls.map (·.text)).Nodup := by
  refine pool.distinct.map_on fun u hu v hv htext => ?_
  have haccepted : ∀ u ∈ pool.urls, ∃ raw, HostUrl.ofRaw raw = u := fun u hu => by
    rw [(forall₂_iff.mp (forall₂_of_parse h)).1] at hu
    exact (List.mem_map.mp hu).imp fun _ => And.right
  obtain ⟨raw, rfl⟩ := haccepted u hu
  obtain ⟨raw', rfl⟩ := haccepted v hv
  exact HostUrl.ofRaw_eq_iff.mpr (String.ofList_injective htext)

theorem getElem?_hosts (pool : HostPool) (i : Nat) :
    pool.hosts[i]? = pool.urls[i]?.map fun u => ⟨some i, u⟩ := by
  rw [hosts, List.getElem?_mapIdx]

/-! ## Which texts make a pool -/

/-- When texts form a pool. -/
theorem exists_parse_iff {raws : List String} :
    (∃ pool, parse raws = .ok pool) ↔ raws ≠ [] ∧
      (∀ raw ∈ raws, HostUrl.StartsAsBase raw ∧ IsBase (HostUrl.stored raw.toList)) ∧
      (raws.map fun raw => HostUrl.stored raw.toList).Nodup := by
  have hnodup : (raws.map HostUrl.ofRaw).Nodup ↔
      (raws.map fun raw => HostUrl.stored raw.toList).Nodup := by
    simp only [List.Nodup, List.pairwise_map, ne_eq, HostUrl.ofRaw_eq_iff]
  simp only [parse_eq_ok_iff, collect_eq_ok_iff, forall₂_iff]
  constructor
  · rintro ⟨pool, hne, ⟨hurls, hall⟩, hdistinct⟩
    exact ⟨hne, hall, hnodup.mp (hurls ▸ hdistinct)⟩
  · rintro ⟨hne, hall, hdistinct⟩
    have hdistinct' := hnodup.mpr hdistinct
    exact ⟨⟨_, by simpa using hne, hdistinct'⟩, hne, ⟨rfl, hall⟩, hdistinct'⟩

/-- Two texts with one stored form are no pool, wherever they stand. -/
theorem exists_error_of_repeated {raws : List String} {raw raw' : String} {i j : Nat} (hij : i ≠ j)
    (hi : raws[i]? = some raw) (hj : raws[j]? = some raw')
    (hstored : HostUrl.stored raw.toList = HostUrl.stored raw'.toList) :
    ∃ e, parse raws = .error e := by
  cases hparse : parse raws with
  | error e => exact ⟨e, rfl⟩
  | ok pool =>
    let forms := raws.map fun raw => HostUrl.stored raw.toList
    have hnodup : forms.Nodup := (exists_parse_iff.mp ⟨pool, hparse⟩).2.2
    have hform {k : Nat} {r : String} (hk : raws[k]? = some r) :
        ∃ hk : k < forms.length, forms[k] = HostUrl.stored r.toList := by
      refine List.getElem?_eq_some_iff.mp ?_
      rw [List.getElem?_map, hk, Option.map_some]
    obtain ⟨hi', hformi⟩ := hform hi
    obtain ⟨hj', hformj⟩ := hform hj
    exact absurd (hnodup.getElem_inj_iff.mp (hformi.trans (hstored.trans hformj.symm))) hij

/-- The second of two accepted texts is refused if it is the first once more. -/
theorem parse_pair_eq_error_iff {raw raw' : String} {u u' : HostUrl}
    (h : HostUrl.parse raw = .ok u) (h' : HostUrl.parse raw' = .ok u') :
    parse [raw, raw'] = .error (.duplicate u.text) ↔ u = u' := by
  rw [parse_eq_error_iff]
  by_cases hsame : u' = u
  · simp [collect, h, h', hsame]
  · simp [collect, h, h', hsame, Ne.symm hsame]

/-! ## Where reading stops -/

/-- What is wrong at a position of configured texts: the text there is no base URL, or its stored
form is that of an earlier one. -/
inductive FaultAt (raws : List String) (p : Nat) : HostError → Prop
  | invalid {raw : String} {fault : HostFault} :
    raws[p]? = some raw → HostUrl.parse raw = .error (.invalidUrl raw fault) →
    FaultAt raws p (.invalidUrl raw fault)
  | repeated {raw earlier : String} {u : HostUrl} {q : Nat} :
    raws[p]? = some raw → HostUrl.parse raw = .ok u → q < p → raws[q]? = some earlier →
    HostUrl.stored earlier.toList = HostUrl.stored raw.toList →
    FaultAt raws p (.duplicate (String.ofList (HostUrl.stored raw.toList)))

/-- The first position with a fault, and what is wrong there. -/
structure FirstFault (raws : List String) (p : Nat) (e : HostError) : Prop where
  fault : FaultAt raws p e
  first : ∀ q < p, ∀ e', ¬FaultAt raws q e'

theorem FaultAt.lt_length {raws : List String} {p : Nat} {e : HostError} (h : FaultAt raws p e) :
    p < raws.length := by
  cases h with
  | invalid hraw => exact (List.getElem?_eq_some_iff.mp hraw).1
  | repeated hraw => exact (List.getElem?_eq_some_iff.mp hraw).1

/-- At one position one thing is wrong. -/
theorem FaultAt.unique {raws : List String} {p : Nat} {e e' : HostError} (h : FaultAt raws p e)
    (h' : FaultAt raws p e') : e = e' := by
  cases h with
  | invalid hraw hparse =>
    cases h' with
    | invalid hraw' hparse' => simp_all
    | repeated hraw' hparse' => simp_all
  | repeated hraw hparse =>
    cases h' with
    | invalid hraw' hparse' => simp_all
    | repeated hraw' hparse' => simp_all

/-- There is only one first position, and only one thing is wrong there. -/
theorem FirstFault.unique {raws : List String} {p p' : Nat} {e e' : HostError}
    (h : FirstFault raws p e) (h' : FirstFault raws p' e') : e = e' := by
  rcases Nat.lt_trichotomy p p' with hlt | rfl | hlt
  · exact absurd h.fault (h'.first p hlt e)
  · exact h.fault.unique h'.fault
  · exact absurd h'.fault (h.first p' hlt e')

/-- Reading stops at a text that is no base URL, or one that was read before. -/
theorem exists_stop_of_collect {seen : List HostUrl} {raws : List String} {e : HostError}
    (h : collect seen raws = .error e) : ∃ before raw after us, raws = before ++ raw :: after ∧
      collect seen before = .ok us ∧
      (HostUrl.parse raw = .error e ∨
        ∃ u ∈ us, HostUrl.parse raw = .ok u ∧ e = .duplicate u.text) := by
  induction raws generalizing seen with
  | nil => cases h
  | cons raw rest ih =>
    rw [collect] at h
    cases hparse : HostUrl.parse raw with
    | error e' =>
      rw [hparse] at h
      cases h
      exact ⟨[], raw, rest, seen, rfl, rfl, .inl hparse⟩
    | ok u =>
      simp only [hparse] at h
      split at h
      · rename_i hmem
        cases h
        exact ⟨[], raw, rest, seen, rfl, rfl, .inr ⟨u, hmem, hparse, rfl⟩⟩
      · rename_i hnew
        obtain ⟨before, stop, after, us, rfl, hbefore, hstop⟩ := ih h
        refine ⟨raw :: before, stop, after, us, rfl, ?_, hstop⟩
        simp only [collect, hparse, if_neg hnew, hbefore]

/-- Nothing is wrong with texts that are read, whatever follows them. -/
theorem not_faultAt_of_collect {before : List String} {us : List HostUrl}
    (h : collect [] before = .ok us) (after : List String) {p : Nat} (hp : p < before.length)
    (e : HostError) : ¬FaultAt (before ++ after) p e := by
  obtain ⟨hread, hnodup⟩ := collect_eq_ok_iff.mp h
  have hparsed {q : Nat} {raw : String} (hq : q < before.length)
      (hraw : (before ++ after)[q]? = some raw) :
      ∃ hq' : q < us.length, HostUrl.parse raw = .ok us[q] := by
    rw [List.getElem?_append_left hq, List.getElem?_eq_getElem hq] at hraw
    cases hraw
    have hq' : q < us.length := hread.length_eq ▸ hq
    exact ⟨hq', hread.get hq hq'⟩
  intro hfault
  cases hfault with
  | invalid hraw herror =>
    obtain ⟨_, hv⟩ := hparsed hp hraw
    rw [hv] at herror
    cases herror
  | repeated hraw _ hq hearlier hstored =>
    obtain ⟨_, hu⟩ := hparsed (Nat.lt_trans hq hp) hearlier
    obtain ⟨_, hv⟩ := hparsed hp hraw
    have hsame := (hnodup.getElem_inj_iff).mp ((HostUrl.parse_eq_iff hu hv).mpr hstored)
    omega

/-- Where reading stops, something is wrong, for the first time. -/
theorem exists_firstFault_of_collect {raws : List String} {e : HostError}
    (h : collect [] raws = .error e) : ∃ p, FirstFault raws p e := by
  obtain ⟨before, raw, after, us, rfl, hbefore, hstop⟩ := exists_stop_of_collect h
  refine ⟨before.length, ?_, fun q hq e' => not_faultAt_of_collect hbefore _ hq e'⟩
  have hraw : (before ++ raw :: after)[before.length]? = some raw := by simp
  rcases hstop with herror | ⟨u, hmem, hu, rfl⟩
  · obtain ⟨fault, -, rfl⟩ := HostUrl.parse_eq_error_iff.mp herror
    exact .invalid hraw herror
  · obtain ⟨q, hq, rfl⟩ := List.getElem_of_mem hmem
    have hread := (collect_eq_ok_iff.mp hbefore).1
    have hq' : q < before.length := hread.length_eq ▸ hq
    have hearlier : (before ++ raw :: after)[q]? = some before[q] := by
      rw [List.getElem?_append_left hq', List.getElem?_eq_getElem hq']
    rw [HostUrl.text_of_parse hu]
    exact .repeated hraw hu hq' hearlier ((HostUrl.parse_eq_iff (hread.get hq' hq) hu).mp rfl)

theorem collect_eq_error_iff {raws : List String} {e : HostError} :
    collect [] raws = .error e ↔ ∃ p, FirstFault raws p e := by
  constructor
  · exact exists_firstFault_of_collect
  · rintro ⟨p, hfirst⟩
    cases hcollect : collect [] raws with
    | ok us =>
      have hnone := not_faultAt_of_collect hcollect [] hfirst.fault.lt_length e
      rw [List.append_nil] at hnone
      exact absurd hfirst.fault hnone
    | error e' =>
      obtain ⟨p', hfirst'⟩ := exists_firstFault_of_collect hcollect
      rw [hfirst.unique hfirst']

/-- **A pool or its first fault.**  Texts make a pool exactly if there are some, each is a base URL
and their stored forms are distinct.  The pool has a host for each text, at the position of the text
and with its stored form.  No text at all is an empty pool, and otherwise what is reported is what
is wrong at the first position with a fault. -/
theorem pool_or_first_fault (raws : List String) :
    ((∃ pool, parse raws = .ok pool) ↔ raws ≠ [] ∧
      (∀ raw ∈ raws, ∃ u, HostUrl.parse raw = .ok u) ∧
      (raws.map fun raw => HostUrl.stored raw.toList).Nodup) ∧
    (∀ pool, parse raws = .ok pool → pool.size = raws.length ∧
      pool.hosts.length = raws.length ∧
      ∀ (i : Nat) (raw : String), raws[i]? = some raw → ∃ u, pool.hosts[i]? = some ⟨some i, u⟩ ∧
        HostUrl.parse raw = .ok u ∧ u.text = String.ofList (HostUrl.stored raw.toList)) ∧
    ∀ e, parse raws = .error e ↔ raws = [] ∧ e = .emptyPool ∨ ∃ p, FirstFault raws p e := by
  refine ⟨?_, fun pool h => ?_, fun e => ?_⟩
  · simp only [HostUrl.exists_parse_iff]
    exact exists_parse_iff
  · have hsize := size_of_parse h
    refine ⟨hsize, pool.length_hosts.trans hsize, fun i raw hraw => ?_⟩
    obtain ⟨hi, rfl⟩ := List.getElem?_eq_some_iff.mp hraw
    have hread := forall₂_of_parse h
    have hi' : i < pool.urls.length := hread.length_eq ▸ hi
    have hu := hread.get hi hi'
    refine ⟨pool.urls[i], ?_, hu, HostUrl.text_of_parse hu⟩
    rw [getElem?_hosts, List.getElem?_eq_getElem hi', Option.map_some]
  · rw [parse_eq_error_iff, collect_eq_error_iff]
    refine or_congr_right (and_iff_right_of_imp ?_)
    rintro ⟨p, hfirst⟩ rfl
    exact Nat.not_lt_zero p hfirst.fault.lt_length

/-- Two texts make a pool, of their stored forms.  Three do not, since the first fault is that the
second has no scheme; that the third repeats the first is not reported. -/
theorem scheme_missing_before_repetition :
    (∃ pool, parse ["http://a", " http://b/base// "] = .ok pool ∧ pool.size = 2 ∧
      pool.hosts[1]? = some ⟨some 1, ⟨"http://b/base", false⟩⟩) ∧
    parse ["http://a", "b", "http://a/"] = .error (.invalidUrl "b" .scheme) ∧
    FirstFault ["http://a", "b", "http://a/"] 1 (.invalidUrl "b" .scheme) := by
  obtain ⟨hiff, hpool, -⟩ := pool_or_first_fault ["http://a", " http://b/base// "]
  obtain ⟨pool, hparse⟩ := hiff.mpr ⟨by simp, by
    simp only [List.mem_cons, List.not_mem_nil, or_false, forall_eq_or_imp, forall_eq]
    exact ⟨⟨⟨"http://a", false⟩, by decide +kernel⟩, ⟨"http://b/base", false⟩, by decide +kernel⟩,
    by decide⟩
  obtain ⟨hsize, -, hhosts⟩ := hpool pool hparse
  obtain ⟨u, hhost, hu, -⟩ := hhosts 1 " http://b/base// " rfl
  have hread : HostUrl.parse " http://b/base// " = .ok ⟨"http://b/base", false⟩ := by
    decide +kernel
  rw [hread] at hu
  cases hu
  have hfault : FaultAt ["http://a", "b", "http://a/"] 1 (.invalidUrl "b" .scheme) :=
    .invalid rfl (by decide +kernel)
  have hfirst : FirstFault ["http://a", "b", "http://a/"] 1 (.invalidUrl "b" .scheme) := by
    refine ⟨hfault, fun q hq e h => ?_⟩
    obtain rfl : q = 0 := by omega
    cases h with
    | invalid hraw herror =>
      cases hraw
      have hok : (HostUrl.parse "http://a").isOk = true := by decide +kernel
      rw [herror] at hok
      cases hok
    | repeated _ _ hq => exact absurd hq (Nat.not_lt_zero _)
  exact ⟨⟨pool, hparse, hsize, hhost⟩,
    ((pool_or_first_fault ["http://a", "b", "http://a/"]).2.2 _).mpr (.inr ⟨1, hfirst⟩), hfirst⟩

end HostPool
end AffinityGate
