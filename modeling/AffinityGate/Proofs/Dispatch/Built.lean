import AffinityGate.Routing.Dispatch

/-!
# What a dispatcher is built from

A configuration has a dispatcher exactly if its hosts form a pool, its override section is readable
and both of its time limits are; the pool and the policy come from the hosts and the section alone.
-/

namespace AffinityGate

theorem mapError_eq_ok_iff {ε ε' α : Type} {f : ε → ε'} {x : Except ε α} {a : α} :
    x.mapError f = .ok a ↔ x = .ok a := by
  cases x with
  | error e => exact ⟨nofun, nofun⟩
  | ok b =>
    constructor
    · intro h
      cases h
      rfl
    · intro h
      cases h
      rfl

theorem bind_eq_ok_iff {ε α β : Type} {x : Except ε α} {f : α → Except ε β} {b : β} :
    (x >>= f) = .ok b ↔ ∃ a, x = .ok a ∧ f a = .ok b := by
  cases x with
  | error e => simp [bind, Except.bind]
  | ok a => simp [bind, Except.bind]

namespace Dispatcher

/-- The parts of the dispatcher of a configuration. -/
theorem ofConfig_eq_ok_iff {c : Config} {d : Dispatcher} {warnings : List Effect} :
    ofConfig c = .ok (d, warnings) ↔
      HostPool.parse c.hosts = .ok d.pool ∧
      OwnerPolicy.ofConfig c.subrouter = .ok d.resolver.policy ∧
      c.timeouts.attemptLimit = .ok d.attemptLimit ∧
      c.timeouts.registryLimit = .ok d.resolver.limit ∧
      d.strategy = c.strategy ∧ d.unit = c.unit ∧ d.maxBodyBytes = c.maxBodyBytes ∧
      warnings = if d.resolver.policy.isNone && c.subrouter.isPartial then [incompleteSubrouter]
        else [] := by
  unfold ofConfig
  simp only [bind_eq_ok_iff, mapError_eq_ok_iff]
  constructor
  · rintro ⟨pool, hpool, policy, hpolicy, attempt, hattempt, registry, hregistry, h⟩
    cases h
    exact ⟨hpool, hpolicy, hattempt, hregistry, rfl, rfl, rfl, rfl⟩
  · rintro ⟨hpool, hpolicy, hattempt, hregistry, hstrategy, hunit, hmax, rfl⟩
    refine ⟨_, hpool, _, hpolicy, _, hattempt, _, hregistry, ?_⟩
    rw [← hstrategy, ← hunit, ← hmax]
    rfl

/-- When a configuration has a dispatcher. -/
theorem exists_ofConfig_iff {c : Config} :
    (∃ d warnings, ofConfig c = .ok (d, warnings)) ↔
      (∃ pool, HostPool.parse c.hosts = .ok pool) ∧
      (∃ policy, OwnerPolicy.ofConfig c.subrouter = .ok policy) ∧
      (∃ limit, c.timeouts.attemptLimit = .ok limit) ∧
      ∃ limit, c.timeouts.registryLimit = .ok limit := by
  constructor
  · rintro ⟨d, warnings, h⟩
    obtain ⟨hpool, hpolicy, hattempt, hregistry, -⟩ := ofConfig_eq_ok_iff.mp h
    exact ⟨⟨_, hpool⟩, ⟨_, hpolicy⟩, ⟨_, hattempt⟩, ⟨_, hregistry⟩⟩
  · rintro ⟨⟨pool, hpool⟩, ⟨policy, hpolicy⟩, ⟨attempt, hattempt⟩, ⟨registry, hregistry⟩⟩
    let d : Dispatcher :=
      ⟨pool, c.strategy, c.unit, ⟨policy, registry⟩, attempt, c.maxBodyBytes⟩
    refine ⟨d, if policy.isNone && c.subrouter.isPartial then [incompleteSubrouter] else [], ?_⟩
    exact ofConfig_eq_ok_iff.mpr ⟨hpool, hpolicy, hattempt, hregistry, rfl, rfl, rfl, rfl⟩

end Dispatcher

namespace OwnerPolicy

theorem make_eq_ok_iff {url registryUrl : String} {owners : List String} {p : OwnerPolicy} :
    make url registryUrl owners = .ok p ↔
      ∃ u r, HostUrl.parse url = .ok u ∧ HostUrl.parse registryUrl = .ok r ∧
        p = ⟨⟨none, u⟩, r, allowed owners⟩ := by
  unfold make
  cases HostUrl.parse url with
  | error e => simp
  | ok u =>
    cases HostUrl.parse registryUrl with
    | error e => simp
    | ok r => simp [eq_comm]

/-- The subrouter of a policy is the configured one, outside the pool. -/
theorem subrouter_of_ofConfig {s : Config.Subrouter} {p : OwnerPolicy}
    (h : ofConfig s = .ok (some p)) :
    ∃ url, s.url = some url ∧ HostUrl.parse url = .ok p.subrouter.url ∧
      p.subrouter.position = none := by
  unfold ofConfig at h
  split at h
  · rename_i url registryUrl hurl hregistry howner
    cases hmake : make url registryUrl (s.owners.getD []) with
    | error e =>
      rw [hmake] at h
      cases h
    | ok q =>
      rw [hmake] at h
      cases h
      obtain ⟨u, r, hu, hr, rfl⟩ := make_eq_ok_iff.mp hmake
      exact ⟨url, hurl, hu, rfl⟩
  · cases h

end OwnerPolicy
end AffinityGate
