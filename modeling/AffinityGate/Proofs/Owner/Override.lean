import AffinityGate.Proofs.Dispatch.Built
import AffinityGate.Proofs.Text.Ends

/-!
# When the override is in force

An override section is complete if both of its URLs and an owner that is not blank are configured.
Whether it is complete is looked at twice: where the policy is built, and where the warning about a
section that has no effect is given.  `override_in_force_iff` says that both agree, whatever the
URLs are worth, and which owners a policy sends to the subrouter.
-/

namespace AffinityGate

/-! ## Sections -/

namespace Config.Subrouter

/-- An owner is configured as this text. -/
def Lists (s : Subrouter) (raw : String) : Prop :=
  ∃ owners, s.owners = some owners ∧ raw ∈ owners

/-- An owner is configured that is not blank. -/
def NamesOwner (s : Subrouter) : Prop :=
  ∃ raw, s.Lists raw ∧ ∃ c ∈ raw.toList, isBlank c = false

/-- All that an override needs is configured. -/
structure Complete (s : Subrouter) : Prop where
  url : s.url ≠ none
  registryUrl : s.registryUrl ≠ none
  owner : s.NamesOwner

/-- Something that an override needs is configured. -/
def Begun (s : Subrouter) : Prop :=
  s.url ≠ none ∨ s.registryUrl ≠ none ∨ s.NamesOwner

theorem mem_owners_iff {s : Subrouter} {raw : String} : raw ∈ s.owners.getD [] ↔ s.Lists raw := by
  unfold Lists
  cases s.owners with
  | none => simp
  | some owners => simp

theorem hasOwner_iff {s : Subrouter} : s.hasOwner = true ↔ s.NamesOwner := by
  simp only [hasOwner, List.any_eq_true, bne_iff_ne, ne_eq, mem_owners_iff, NamesOwner,
    trimText_eq_empty_iff, not_forall, Bool.not_eq_true, exists_prop]

theorem complete_iff {s : Subrouter} :
    s.Complete ↔ ∃ url registryUrl, s.url = some url ∧ s.registryUrl = some registryUrl ∧
      s.NamesOwner := by
  constructor
  · rintro ⟨hurl, hregistry, howner⟩
    obtain ⟨url, hurl⟩ := Option.ne_none_iff_exists'.mp hurl
    obtain ⟨registryUrl, hregistry⟩ := Option.ne_none_iff_exists'.mp hregistry
    exact ⟨url, registryUrl, hurl, hregistry, howner⟩
  · rintro ⟨url, registryUrl, hurl, hregistry, howner⟩
    exact ⟨by simp [hurl], by simp [hregistry], howner⟩

/-- What is called partial is begun and not complete. -/
theorem isPartial_iff {s : Subrouter} : s.isPartial = true ↔ s.Begun ∧ ¬s.Complete := by
  have hcomplete : s.Complete ↔ s.url ≠ none ∧ s.registryUrl ≠ none ∧ s.NamesOwner :=
    ⟨fun h => ⟨h.url, h.registryUrl, h.owner⟩, fun h => ⟨h.1, h.2.1, h.2.2⟩⟩
  simp only [hcomplete, Begun, ← hasOwner_iff, ← Option.isSome_iff_ne_none]
  unfold isPartial
  cases s.url.isSome <;> cases s.registryUrl.isSome <;> cases s.hasOwner <;> simp

end Config.Subrouter

/-! ## Policies -/

namespace OwnerPolicy

open Config (Subrouter)

/-- How a complete section is read. -/
theorem ofConfig_of_complete {s : Subrouter} {url registryUrl : String} (hurl : s.url = some url)
    (hregistry : s.registryUrl = some registryUrl) (howner : s.NamesOwner) :
    ofConfig s = (make url registryUrl (s.owners.getD [])).map some := by
  rw [ofConfig, hurl, hregistry, Subrouter.hasOwner_iff.mpr howner]

/-- A section that is not complete is no policy, and nothing of it is read. -/
theorem ofConfig_of_not_complete {s : Subrouter} (h : ¬s.Complete) : ofConfig s = .ok none := by
  unfold ofConfig
  split
  · rename_i url registryUrl hurl hregistry howner
    have hcomplete := Subrouter.complete_iff.mpr
      ⟨url, registryUrl, hurl, hregistry, Subrouter.hasOwner_iff.mp howner⟩
    exact absurd hcomplete h
  · rfl

/-- The two ways in which a complete section is read: both URLs are, or one is not. -/
theorem ofConfig_cases {s : Subrouter} {url registryUrl : String} (hurl : s.url = some url)
    (hregistry : s.registryUrl = some registryUrl) (howner : s.NamesOwner) :
    (∃ u r, ofConfig s = .ok (some ⟨⟨none, u⟩, r, allowed (s.owners.getD [])⟩) ∧
        HostUrl.parse url = .ok u ∧ HostUrl.parse registryUrl = .ok r) ∨
      ∃ e, ofConfig s = .error e ∧
        (HostUrl.parse url = .error e ∨ HostUrl.parse registryUrl = .error e) := by
  rw [ofConfig_of_complete hurl hregistry howner]
  cases hu : HostUrl.parse url with
  | error e => exact .inr ⟨e, by rw [make, hu]; rfl, .inl rfl⟩
  | ok u =>
    cases hr : HostUrl.parse registryUrl with
    | error e => exact .inr ⟨e, by rw [make, hu, hr]; rfl, .inr rfl⟩
    | ok r => exact .inl ⟨u, r, by rw [make, hu, hr]; rfl, rfl, rfl⟩

theorem ofConfig_eq_none_iff {s : Subrouter} : ofConfig s = .ok none ↔ ¬s.Complete := by
  refine ⟨fun h hcomplete => ?_, ofConfig_of_not_complete⟩
  obtain ⟨url, registryUrl, hurl, hregistry, howner⟩ := Subrouter.complete_iff.mp hcomplete
  rcases ofConfig_cases hurl hregistry howner with ⟨u, r, hread, -⟩ | ⟨e, hread, -⟩
  · rw [h] at hread
    cases hread
  · rw [h] at hread
    cases hread

/-- The allow-set of a policy is that of the configured owners. -/
theorem owners_of_ofConfig {s : Subrouter} {p : OwnerPolicy} (h : ofConfig s = .ok (some p)) :
    p.owners = allowed (s.owners.getD []) := by
  have hcomplete : s.Complete := by
    by_contra hnot
    rw [ofConfig_of_not_complete hnot] at h
    cases h
  obtain ⟨url, registryUrl, hurl, hregistry, howner⟩ := Subrouter.complete_iff.mp hcomplete
  rcases ofConfig_cases hurl hregistry howner with ⟨u, r, hread, -⟩ | ⟨e, hread, -⟩
  · rw [h] at hread
    cases hread
    rfl
  · rw [h] at hread
    cases hread

/-- The allow-set has the configured owners as they are trimmed, less the blank ones. -/
theorem mem_allowed_iff {owners : List String} {owner : String} :
    owner ∈ allowed owners ↔
      owner ≠ "" ∧ ∃ raw ∈ owners, TrimmedTo raw.toList owner.toList := by
  have htrim (raw : String) : trimText raw = owner ↔ TrimmedTo raw.toList owner.toList := by
    rw [trimmedTo_iff, trimText, ← String.toList_inj, String.toList_ofList]
  simp only [allowed, List.mem_filter, List.mem_map, htrim, bne_iff_ne, ne_eq]
  exact and_comm

theorem isOverridden_iff {s : Subrouter} {p : OwnerPolicy} (h : ofConfig s = .ok (some p))
    {owner : String} :
    p.isOverridden owner = true ↔
      owner ≠ "" ∧ ∃ raw, s.Lists raw ∧ TrimmedTo raw.toList owner.toList := by
  rw [isOverridden, List.contains_iff_mem, owners_of_ofConfig h, mem_allowed_iff]
  simp only [Subrouter.mem_owners_iff]

/-- **An override is in force exactly if it is complete.**  Then its section is a policy, or the
error is that of one of its URLs; otherwise there is no policy, even if a URL is malformed, and the
section is partial if anything of it is configured.  A policy sends exactly those owners to the
subrouter that are not empty and are configured, with blanks around them or without, so that neither
order nor repetition nor blank entries make a difference. -/
theorem override_in_force_iff (s : Subrouter) :
    ((∃ p, ofConfig s = .ok (some p)) ∨ (∃ e, ofConfig s = .error e) ↔ s.Complete) ∧
    (ofConfig s = .ok none ↔ ¬s.Complete) ∧
    (∀ url registryUrl, s.url = some url → s.registryUrl = some registryUrl → s.NamesOwner →
      (∃ p, ofConfig s = .ok (some p) ∧ HostUrl.parse url = .ok p.subrouter.url ∧
        HostUrl.parse registryUrl = .ok p.registryUrl) ∨
      ∃ e, ofConfig s = .error e ∧
        (HostUrl.parse url = .error e ∨ HostUrl.parse registryUrl = .error e)) ∧
    (s.isPartial = true ↔ ofConfig s = .ok none ∧ s.Begun) ∧
    ∀ p, ofConfig s = .ok (some p) →
      (∀ owner, p.isOverridden owner = true ↔
        owner ≠ "" ∧ ∃ raw, s.Lists raw ∧ TrimmedTo raw.toList owner.toList) ∧
      ∀ s' p', ofConfig s' = .ok (some p') →
        (∀ raw, (∃ c ∈ raw.toList, isBlank c = false) → (s.Lists raw ↔ s'.Lists raw)) →
        ∀ owner, p.isOverridden owner = p'.isOverridden owner := by
  refine ⟨?_, ofConfig_eq_none_iff, fun url registryUrl hurl hregistry howner => ?_, ?_,
    fun p hp => ⟨fun owner => isOverridden_iff hp, fun s' p' hp' hlists owner => ?_⟩⟩
  · rw [← not_iff_not, ← ofConfig_eq_none_iff]
    rcases ofConfig s with e | _ | p <;> simp
  · rcases ofConfig_cases hurl hregistry howner with ⟨u, r, hread, hu, hr⟩ | ⟨e, hread, herror⟩
    · exact .inl ⟨_, hread, hu, hr⟩
    · exact .inr ⟨e, hread, herror⟩
  · rw [Subrouter.isPartial_iff, ofConfig_eq_none_iff]
    exact and_comm
  · -- Only entries that are not blank can be trimmed to an owner.
    have hsame : ∀ raw, owner ≠ "" → TrimmedTo raw.toList owner.toList →
        (s.Lists raw ↔ s'.Lists raw) := fun raw hne htrim =>
      hlists raw (htrim.exists_not_blank (by simpa using hne))
    rw [Bool.eq_iff_iff, isOverridden_iff hp, isOverridden_iff hp']
    refine and_congr_right fun hne => exists_congr fun raw => and_congr_left fun htrim => ?_
    exact hsame raw hne htrim

/-- A section with a repeated owner, a blank entry and blanks around an owner. -/
def vipSection : Subrouter :=
  ⟨some "http://sub/", some "https://registry/graphql", some ["vip", " ", "other", "\tvip "], "1h"⟩

/-- The owners of the section in another order, each once. -/
def tidySection : Subrouter :=
  { vipSection with owners := some ["other", "\tvip ", "vip"] }

/-- The section is a policy for the owner within the blanks, and for no other spelling of it; the
tidied one decides alike.  Without an owner a section is partial, whatever its URL is worth. -/
theorem vip_overridden_once :
    (∃ p p', ofConfig vipSection = .ok (some p) ∧ ofConfig tidySection = .ok (some p') ∧
      vipSection.isPartial = false ∧ p.isOverridden "vip" = true ∧
      p.isOverridden "\tvip " = false ∧ p.isOverridden "" = false ∧
      ∀ owner, p.isOverridden owner = p'.isOverridden owner) ∧
    ofConfig { url := some "sub-router", owners := some [" "] } = .ok none ∧
    Subrouter.isPartial { url := some "sub-router", owners := some [" "] } = true := by
  let policy (owners : List String) : OwnerPolicy :=
    ⟨⟨none, ⟨"http://sub", false⟩⟩, ⟨"https://registry/graphql", true⟩, owners⟩
  have hvip : ofConfig vipSection = .ok (some (policy ["vip", "other", "vip"])) := by
    decide +kernel
  have htidy : ofConfig tidySection = .ok (some (policy ["other", "vip", "vip"])) := by
    decide +kernel
  obtain ⟨-, -, -, hpartial, hpolicy⟩ := override_in_force_iff vipSection
  obtain ⟨hoverridden, hlike⟩ := hpolicy _ hvip
  obtain ⟨-, hnone, -, hlacking, -⟩ :=
    override_in_force_iff { url := some "sub-router", owners := some [" "] }
  have hlists : ∀ raw, (∃ c ∈ raw.toList, isBlank c = false) →
      (vipSection.Lists raw ↔ tidySection.Lists raw) := by
    rintro raw ⟨c, hc, hblank⟩
    have hne : raw ≠ " " := by
      rintro rfl
      obtain rfl : c = ' ' := by simpa using hc
      cases hblank
    rw [← Subrouter.mem_owners_iff, ← Subrouter.mem_owners_iff]
    simp only [vipSection, tidySection, Option.getD_some, List.mem_cons, List.not_mem_nil, hne]
    grind
  have howner : (policy ["vip", "other", "vip"]).isOverridden "vip" = true :=
    (hoverridden "vip").mpr ⟨by decide, "\tvip ", ⟨_, rfl, by decide⟩,
      trimmedTo_iff.mpr (by decide +kernel)⟩
  have hwhole : vipSection.isPartial = false := by
    refine Bool.eq_false_iff.mpr fun h => ?_
    have hread := (hpartial.mp h).1
    rw [hvip] at hread
    cases hread
  have hread := hnone.mpr fun h => h.registryUrl rfl
  exact ⟨⟨_, _, hvip, htidy, hwhole, howner, by decide, by decide, hlike _ _ htidy hlists⟩, hread,
    hlacking.mpr ⟨hread, .inl (by simp)⟩⟩

end OwnerPolicy
end AffinityGate
