import AffinityGate.Proofs.Config.Report
import AffinityGate.Proofs.Dispatch.Built
import AffinityGate.Proofs.Host.Construction

/-!
# Validation and start-up

Validation looks at the URLs of a configuration as the URL standard reads them; a dispatcher is
built from their stored forms, whose start is compared letter by letter and which must differ.
`valid_has_dispatcher_iff` says exactly which valid configurations have a dispatcher, and
`valid_without_dispatcher` that not all have one.
-/

namespace AffinityGate

open Url

/-! ## Policies -/

/-- When an override section is readable. -/
theorem OwnerPolicy.exists_ofConfig_iff {s : Config.Subrouter} :
    (∃ policy, ofConfig s = .ok policy) ↔
      ∀ url registryUrl, s.url = some url → s.registryUrl = some registryUrl → s.hasOwner = true →
        (HostUrl.StartsAsBase url ∧ IsBase (HostUrl.stored url.toList)) ∧
        HostUrl.StartsAsBase registryUrl ∧ IsBase (HostUrl.stored registryUrl.toList) := by
  unfold ofConfig
  split
  · rename_i url registryUrl hurl hregistry howner
    constructor
    · rintro ⟨policy, h⟩ _ _ hurl' hregistry' -
      rw [hurl] at hurl'
      rw [hregistry] at hregistry'
      cases hurl'
      cases hregistry'
      cases hmake : make url registryUrl (s.owners.getD []) with
      | error e =>
        rw [hmake] at h
        cases h
      | ok p =>
        obtain ⟨u, r, hu, hr, -⟩ := make_eq_ok_iff.mp hmake
        obtain ⟨hustart, hubase, -⟩ := HostUrl.parse_eq_ok_iff.mp hu
        obtain ⟨hrstart, hrbase, -⟩ := HostUrl.parse_eq_ok_iff.mp hr
        exact ⟨⟨hustart, hubase⟩, hrstart, hrbase⟩
    · intro h
      obtain ⟨⟨hustart, hubase⟩, hrstart, hrbase⟩ := h url registryUrl hurl hregistry howner
      have hu := HostUrl.parse_eq_ok_iff.mpr ⟨hustart, hubase, rfl⟩
      have hr := HostUrl.parse_eq_ok_iff.mpr ⟨hrstart, hrbase, rfl⟩
      rw [make_eq_ok_iff.mpr ⟨_, _, hu, hr, rfl⟩]
      exact ⟨_, rfl⟩
  · rename_i hpartial
    refine iff_of_true ⟨none, rfl⟩ fun url registryUrl hurl hregistry howner => ?_
    exact absurd howner (hpartial url registryUrl hurl hregistry)

/-! ## What validation checks -/

namespace Config

theorem isBase_of_urlFault? {raw : String} (h : urlFault? raw = none) : IsBase raw.toList := by
  obtain ⟨u, hu, -, hhost, hmarks⟩ := urlFault?_eq_none_iff.mp h
  exact ⟨u, hu, Option.isSome_iff_ne_none.mpr hhost, hmarks⟩

theorem urlFault?_of_hostProblems {seen : List (List Char)} {position : Nat} {hosts : List String}
    (h : hostProblems seen position hosts = []) : ∀ raw ∈ hosts, urlFault? raw = none := by
  induction hosts generalizing seen position with
  | nil => simp
  | cons raw rest ih =>
    rw [hostProblems] at h
    split at h
    · cases h
    · rename_i hfault
      split at h
      · cases h
      · intro r hr
        rcases List.mem_cons.mp hr with rfl | hr
        · exact hfault
        · exact ih h r hr

theorem parse_of_durationProblems {field zeroText raw : String}
    (h : durationProblems field zeroText raw = []) : ∃ d, Duration.parse raw = .ok d := by
  unfold durationProblems at h
  split at h
  · cases h
  · rename_i d hd
    exact ⟨d, hd⟩

theorem urlFault?_of_urlProblems {field raw : String} (h : urlProblems field raw = []) :
    urlFault? raw = none := by
  unfold urlProblems at h
  split at h
  · cases h
  · assumption

/-- The problems that a valid configuration does not have. -/
theorem problems_of_validate {fileExists : String → Bool} {c : Config}
    (h : validate fileExists c = .ok ()) :
    hostsProblems c.hosts = [] ∧ timeoutsProblems c.timeouts = [] ∧
      subrouterProblems c.subrouter = [] := by
  have hnone := validate_eq_ok_iff.mp h
  simp only [problems, List.append_eq_nil_iff] at hnone
  exact ⟨hnone.1.1.1.1.1.2, hnone.1.1.1.1.2, hnone.1.1.1.2⟩

/-- What a configuration needs beyond validity: the URLs that are used start, once stripped, with
`http://` or `https://` letter by letter, and the stripped hosts are distinct. -/
structure IsPlain (c : Config) : Prop where
  hosts : ∀ raw ∈ c.hosts, HostUrl.StartsAsBase raw
  distinct : (c.hosts.map fun raw => HostUrl.stored raw.toList).Nodup
  subrouter : ∀ url registryUrl, c.subrouter.url = some url →
    c.subrouter.registryUrl = some registryUrl → c.subrouter.hasOwner = true →
    HostUrl.StartsAsBase url ∧ HostUrl.StartsAsBase registryUrl

/-- A URL that is valid and starts as base URLs do has a stored form that is read. -/
theorem isBase_stored_of_valid {raw : String} (hvalid : urlFault? raw = none)
    (hstart : HostUrl.StartsAsBase raw) : IsBase (HostUrl.stored raw.toList) := by
  obtain ⟨start, hs, rest, hrest⟩ := hstart
  exact isBase_stored (isBase_of_urlFault? hvalid) hs hrest.symm

/-- **Which valid configurations have a dispatcher.**  Validity alone is not enough: the start of a
URL may be written in ways that only the URL standard reads, and two hosts may differ by blanks at
their ends. -/
theorem valid_has_dispatcher_iff {fileExists : String → Bool} {c : Config}
    (h : validate fileExists c = .ok ()) :
    (∃ d warnings, Dispatcher.ofConfig c = .ok (d, warnings)) ↔ c.IsPlain := by
  obtain ⟨hhosts, htimeouts, hsubrouter⟩ := problems_of_validate h
  simp only [timeoutsProblems, subrouterProblems, List.append_eq_nil_iff] at htimeouts hsubrouter
  obtain ⟨hattempt, hregistry⟩ := htimeouts
  obtain ⟨⟨hurl, hregistryUrl⟩, -⟩ := hsubrouter
  have hnonempty : c.hosts ≠ [] := by
    rintro hnil
    simp [hostsProblems, hnil] at hhosts
  have hvalid : ∀ raw ∈ c.hosts, urlFault? raw = none := by
    rw [hostsProblems, if_neg (by simpa using hnonempty)] at hhosts
    exact urlFault?_of_hostProblems hhosts
  have hattempt : ∃ limit, c.timeouts.attemptLimit = .ok limit := parse_of_durationProblems hattempt
  have hregistry : ∃ limit, c.timeouts.registryLimit = .ok limit :=
    parse_of_durationProblems hregistry
  rw [Dispatcher.exists_ofConfig_iff, HostPool.exists_parse_iff, OwnerPolicy.exists_ofConfig_iff]
  constructor
  · rintro ⟨⟨-, hall, hdistinct⟩, hpolicy, -, -⟩
    refine ⟨fun raw hraw => (hall raw hraw).1, hdistinct, fun url registryUrl hu hr ho => ?_⟩
    obtain ⟨hustart, hrstart⟩ := hpolicy url registryUrl hu hr ho
    exact ⟨hustart.1, hrstart.1⟩
  · rintro ⟨hstarts, hdistinct, hpolicy⟩
    refine ⟨⟨hnonempty, fun raw hraw => ⟨hstarts raw hraw, ?_⟩, hdistinct⟩, ?_, hattempt, hregistry⟩
    · exact isBase_stored_of_valid (hvalid raw hraw) (hstarts raw hraw)
    · intro url registryUrl hu hr ho
      obtain ⟨hustart, hrstart⟩ := hpolicy url registryUrl hu hr ho
      rw [hu] at hurl
      rw [hr] at hregistryUrl
      exact ⟨⟨hustart, isBase_stored_of_valid (urlFault?_of_urlProblems hurl) hustart⟩, hrstart,
        isBase_stored_of_valid (urlFault?_of_urlProblems hregistryUrl) hrstart⟩

/-- A host in small letters starts as base URLs do. -/
theorem small_letters_have_dispatcher :
    let c : Config := { hosts := ["http://a"], unit := .compute }
    validate (fun _ => false) c = .ok () ∧
      ∃ d warnings, Dispatcher.ofConfig c = .ok (d, warnings) := by
  intro c
  have hvalid : validate (fun _ => false) c = .ok () := validate_eq_ok_iff.mpr (by decide +kernel)
  refine ⟨hvalid, (valid_has_dispatcher_iff hvalid).mpr ⟨?_, ?_, ?_⟩⟩
  · intro raw hraw
    rw [List.mem_singleton] at hraw
    subst hraw
    exact ⟨"http://".toList, by decide, by decide⟩
  · simp [c]
  · rintro url registryUrl hurl
    cases hurl

/-- A valid configuration may have no dispatcher: its host's scheme is written in capitals. -/
theorem valid_without_dispatcher :
    ¬∀ (fileExists : String → Bool) (c : Config), validate fileExists c = .ok () →
      ∃ d warnings, Dispatcher.ofConfig c = .ok (d, warnings) := by
  intro h
  obtain ⟨d, warnings, hd⟩ :=
    h (fun _ => false) { hosts := ["HTTP://a"], unit := .compute }
      (validate_eq_ok_iff.mpr (by decide +kernel))
  have hnone : (Dispatcher.ofConfig { hosts := ["HTTP://a"], unit := .compute }).isOk = false := by
    decide +kernel
  rw [hd] at hnone
  cases hnone

end Config
end AffinityGate
