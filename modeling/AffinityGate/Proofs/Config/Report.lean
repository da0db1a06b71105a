import Mathlib.Data.List.Nodup
import Mathlib.Data.List.Range
import AffinityGate.Config.Validation
import AffinityGate.Proofs.Text.Ends

/-!
# What a report contains

`Wrong` says what can be wrong with a configuration, and in which place.  Validation looks at one
place after another, and the hosts are looked at in one pass that keeps the valid ones it has met;
`problems_eq` says that this comes to looking at each place on its own.  From that
`report_complete` says that a report has exactly the problems that there are, each once and in the
order of the places, and that what is reported of one part depends on no other.
-/

namespace AffinityGate.Config

/-! ## What can be wrong -/

/-- A URL with one of the schemes that hosts are reached by. -/
def IsWeb (u : Url) : Prop :=
  u.scheme = "http" ∨ u.scheme = "https"

/-- A URL that hosts may be reached at. -/
def IsHostUrl (raw : String) : Prop :=
  ∃ u, Url.parse raw.toList = .ok u ∧ IsWeb u ∧ u.host ≠ none ∧ u.query = none ∧ u.fragment = none

/-- What is wrong with a URL: that it is none, its scheme, its host, or what follows the path. -/
inductive UrlWrong (raw : String) : String → Prop
  | unreadable {e : Url.Error} : Url.parse raw.toList = .error e →
    UrlWrong raw ("Invalid URL format: " ++ e.message)
  | scheme {u : Url} : Url.parse raw.toList = .ok u → ¬IsWeb u →
    UrlWrong raw ("URL scheme must be 'http' or 'https', got '" ++ u.scheme ++ "'")
  | host {u : Url} : Url.parse raw.toList = .ok u → IsWeb u → u.host = none →
    UrlWrong raw "URL must have a valid host"
  | marks {u : Url} : Url.parse raw.toList = .ok u → IsWeb u → u.host ≠ none →
    (u.query ≠ none ∨ u.fragment ≠ none) → UrlWrong raw "URL must not carry a query or fragment"

/-- What is wrong with a duration: that it is none, or nothing. -/
inductive DurationWrong (zeroText raw : String) : String → Prop
  | unreadable {e : Duration.Fault} : Duration.parse raw = .error e →
    DurationWrong zeroText raw ("Invalid duration '" ++ raw ++ "': " ++ e.message)
  | zero {d : Duration} : Duration.parse raw = .ok d → d.nanos = 0 →
    DurationWrong zeroText raw zeroText

/-- Two texts that differ in the slashes at their ends at most. -/
def SameButSlashes (raw raw' : String) : Prop :=
  ∃ core m n, raw.toList = core ++ List.replicate m '/' ∧
    raw'.toList = core ++ List.replicate n '/'

/-- The parts of a configuration that are checked. -/
inductive Part
  | listenAddress
  | hosts
  | timeouts
  | subrouter
  | bodyLimit
  | tls
  | logging
  deriving DecidableEq

/-- Two configurations have the same in a part. -/
def Part.Agree (c c' : Config) : Part → Prop
  | .listenAddress => c.listenAddr = c'.listenAddr
  | .hosts => c.hosts = c'.hosts
  | .timeouts => c.timeouts = c'.timeouts
  | .subrouter => c.subrouter = c'.subrouter
  | .bodyLimit => c.maxBodyBytes = c'.maxBodyBytes
  | .tls => c.tls = c'.tls
  | .logging => c.logging = c'.logging

/-- The places of a configuration in which something can be wrong. -/
inductive Place
  | listenAddress
  | hostList
  | host (position : Nat)
  | attemptTimeout
  | registryTimeout
  | subrouterUrl
  | registryUrl
  | cacheTtl
  | bodyLimit
  | tls
  | logLevel
  deriving DecidableEq

/-- The part that a place belongs to. -/
def Place.part : Place → Part
  | .listenAddress => .listenAddress
  | .hostList | .host _ => .hosts
  | .attemptTimeout | .registryTimeout => .timeouts
  | .subrouterUrl | .registryUrl | .cacheTtl => .subrouter
  | .bodyLimit => .bodyLimit
  | .tls => .tls
  | .logLevel => .logging

/-- The places of a configuration, in the order in which they are reported. -/
def places (c : Config) : List Place :=
  [.listenAddress, .hostList] ++ (List.range c.hosts.length).map .host ++
    [.attemptTimeout, .registryTimeout, .subrouterUrl, .registryUrl, .cacheTtl, .bodyLimit, .tls,
      .logLevel]

/-- What is wrong in a place of a configuration. -/
inductive Wrong (fileExists : String → Bool) (c : Config) : Place → Problem → Prop
  | listenAddress : Net.Socket.parse? c.listenAddr.toList = none →
    Wrong fileExists c .listenAddress (.listenAddress c.listenAddr)
  | noHost : c.hosts = [] → Wrong fileExists c .hostList (.missing "hosts")
  | hostUrl {p : Nat} {raw text : String} : c.hosts[p]? = some raw → UrlWrong raw text →
    Wrong fileExists c (.host p) (.invalid ("hosts[" ++ toString p ++ "]") text)
  | repeatedHost {p q : Nat} {raw earlier : String} : c.hosts[p]? = some raw → IsHostUrl raw →
    q < p → c.hosts[q]? = some earlier → IsHostUrl earlier → SameButSlashes earlier raw →
    Wrong fileExists c (.host p) (.duplicateHost raw p)
  | attemptTimeout {text : String} :
    DurationWrong "Timeout must be greater than zero" c.timeouts.attempt text →
    Wrong fileExists c .attemptTimeout (.invalid "timeouts.attempt" text)
  | registryTimeout {text : String} :
    DurationWrong "Timeout must be greater than zero" c.timeouts.registry text →
    Wrong fileExists c .registryTimeout (.invalid "timeouts.registry" text)
  | subrouterUrl {raw text : String} : c.subrouter.url = some raw → UrlWrong raw text →
    Wrong fileExists c .subrouterUrl (.invalid "subrouter.url" text)
  | registryUrl {raw text : String} : c.subrouter.registryUrl = some raw → UrlWrong raw text →
    Wrong fileExists c .registryUrl (.invalid "subrouter.registry_url" text)
  | cacheTtl {text : String} :
    DurationWrong "Cache TTL must be greater than zero" c.subrouter.cacheTtl text →
    Wrong fileExists c .cacheTtl (.invalid "subrouter.cache_ttl" text)
  | bodyLimit : c.maxBodyBytes = 0 →
    Wrong fileExists c .bodyLimit (.invalid "max_body_bytes" "Must be greater than zero")
  | certificate {t : Tls} : c.tls = some t → fileExists t.certPath = false →
    Wrong fileExists c .tls (.tls ("Certificate file does not exist: " ++ t.certPath))
  | key {t : Tls} : c.tls = some t → fileExists t.certPath = true → fileExists t.keyPath = false →
    Wrong fileExists c .tls (.tls ("Private key file does not exist: " ++ t.keyPath))
  | logLevel {e : Logging.FilterError} : Logging.Filter.parse c.logging.level = .error e →
    Wrong fileExists c .logLevel (.invalid "logging.level" e.message)

/-! ## Single checks -/

theorem not_isWeb_iff {u : Url} : ¬IsWeb u ↔ u.scheme ≠ "http" ∧ u.scheme ≠ "https" :=
  not_or

theorem urlFault?_eq_some_iff {raw text : String} :
    urlFault? raw = some text ↔ UrlWrong raw text := by
  unfold urlFault?
  constructor
  · intro h
    split at h
    · rename_i e he
      cases h
      exact .unreadable he
    · rename_i u hu
      split at h
      · rename_i hscheme
        cases h
        exact .scheme hu (not_isWeb_iff.mpr hscheme)
      · rename_i hscheme
        have hweb : IsWeb u := not_not.mp (mt not_isWeb_iff.mp hscheme)
        split at h
        · rename_i hhost
          cases h
          exact .host hu hweb (Option.isNone_iff_eq_none.mp hhost)
        · rename_i hhost
          split at h
          · rename_i hmarks
            cases h
            refine .marks hu hweb (by simpa using hhost) ?_
            simpa only [Option.isSome_iff_ne_none] using hmarks
          · cases h
  · intro h
    cases h with
    | unreadable he => rw [he]
    | scheme hu hscheme => simp only [hu, if_pos (not_isWeb_iff.mp hscheme)]
    | host hu hweb hhost => simp [hu, ← not_isWeb_iff, hweb, hhost]
    | marks hu hweb hhost hmarks =>
      simp [hu, ← not_isWeb_iff, hweb, hhost, Option.isSome_iff_ne_none, hmarks]

theorem urlFault?_eq_none_iff {raw : String} : urlFault? raw = none ↔ IsHostUrl raw := by
  constructor
  · intro h
    have hright {text : String} : ¬UrlWrong raw text := fun hwrong => by
      rw [urlFault?_eq_some_iff.mpr hwrong] at h
      cases h
    cases hu : Url.parse raw.toList with
    | error e => exact absurd (.unreadable hu) hright
    | ok u =>
      have hweb : IsWeb u := not_not.mp fun hscheme => hright (.scheme hu hscheme)
      have hhost : u.host ≠ none := fun hnone => hright (.host hu hweb hnone)
      have hmarks : ¬(u.query ≠ none ∨ u.fragment ≠ none) := fun hmarks =>
        hright (.marks hu hweb hhost hmarks)
      rw [not_or, not_not, not_not] at hmarks
      exact ⟨u, hu, hweb, hhost, hmarks⟩
  · rintro ⟨u, hu, hweb, hhost, hquery, hfragment⟩
    simp [urlFault?, hu, ← not_isWeb_iff, hweb, hhost, hquery, hfragment]

theorem mem_urlProblems_iff {field raw : String} {problem : Problem} :
    problem ∈ urlProblems field raw ↔
      ∃ text, UrlWrong raw text ∧ problem = .invalid field text := by
  simp only [urlProblems, ← urlFault?_eq_some_iff]
  cases urlFault? raw <;> simp

/-- The problem of a URL that may be missing. -/
theorem mem_optionalUrl_iff {field : String} {url : Option String} {problem : Problem} :
    problem ∈ (url.map (urlProblems field)).getD [] ↔
      ∃ raw, url = some raw ∧ ∃ text, UrlWrong raw text ∧ problem = .invalid field text := by
  cases url with
  | none => simp
  | some raw => simp [mem_urlProblems_iff]

theorem mem_durationProblems_iff {field zeroText raw : String} {problem : Problem} :
    problem ∈ durationProblems field zeroText raw ↔
      ∃ text, DurationWrong zeroText raw text ∧ problem = .invalid field text := by
  unfold durationProblems
  cases hread : Duration.parse raw with
  | error e =>
    rw [List.mem_singleton]
    constructor
    · exact fun h => ⟨_, .unreadable hread, h⟩
    · rintro ⟨text, hwrong, rfl⟩
      cases hwrong with
      | unreadable h => rw [hread] at h; cases h; rfl
      | zero h => rw [hread] at h; cases h
  | ok d =>
    rw [List.mem_ite_nil_right, List.mem_singleton, Duration.isZero, beq_iff_eq]
    constructor
    · rintro ⟨hzero, rfl⟩
      exact ⟨_, .zero hread hzero, rfl⟩
    · rintro ⟨text, hwrong, rfl⟩
      cases hwrong with
      | unreadable h => rw [hread] at h; cases h
      | zero h hzero => rw [hread] at h; cases h; exact ⟨hzero, rfl⟩

theorem hostKey_eq_rdropWhile (raw : String) :
    hostKey raw = raw.toList.rdropWhile (· == '/') :=
  rfl

theorem hostKey_eq_iff {raw raw' : String} :
    hostKey raw = hostKey raw' ↔ SameButSlashes raw raw' := by
  simp only [hostKey_eq_rdropWhile]
  constructor
  · intro h
    have hsplit (cs : List Char) : ∃ n,
        cs = cs.rdropWhile (· == '/') ++ List.replicate n '/' := by
      have hslashes : ∀ c ∈ cs.rtakeWhile (· == '/'), c = '/' := fun c hc => by
        simpa using List.mem_rtakeWhile_imp hc
      refine ⟨(cs.rtakeWhile (· == '/')).length, ?_⟩
      rw [← List.eq_replicate_of_mem hslashes, List.rdropWhile_append_rtakeWhile]
    obtain ⟨m, hm⟩ := hsplit raw.toList
    obtain ⟨n, hn⟩ := hsplit raw'.toList
    exact ⟨_, m, n, hm, h ▸ hn⟩
  · rintro ⟨core, m, n, hm, hn⟩
    have hslashes (n : Nat) : ∀ c ∈ List.replicate n '/', (c == '/') = true := fun c hc =>
      beq_iff_eq.mpr (List.eq_of_mem_replicate hc)
    rw [hm, hn, rdropWhile_append_of_pos (hslashes m), rdropWhile_append_of_pos (hslashes n)]

/-! ## The pass over the hosts -/

/-- The problem of the host at a position, found without a pass: a valid host is looked for among
the valid ones before it. -/
def hostProblemsAt (hosts : List String) (p : Nat) : List Problem :=
  match hosts[p]? with
  | none => []
  | some raw =>
    match urlFault? raw with
    | some text => [.invalid ("hosts[" ++ toString p ++ "]") text]
    | none =>
      if (hosts.take p).any fun earlier =>
          (urlFault? earlier).isNone && hostKey earlier == hostKey raw then
        [.duplicateHost raw p]
      else []

/-- What the pass keeps: the keys of the valid hosts that it has met. -/
def IsSeen (seen : List (List Char)) (before : List String) : Prop :=
  ∀ key, key ∈ seen ↔ ∃ raw ∈ before, urlFault? raw = none ∧ hostKey raw = key

theorem isSeen_concat_iff {seen seen' : List (List Char)} {before : List String} {raw : String}
    (h : IsSeen seen before) : IsSeen seen' (before ++ [raw]) ↔
      ∀ key, key ∈ seen' ↔ key ∈ seen ∨ urlFault? raw = none ∧ hostKey raw = key := by
  refine forall_congr' fun key => ?_
  rw [h key]
  simp only [List.mem_append, List.mem_singleton, or_and_right, exists_or, exists_eq_left]

theorem hostProblemsAt_length {seen : List (List Char)} {before : List String}
    (h : IsSeen seen before) (raw : String) (rest : List String) :
    hostProblemsAt (before ++ raw :: rest) before.length =
      match urlFault? raw with
      | some text => [.invalid ("hosts[" ++ toString before.length ++ "]") text]
      | none => if hostKey raw ∈ seen then [.duplicateHost raw before.length] else [] := by
  have hmem : hostKey raw ∈ seen ↔ (before.any fun earlier =>
      (urlFault? earlier).isNone && hostKey earlier == hostKey raw) = true := by
    rw [h (hostKey raw)]
    simp
  simp [hostProblemsAt, hmem]

/-- The pass reports of each host what is found at its position. -/
theorem hostProblems_eq {seen : List (List Char)} {before rest : List String}
    (h : IsSeen seen before) : hostProblems seen before.length rest =
      (List.range' before.length rest.length).flatMap (hostProblemsAt (before ++ rest)) := by
  induction rest generalizing seen before with
  | nil => rfl
  | cons raw rest ih =>
    have hstep {seen' : List (List Char)} (h' : IsSeen seen' (before ++ [raw])) :
        hostProblems seen' (before.length + 1) rest =
          (List.range' (before.length + 1) rest.length).flatMap
            (hostProblemsAt (before ++ raw :: rest)) := by
      simpa using ih h'
    rw [List.length_cons, List.range'_succ, List.flatMap_cons, hostProblemsAt_length h,
      hostProblems]
    cases hfault : urlFault? raw with
    | some text =>
      rw [hstep ((isSeen_concat_iff h).mpr fun key => by simp [hfault])]
      rfl
    | none =>
      by_cases hkey : hostKey raw ∈ seen
      · have hsame : IsSeen seen (before ++ [raw]) :=
          (isSeen_concat_iff h).mpr fun key => by grind
        simp only [if_pos hkey, hstep hsame]
        rfl
      · have hadded : IsSeen (hostKey raw :: seen) (before ++ [raw]) :=
          (isSeen_concat_iff h).mpr fun key => by grind
        simp only [if_neg hkey, hstep hadded]
        rfl

theorem hostsProblems_eq (hosts : List String) :
    hostsProblems hosts = (if hosts.isEmpty then [.missing "hosts"] else []) ++
      (List.range hosts.length).flatMap (hostProblemsAt hosts) := by
  cases hosts with
  | nil => rfl
  | cons raw rest =>
    have hnone : IsSeen [] [] := fun key => by simp
    rw [hostsProblems, List.range_eq_range']
    exact hostProblems_eq hnone

/-- When a host is found to repeat an earlier one. -/
theorem any_take_iff {hosts : List String} {p : Nat} {raw : String} :
    ((hosts.take p).any fun earlier =>
        (urlFault? earlier).isNone && hostKey earlier == hostKey raw) = true ↔
      ∃ q < p, ∃ earlier, hosts[q]? = some earlier ∧ IsHostUrl earlier ∧
        SameButSlashes earlier raw := by
  simp only [List.any_eq_true, Bool.and_eq_true, Option.isNone_iff_eq_none, beq_iff_eq,
    urlFault?_eq_none_iff, hostKey_eq_iff, List.mem_iff_getElem?]
  constructor
  · rintro ⟨earlier, ⟨q, hq⟩, hvalid, hsame⟩
    rw [List.getElem?_take] at hq
    split at hq
    · rename_i hlt
      exact ⟨q, hlt, earlier, hq, hvalid, hsame⟩
    · cases hq
  · rintro ⟨q, hq, earlier, hearlier, hvalid, hsame⟩
    exact ⟨earlier, ⟨q, by rwa [List.getElem?_take, if_pos hq]⟩, hvalid, hsame⟩

/-! ## One place after another -/

/-- The problem of a place, found without looking at any other, but for the hosts before a host. -/
def problemsAt (fileExists : String → Bool) (c : Config) : Place → List Problem
  | .listenAddress => listenProblems c.listenAddr
  | .hostList => if c.hosts.isEmpty then [.missing "hosts"] else []
  | .host p => hostProblemsAt c.hosts p
  | .attemptTimeout =>
    durationProblems "timeouts.attempt" "Timeout must be greater than zero" c.timeouts.attempt
  | .registryTimeout =>
    durationProblems "timeouts.registry" "Timeout must be greater than zero" c.timeouts.registry
  | .subrouterUrl => (c.subrouter.url.map (urlProblems "subrouter.url")).getD []
  | .registryUrl => (c.subrouter.registryUrl.map (urlProblems "subrouter.registry_url")).getD []
  | .cacheTtl =>
    durationProblems "subrouter.cache_ttl" "Cache TTL must be greater than zero"
      c.subrouter.cacheTtl
  | .bodyLimit => bodyProblems c.maxBodyBytes
  | .tls => tlsProblems fileExists c.tls
  | .logLevel => levelProblems c.logging.level

variable {fileExists : String → Bool} {c : Config}

/-- The problems of a configuration are those of its places, one place after another. -/
theorem problems_eq : problems fileExists c = (places c).flatMap (problemsAt fileExists c) := by
  simp only [places, List.flatMap_append, List.flatMap_map, problems, hostsProblems_eq,
    timeoutsProblems, subrouterProblems, List.flatMap_cons, List.flatMap_nil, problemsAt,
    List.append_nil, List.append_assoc]

theorem length_urlProblems_le (field raw : String) : (urlProblems field raw).length ≤ 1 := by
  unfold urlProblems
  split <;> simp

theorem length_durationProblems_le (field zeroText raw : String) :
    (durationProblems field zeroText raw).length ≤ 1 := by
  unfold durationProblems
  split
  · simp
  · split <;> simp

theorem length_hostProblemsAt_le (hosts : List String) (p : Nat) :
    (hostProblemsAt hosts p).length ≤ 1 := by
  unfold hostProblemsAt
  split
  · simp
  · split
    · simp
    · split <;> simp

/-- In one place one thing is wrong at most. -/
theorem length_problemsAt_le (place : Place) : (problemsAt fileExists c place).length ≤ 1 := by
  have hlist (b : Bool) (problem : Problem) : (if b then [problem] else []).length ≤ 1 := by
    cases b <;> simp
  cases place with
  | listenAddress => rw [problemsAt, listenProblems]; split <;> simp
  | hostList => exact hlist _ _
  | host p => exact length_hostProblemsAt_le c.hosts p
  | attemptTimeout => exact length_durationProblems_le _ _ _
  | registryTimeout => exact length_durationProblems_le _ _ _
  | subrouterUrl =>
    rw [problemsAt]
    cases c.subrouter.url with
    | none => simp
    | some raw => exact length_urlProblems_le _ raw
  | registryUrl =>
    rw [problemsAt]
    cases c.subrouter.registryUrl with
    | none => simp
    | some raw => exact length_urlProblems_le _ raw
  | cacheTtl => exact length_durationProblems_le _ _ _
  | bodyLimit => rw [problemsAt, bodyProblems]; split <;> simp
  | tls =>
    rw [problemsAt, tlsProblems.eq_def]
    split
    · simp
    · split_ifs <;> simp
  | logLevel => rw [problemsAt, levelProblems]; split <;> simp

/-- What is found in a place is what is wrong there. -/
theorem mem_problemsAt_iff {place : Place} {problem : Problem} :
    problem ∈ problemsAt fileExists c place ↔ Wrong fileExists c place problem := by
  constructor
  · intro h
    cases place with
    | listenAddress =>
      simp only [problemsAt, listenProblems, List.mem_ite_nil_left, List.mem_singleton] at h
      obtain ⟨hnone, rfl⟩ := h
      exact .listenAddress (by simpa using hnone)
    | hostList =>
      simp only [problemsAt, List.mem_ite_nil_right, List.mem_singleton] at h
      obtain ⟨hnone, rfl⟩ := h
      exact .noHost (by simpa using hnone)
    | host p =>
      rw [problemsAt, hostProblemsAt] at h
      split at h
      · cases h
      · rename_i raw hraw
        split at h
        · rename_i text hfault
          obtain rfl := List.mem_singleton.mp h
          exact .hostUrl hraw (urlFault?_eq_some_iff.mp hfault)
        · rename_i hvalid
          rw [List.mem_ite_nil_right, any_take_iff, List.mem_singleton] at h
          obtain ⟨⟨q, hq, earlier, hearlier, hvalid', hsame⟩, rfl⟩ := h
          exact .repeatedHost hraw (urlFault?_eq_none_iff.mp hvalid) hq hearlier hvalid' hsame
    | attemptTimeout =>
      obtain ⟨text, hwrong, rfl⟩ := mem_durationProblems_iff.mp h
      exact .attemptTimeout hwrong
    | registryTimeout =>
      obtain ⟨text, hwrong, rfl⟩ := mem_durationProblems_iff.mp h
      exact .registryTimeout hwrong
    | subrouterUrl =>
      obtain ⟨raw, hraw, text, hwrong, rfl⟩ := mem_optionalUrl_iff.mp h
      exact .subrouterUrl hraw hwrong
    | registryUrl =>
      obtain ⟨raw, hraw, text, hwrong, rfl⟩ := mem_optionalUrl_iff.mp h
      exact .registryUrl hraw hwrong
    | cacheTtl =>
      obtain ⟨text, hwrong, rfl⟩ := mem_durationProblems_iff.mp h
      exact .cacheTtl hwrong
    | bodyLimit =>
      simp only [problemsAt, bodyProblems, List.mem_ite_nil_right, List.mem_singleton] at h
      obtain ⟨hzero, rfl⟩ := h
      exact .bodyLimit hzero
    | tls =>
      rw [problemsAt, tlsProblems.eq_def] at h
      split at h
      · cases h
      · rename_i t ht
        split at h
        · rename_i hcert
          obtain rfl := List.mem_singleton.mp h
          exact .certificate ht (by simpa using hcert)
        · rename_i hcert
          rw [List.mem_ite_nil_right, List.mem_singleton] at h
          obtain ⟨hkey, rfl⟩ := h
          exact .key ht (by simpa using hcert) (by simpa using hkey)
    | logLevel =>
      rw [problemsAt, levelProblems] at h
      split at h
      · cases h
      · rename_i e he
        obtain rfl := List.mem_singleton.mp h
        exact .logLevel he
  · intro h
    cases h with
    | listenAddress hnone => simp [problemsAt, listenProblems, hnone]
    | noHost hnone => simp [problemsAt, hnone]
    | hostUrl hraw hwrong =>
      simp [problemsAt, hostProblemsAt, hraw, urlFault?_eq_some_iff.mpr hwrong]
    | repeatedHost hraw hvalid hq hearlier hvalid' hsame =>
      have hany := any_take_iff.mpr ⟨_, hq, _, hearlier, hvalid', hsame⟩
      simp only [problemsAt, hostProblemsAt, hraw, urlFault?_eq_none_iff.mpr hvalid, hany, if_true,
        List.mem_singleton]
    | attemptTimeout hwrong => exact mem_durationProblems_iff.mpr ⟨_, hwrong, rfl⟩
    | registryTimeout hwrong => exact mem_durationProblems_iff.mpr ⟨_, hwrong, rfl⟩
    | subrouterUrl hraw hwrong => exact mem_optionalUrl_iff.mpr ⟨_, hraw, _, hwrong, rfl⟩
    | registryUrl hraw hwrong => exact mem_optionalUrl_iff.mpr ⟨_, hraw, _, hwrong, rfl⟩
    | cacheTtl hwrong => exact mem_durationProblems_iff.mpr ⟨_, hwrong, rfl⟩
    | bodyLimit hzero => simp [problemsAt, bodyProblems, hzero]
    | certificate ht hcert => simp [problemsAt, tlsProblems, ht, hcert]
    | key ht hcert hkey => simp [problemsAt, tlsProblems, ht, hcert, hkey]
    | logLevel he => simp [problemsAt, levelProblems, he]

/-! ## Entries -/

/-- The entries of the report of a configuration: places, and what is wrong there. -/
def entries (fileExists : String → Bool) (c : Config) : List (Place × Problem) :=
  (places c).flatMap fun place => (problemsAt fileExists c place).map (place, ·)

theorem map_entries : (entries fileExists c).map Prod.snd = problems fileExists c := by
  rw [problems_eq, entries, List.map_flatMap]
  simp [Function.comp_def]

theorem nodup_places (c : Config) : (places c).Nodup := by
  have hhosts : ((List.range c.hosts.length).map Place.host).Nodup :=
    List.nodup_range.map fun p q h => Place.host.inj h
  simp [places, List.nodup_append, hhosts]

/-- Nothing is wrong outside the places. -/
theorem mem_places_of_wrong {place : Place} {problem : Problem}
    (h : Wrong fileExists c place problem) : place ∈ places c := by
  have hhost {p : Nat} {raw : String} (hraw : c.hosts[p]? = some raw) :
      Place.host p ∈ places c := by
    simp [places, (List.getElem?_eq_some_iff.mp hraw).1]
  cases h with
  | hostUrl hraw => exact hhost hraw
  | repeatedHost hraw => exact hhost hraw
  | _ => simp [places]

theorem mem_entries_iff {place : Place} {problem : Problem} :
    (place, problem) ∈ entries fileExists c ↔ Wrong fileExists c place problem := by
  simp only [entries, List.mem_flatMap, List.mem_map, Prod.mk.injEq, mem_problemsAt_iff]
  constructor
  · rintro ⟨_, _, _, hwrong, rfl, rfl⟩
    exact hwrong
  · exact fun h => ⟨place, mem_places_of_wrong h, problem, h, rfl, rfl⟩

/-- No place has two entries, and the entries are in the order of the places. -/
theorem places_of_entries : ((entries fileExists c).map Prod.fst).Sublist (places c) := by
  unfold entries
  induction places c with
  | nil => exact .slnil
  | cons place rest ih =>
    have hone := @length_problemsAt_le fileExists c place
    rw [List.flatMap_cons, List.map_append]
    rcases hfound : problemsAt fileExists c place with _ | ⟨problem, _ | ⟨more, others⟩⟩
    · exact ih.cons place
    · exact ih.cons_cons place
    · rw [hfound] at hone
      simp at hone

/-! ## Parts on their own -/

variable {c' : Config}

theorem problemsAt_congr {place : Place} (h : place.part.Agree c c') :
    problemsAt fileExists c place = problemsAt fileExists c' place := by
  cases place <;> simp only [Place.part, Part.Agree] at h <;> simp only [problemsAt, h]

theorem filter_places_congr {part : Part} (h : part.Agree c c') :
    (places c).filter (·.part = part) = (places c').filter (·.part = part) := by
  cases part with
  | hosts =>
    rw [places, places, show c.hosts = c'.hosts from h]
  | _ => simp [places, List.filter_map, Function.comp_def, Place.part]

theorem filter_entries (part : Part) :
    (entries fileExists c).filter (·.1.part = part) =
      ((places c).filter (·.part = part)).flatMap fun place =>
        (problemsAt fileExists c place).map (place, ·) := by
  unfold entries
  induction places c with
  | nil => rfl
  | cons place rest ih =>
    rw [List.flatMap_cons, List.filter_append, ih, List.filter_cons]
    by_cases hpart : place.part = part
    · simp [List.filter_map, Function.comp_def, hpart]
    · simp [List.filter_map, Function.comp_def, hpart]

/-- What is reported of a part depends on that part alone. -/
theorem filter_entries_congr {part : Part} (h : part.Agree c c') :
    (entries fileExists c).filter (·.1.part = part) =
      (entries fileExists c').filter (·.1.part = part) := by
  rw [filter_entries, filter_entries, filter_places_congr h]
  refine List.flatMap_congr fun place hplace => ?_
  have hpart : place.part = part := by simpa using (List.mem_filter.mp hplace).2
  rw [problemsAt_congr (hpart ▸ h)]

/-! ## The report -/

/-- The lines of a report, numbered from one. -/
def reportLines (found : List (Place × Problem)) : List String :=
  found.mapIdx fun i entry => "  " ++ toString (i + 1) ++ ". " ++ entry.2.message ++ "\n"

theorem report_of_entries {found : List (Place × Problem)} (h : 1 < found.length) :
    report (found.map Prod.snd) =
      "Found " ++ toString found.length ++ " validation errors:\n" ++
        String.join (reportLines found) := by
  obtain ⟨first, second, rest, rfl⟩ : ∃ first second rest, found = first :: second :: rest := by
    match found, h with
    | first :: second :: rest, _ => exact ⟨first, second, rest, rfl⟩
  have hlines (found : List (Place × Problem)) : reportLines found =
      (found.map Prod.snd).zipIdx.map fun p =>
        "  " ++ toString (p.2 + 1) ++ ". " ++ p.1.message ++ "\n" := by
    rw [reportLines, List.mapIdx_eq_zipIdx_map, List.zipIdx_map, List.map_map]
    rfl
  rw [hlines, ← List.length_map Prod.snd]
  rfl

theorem validate_eq_ok_iff : validate fileExists c = .ok () ↔ problems fileExists c = [] := by
  unfold validate
  split
  · rename_i hnone
    exact iff_of_true rfl hnone
  · rename_i hsome
    exact iff_of_false (fun h => by cases h) hsome

theorem validate_of_problems (h : entries fileExists c ≠ []) : validate fileExists c =
    .error ("Validation failed: " ++ report ((entries fileExists c).map Prod.snd)) := by
  rw [map_entries, validate]
  split
  · rename_i hnone
    rw [← map_entries, List.map_eq_nil_iff] at hnone
    exact absurd hnone h
  · rfl

/-- **A report is complete, and each part is reported on its own.**  What is wrong with a
configuration are its entries, in the order of the places and no place twice; it is valid if there
are none, and otherwise the report is the only entry or all of them, numbered.  A host is a
duplicate exactly if it is valid and a valid one before it is the same but for slashes at the end.
Where two configurations agree in a part, they have the same entries for it. -/
theorem report_complete (fileExists : String → Bool) (c : Config) :
    (∀ place problem, (place, problem) ∈ entries fileExists c ↔ Wrong fileExists c place problem) ∧
    ((entries fileExists c).map Prod.fst).Sublist (places c) ∧ (places c).Nodup ∧
    (validate fileExists c = .ok () ↔ ∀ place problem, ¬Wrong fileExists c place problem) ∧
    (∀ place problem, entries fileExists c = [(place, problem)] →
      validate fileExists c = .error ("Validation failed: " ++ problem.message)) ∧
    (1 < (entries fileExists c).length → validate fileExists c =
      .error ("Validation failed: Found " ++ toString (entries fileExists c).length ++
        " validation errors:\n" ++ String.join (reportLines (entries fileExists c)))) ∧
    (∀ p, (∃ url, (.host p, .duplicateHost url p) ∈ entries fileExists c) ↔
      ∃ raw, c.hosts[p]? = some raw ∧ IsHostUrl raw ∧ ∃ q < p, ∃ earlier,
        c.hosts[q]? = some earlier ∧ IsHostUrl earlier ∧ SameButSlashes earlier raw) ∧
    ∀ (c' : Config) (part : Part), part.Agree c c' →
      (entries fileExists c).filter (·.1.part = part) =
        (entries fileExists c').filter (·.1.part = part) := by
  refine ⟨fun place problem => mem_entries_iff, places_of_entries, nodup_places c, ?_,
    fun place problem hone => ?_, fun hmany => ?_, fun p => ?_,
    fun c' part hagree => filter_entries_congr hagree⟩
  · rw [validate_eq_ok_iff, ← map_entries, List.map_eq_nil_iff, List.eq_nil_iff_forall_not_mem,
      Prod.forall]
    simp only [mem_entries_iff]
  · rw [validate_of_problems (by simp [hone]), hone]
    rfl
  · rw [validate_of_problems (by rintro hnil; simp [hnil] at hmany), report_of_entries hmany]
    simp only [← String.append_assoc]
    rfl
  · simp only [mem_entries_iff]
    constructor
    · rintro ⟨url, hwrong⟩
      cases hwrong with
      | repeatedHost hraw hvalid hq hearlier hvalid' hsame =>
        exact ⟨_, hraw, hvalid, _, hq, _, hearlier, hvalid', hsame⟩
    · rintro ⟨raw, hraw, hvalid, q, hq, earlier, hearlier, hvalid', hsame⟩
      exact ⟨raw, .repeatedHost hraw hvalid hq hearlier hvalid' hsame⟩

/-- A configuration with an unreadable address, a host of another scheme between two that differ in
a slash, and no room for bodies. -/
def wrongThroughout : Config :=
  { listenAddr := "bad", hosts := ["http://a/", "ftp://b", "http://a"], unit := .compute,
    maxBodyBytes := 0 }

/-- The host of another scheme does not keep the last from being a duplicate of the first, and other
hosts make no difference to what is reported of the body limit.  One problem is reported alone. -/
theorem four_problems_numbered :
    (let found := entries (fun _ => false) wrongThroughout
    found.map Prod.fst = [.listenAddress, .host 1, .host 2, .bodyLimit] ∧
      Wrong (fun _ => false) wrongThroughout (.host 2) (.duplicateHost "http://a" 2) ∧
      validate (fun _ => false) wrongThroughout =
        .error ("Validation failed: Found 4 validation errors:\n" ++ String.join
          ["  1. Invalid listen address 'bad': Must be in format 'IP:PORT' " ++
            "(e.g., '127.0.0.1:3000' or '0.0.0.0:8080')\n",
          "  2. Invalid field 'hosts[1]': URL scheme must be 'http' or 'https', got 'ftp'\n",
          "  3. Duplicate host 'http://a' at position 2\n",
          "  4. Invalid field 'max_body_bytes': Must be greater than zero\n"]) ∧
      found.filter (·.1.part = .bodyLimit) =
        (entries (fun _ => false) { wrongThroughout with hosts := ["http://c"] }).filter
          (·.1.part = .bodyLimit)) ∧
    validate (fun _ => false) { hosts := [], unit := .compute } =
      .error "Validation failed: Missing required field: hosts" := by
  have hfound : (entries (fun _ => false) wrongThroughout).map Prod.fst =
      [.listenAddress, .host 1, .host 2, .bodyLimit] := by decide +kernel
  have hduplicate : (.host 2, .duplicateHost "http://a" 2) ∈
      entries (fun _ => false) wrongThroughout := by decide +kernel
  have hlines : reportLines (entries (fun _ => false) wrongThroughout) =
      ["  1. Invalid listen address 'bad': Must be in format 'IP:PORT' " ++
        "(e.g., '127.0.0.1:3000' or '0.0.0.0:8080')\n",
      "  2. Invalid field 'hosts[1]': URL scheme must be 'http' or 'https', got 'ftp'\n",
      "  3. Duplicate host 'http://a' at position 2\n",
      "  4. Invalid field 'max_body_bytes': Must be greater than zero\n"] := by decide +kernel
  have hlength : (entries (fun _ => false) wrongThroughout).length = 4 := by
    rw [← List.length_map Prod.fst, hfound]
    rfl
  obtain ⟨hwrong, -, -, -, -, hmany, -, hparts⟩ := report_complete (fun _ => false) wrongThroughout
  obtain ⟨-, -, -, -, hone, -⟩ :=
    report_complete (fun _ => false) { hosts := [], unit := .compute }
  refine ⟨⟨hfound, (hwrong _ _).mp hduplicate, ?_, hparts _ _ rfl⟩, ?_⟩
  · rw [hmany (by rw [hlength]; decide), hlength, hlines]
    rfl
  · exact hone .hostList (.missing "hosts") (by decide +kernel)

end AffinityGate.Config
