import AffinityGate.Proofs.Effects
import AffinityGate.Proofs.Failover.Trial
import AffinityGate.Time.Reading

/-!
# One pass: the first answer, or the last failure

A pass over the candidates ends at the first host that answers, and only if every host fails does
it report a failure, that of the last one.  `proxy_first_answer_or_last_failure` says this for any
candidates and any behaviour of the outside, together with what is handed to the client port.  A
host has until the timer of its attempt goes off, which can be a fraction of a millisecond after
the limit is over (`late_answer_served`).
-/

namespace AffinityGate

namespace Failover

variable {σ : Type} {out : Outside σ} {limit : Duration} {request : Buffered}

/-! ## One candidate of a pass -/

/-- The effects of a candidate's turn, up to what its result adds. -/
def turn (out : Outside σ) (limit : Duration) (request : Buffered) (position : Nat) (host : Host)
    (w : σ) : List Effect :=
  attemptSpan request host position :: (attempt out limit request host w).effects

theorem requests_turn (position : Nat) (host : Host) (w : σ) :
    Effect.requests (turn out limit request position host w) =
      (request.outgoing? host).toList := by
  unfold turn
  rw [attempt_effects]
  exact Effect.requests_map_sent _

theorem tried_turn (position : Nat) (host : Host) (w : σ) :
    Effect.tried (turn out limit request position host w) = [host.url.text] := by
  unfold turn
  rw [attempt_effects, ← List.singleton_append, Effect.tried_append, Effect.tried_map_sent]
  rfl

/-- A candidate that answers ends the pass. -/
theorem pass_of_answers {host : Host} {response : Http.Response} {w w₁ : σ} (position : Nat)
    (rest : List Host) (h : Answers out limit.roundedUp request host w response w₁) :
    pass out limit request position (host :: rest) w =
      ⟨.ok ⟨response, host, position + 1⟩,
        turn out limit request position host w ++ reached host position response.status,
        (attempt out limit request host w).elapsed, w₁⟩ := by
  obtain ⟨hr, rfl⟩ := h.attempt
  rw [pass]
  simp only [hr]
  rfl

/-- The last candidate, if it fails, is the one that is reported. -/
theorem pass_of_last_fails {host : Host} {cause : ClientError} {w w₁ : σ} (position : Nat)
    (h : Fails out limit limit.roundedUp request host w cause w₁) :
    pass out limit request position [host] w =
      ⟨.error (.exhausted host (position + 1) cause),
        turn out limit request position host w ++ unreachable host position 0 cause,
        (attempt out limit request host w).elapsed, w₁⟩ := by
  obtain ⟨hr, rfl⟩ := h.attempt
  rw [pass]
  simp only [hr]
  rfl

/-- A candidate that fails hands over to the next one. -/
theorem pass_of_fails {host next : Host} {cause : ClientError} {w w₁ : σ} (position : Nat)
    (rest : List Host) (h : Fails out limit limit.roundedUp request host w cause w₁) :
    pass out limit request position (host :: next :: rest) w =
      let r := pass out limit request (position + 1) (next :: rest) w₁
      ⟨r.result,
        turn out limit request position host w
          ++ unreachable host position (next :: rest).length cause ++ r.effects,
        (attempt out limit request host w).elapsed + r.elapsed, r.world⟩ := by
  obtain ⟨hr, rfl⟩ := h.attempt
  rw [pass]
  simp only [hr]
  rfl

/-! ## A whole pass -/

@[simp] theorem requests_reached (host : Host) (position status : Nat) :
    Effect.requests (reached host position status) = [] := rfl

@[simp] theorem tried_reached (host : Host) (position status : Nat) :
    Effect.tried (reached host position status) = [] := rfl

@[simp] theorem tried_unreachable (host : Host) (position remaining : Nat) (e : ClientError) :
    Effect.tried (unreachable host position remaining e) = [] := rfl

/-- What a pass did up to the end of some candidates: it tried them, in order, and handed their
requests to the client port, each where it could be addressed. -/
def Tried (request : Buffered) (hosts : List Host) (es : List Effect) : Prop :=
  Effect.requests es = hosts.filterMap request.outgoing? ∧
    Effect.tried es = hosts.map (·.url.text)

theorem Tried.turn {position : Nat} {host : Host} {w : σ} {rest : List Effect}
    (hr : Effect.requests rest = []) (ht : Effect.tried rest = []) :
    Tried request [host] (turn out limit request position host w ++ rest) := by
  constructor
  · rw [Effect.requests_append, requests_turn, hr]
    cases h : request.outgoing? host <;> simp [h]
  · rw [Effect.tried_append, tried_turn, ht]
    rfl

theorem Tried.append {hosts more : List Host} {es fs : List Effect} (he : Tried request hosts es)
    (hf : Tried request more fs) : Tried request (hosts ++ more) (es ++ fs) := by
  constructor
  · rw [Effect.requests_append, he.1, hf.1, List.filterMap_append]
  · rw [Effect.tried_append, he.2, hf.2, List.map_append]

/-- Hosts that fail hand over to the ones after them: what comes of a pass is what comes of those,
and the hosts that failed have been tried. -/
theorem pass_of_allFail {before : List Host} {w w₁ : σ}
    (hb : AllFail out limit limit.roundedUp request before w w₁) {rest : List Host}
    (hne : rest ≠ []) (position : Nat) :
    let f := pass out limit request position (before ++ rest) w
    let g := pass out limit request (position + before.length) rest w₁
    f.result = g.result ∧ f.world = g.world ∧
      ∃ es, Tried request before es ∧ f.effects = es ++ g.effects := by
  induction hb generalizing position with
  | nil w => exact ⟨rfl, rfl, [], ⟨rfl, rfl⟩, rfl⟩
  | @cons host before cause w w₁ w₂ hf hb ih =>
    have hmore : before ++ rest ≠ [] := by simp [hne]
    obtain ⟨next, more, hnext⟩ := List.exists_cons_of_ne_nil hmore
    have hposition : position + 1 + before.length = position + (before.length + 1) := by omega
    obtain ⟨hresult, hworld, es, htried, heffects⟩ := ih (position + 1)
    rw [hnext, hposition] at hresult hworld heffects
    rw [List.cons_append, hnext, pass_of_fails position more hf, List.length_cons]
    refine ⟨hresult, hworld, turn out limit request position host w
      ++ unreachable host position (next :: more).length cause ++ es, ?_, ?_⟩
    · exact (Tried.turn rfl rfl).append htried
    · exact (congrArg (_ ++ ·) heffects).trans (List.append_assoc _ es _).symm

/-- A pass that tries the hosts in `before` in vain and is answered by the one after them. -/
theorem pass_answered {before : List Host} {w w₁ : σ}
    (hb : AllFail out limit limit.roundedUp request before w w₁) {host : Host}
    {response : Http.Response} {w₂ : σ}
    (ha : Answers out limit.roundedUp request host w₁ response w₂) (after : List Host)
    (position : Nat) :
    let f := pass out limit request position (before ++ host :: after) w
    f.result = .ok ⟨response, host, position + before.length + 1⟩ ∧
      Tried request (before ++ [host]) f.effects ∧ f.world = w₂ := by
  obtain ⟨hresult, hworld, es, htried, heffects⟩ :=
    pass_of_allFail hb (List.cons_ne_nil host after) position
  rw [pass_of_answers _ after ha] at hresult hworld heffects
  refine ⟨hresult, ?_, hworld⟩
  rw [heffects]
  exact htried.append (.turn rfl rfl)

/-- A pass in which every host fails. -/
theorem pass_exhausted {before : List Host} {w w₁ : σ}
    (hb : AllFail out limit limit.roundedUp request before w w₁) {last : Host}
    {cause : ClientError} {w₂ : σ} (hl : Fails out limit limit.roundedUp request last w₁ cause w₂)
    (position : Nat) :
    let f := pass out limit request position (before ++ [last]) w
    f.result = .error (.exhausted last (position + before.length + 1) cause) ∧
      Tried request (before ++ [last]) f.effects ∧ f.world = w₂ := by
  obtain ⟨hresult, hworld, es, htried, heffects⟩ :=
    pass_of_allFail hb (List.cons_ne_nil last []) position
  rw [pass_of_last_fails _ hl] at hresult hworld heffects
  refine ⟨hresult, ?_, hworld⟩
  rw [heffects]
  exact htried.append (.turn rfl rfl)

/-- Some host is the first to answer, or every host fails. -/
theorem first_answer_or_all_fail (out : Outside σ) (limit : Duration) (request : Buffered) :
    ∀ (hosts : List Host) (w : σ),
      (∃ before host after w₁ response w₂, hosts = before ++ host :: after ∧
        AllFail out limit limit.roundedUp request before w w₁ ∧
        Answers out limit.roundedUp request host w₁ response w₂) ∨
      ∃ w₁, AllFail out limit limit.roundedUp request hosts w w₁
  | [], w => Or.inr ⟨w, .nil w⟩
  | host :: hosts, w => by
    rcases attempt_cases out limit request host w with ⟨response, -, ha⟩ | ⟨cause, -, hf⟩
    · exact Or.inl ⟨[], host, hosts, w, response, _, rfl, .nil w, ha⟩
    · rcases first_answer_or_all_fail out limit request hosts _ with
        ⟨before, h, after, w₁, response, w₂, rfl, hb, ha⟩ | ⟨w₁, hall⟩
      · exact Or.inl ⟨host :: before, h, after, w₁, response, w₂, rfl, .cons hf hb, ha⟩
      · exact Or.inr ⟨w₁, .cons hf hall⟩

/-- If hosts all fail, the last of them is met by the outside as the ones before it left it. -/
theorem AllFail.last {deadline : Duration} {hosts : List Host} (hne : hosts ≠ []) {w w₂ : σ}
    (h : AllFail out limit deadline request hosts w w₂) :
    ∃ before last w₁ cause, hosts = before ++ [last] ∧
      AllFail out limit deadline request before w w₁ ∧
      Fails out limit deadline request last w₁ cause w₂ := by
  induction h with
  | nil w => exact absurd rfl hne
  | @cons host hosts cause w w₁ w₂ hf hall ih =>
    cases hosts with
    | nil =>
      cases hall
      exact ⟨[], host, w, cause, rfl, .nil w, hf⟩
    | cons next rest =>
      obtain ⟨before, last, w', cause', heq, hb, hl⟩ := ih (by simp)
      exact ⟨host :: before, last, w', cause', by rw [heq, List.cons_append], .cons hf hb, hl⟩

/-- Proxy mode when a host answers after others have failed. -/
theorem proxy_of_answer {candidates before after : List Host} {s : Dispatched} {w w₁ w₂ : σ}
    (hc : candidates = before ++ s.host :: after)
    (hb : AllFail out limit limit.roundedUp request before w w₁)
    (ha : Answers out limit.roundedUp request s.host w₁ s.response w₂)
    (hn : s.attempts = before.length + 1) :
    (proxy out limit request candidates w).result = .ok s ∧
      Effect.requests (proxy out limit request candidates w).effects =
        (candidates.take s.attempts).filterMap request.outgoing? := by
  obtain ⟨hresult, htried, -⟩ := pass_answered hb ha after 0
  rw [hc, proxy]
  constructor
  · rw [hresult, Nat.zero_add, ← hn]
  · have htake : (before ++ s.host :: after).take (before.length + 1) = before ++ [s.host] := by
      rw [List.take_length_add_append]
      rfl
    rw [hn, htake]
    exact htried.1

/-- Proxy mode when every host fails. -/
theorem proxy_of_exhaustion {candidates before : List Host} {last : Host} {cause : ClientError}
    {w w₁ w₂ : σ} (hc : candidates = before ++ [last])
    (hb : AllFail out limit limit.roundedUp request before w w₁)
    (hl : Fails out limit limit.roundedUp request last w₁ cause w₂) :
    (proxy out limit request candidates w).result =
        .error (.exhausted last candidates.length cause) ∧
      Effect.requests (proxy out limit request candidates w).effects =
        candidates.filterMap request.outgoing? := by
  obtain ⟨hresult, htried, -⟩ := pass_exhausted hb hl 0
  rw [hc, proxy]
  constructor
  · rw [hresult, Nat.zero_add, List.length_append]
    rfl
  · exact htried.1

/-- **The first answer, or the last failure, in exactly one pass.**  The result of proxy mode is
the answer of the first host that answers, with that host and the number of hosts tried; only if
all fail is it an error, which names the last host and its failure alone.  A host has answered if it
did so by the time the limit, rounded up to whole milliseconds, was over.  In both cases the client
port has seen, in order and once each, the requests of the hosts tried so far as they could be
addressed.  The status of an answer has no part in this: `Answers` holds for any. -/
theorem proxy_first_answer_or_last_failure (out : Outside σ) (limit : Duration)
    (request : Buffered) {candidates : List Host} (hne : candidates ≠ []) (w : σ) :
    let f := proxy out limit request candidates w
    let deadline := limit.roundedUp
    (∀ s, f.result = .ok s ↔ ∃ before after w₁ w₂, candidates = before ++ s.host :: after ∧
      AllFail out limit deadline request before w w₁ ∧
      Answers out deadline request s.host w₁ s.response w₂ ∧ s.attempts = before.length + 1) ∧
    (∀ e, f.result = .error e ↔ ∃ before last w₁ cause w₂, candidates = before ++ [last] ∧
      AllFail out limit deadline request before w w₁ ∧
      Fails out limit deadline request last w₁ cause w₂ ∧
      e = .exhausted last candidates.length cause) ∧
    (∀ s, f.result = .ok s →
      Effect.requests f.effects = (candidates.take s.attempts).filterMap request.outgoing?) ∧
    (∀ e, f.result = .error e →
      Effect.requests f.effects = candidates.filterMap request.outgoing?) := by
  intro f deadline
  -- One of the two things happens, and each of them fixes the result.
  have hok : ∀ s, (∃ before after w₁ w₂, candidates = before ++ s.host :: after ∧
      AllFail out limit deadline request before w w₁ ∧
      Answers out deadline request s.host w₁ s.response w₂ ∧ s.attempts = before.length + 1) →
      f.result = .ok s := fun s ⟨_, _, _, _, hc, hb, ha, hn⟩ => (proxy_of_answer hc hb ha hn).1
  have herror : ∀ e, (∃ before last w₁ cause w₂, candidates = before ++ [last] ∧
      AllFail out limit deadline request before w w₁ ∧
      Fails out limit deadline request last w₁ cause w₂ ∧
      e = .exhausted last candidates.length cause) → f.result = .error e :=
    fun e ⟨_, _, _, _, _, hc, hb, hl, he⟩ => he ▸ (proxy_of_exhaustion hc hb hl).1
  rcases first_answer_or_all_fail out limit request candidates w with
    ⟨before, host, after, w₁, response, w₂, hc, hb, ha⟩ | ⟨w₂, hall⟩
  · let s₀ : Dispatched := ⟨response, host, before.length + 1⟩
    obtain ⟨hresult, hrequests⟩ := proxy_of_answer (s := s₀) hc hb ha rfl
    have hs : ∀ s, f.result = .ok s → s = s₀ := fun s h => Except.ok.inj (h.symm.trans hresult)
    have he : ∀ e, f.result ≠ .error e := fun e h => by
      rw [show f.result = .ok s₀ from hresult] at h
      cases h
    refine ⟨fun s => ⟨fun h => ?_, hok s⟩, fun e => ⟨fun h => absurd h (he e), herror e⟩,
      fun s h => ?_, fun e h => absurd h (he e)⟩
    · rw [hs s h]
      exact ⟨before, after, w₁, w₂, hc, hb, ha, rfl⟩
    · rw [hs s h]
      exact hrequests
  · obtain ⟨before, last, w₁, cause, hc, hb, hl⟩ := hall.last hne
    obtain ⟨hresult, hrequests⟩ := proxy_of_exhaustion hc hb hl
    have hs : ∀ s, f.result ≠ .ok s := fun s h => by
      rw [show f.result = .error _ from hresult] at h
      cases h
    refine ⟨fun s => ⟨fun h => absurd h (hs s), hok s⟩, fun e => ⟨fun h => ?_, herror e⟩,
      fun s h => absurd h (hs s), fun e h => hrequests⟩
    rw [show f.result = .error _ from hresult] at h
    cases h
    exact ⟨before, last, w₁, cause, w₂, hc, hb, hl, rfl⟩

/-- An outside in which the host `b` refuses connections and every other host answers 503. -/
def oneDown : Outside Unit where
  serve r _ :=
    if r.uri.authority = Utf8.ofText "b" then (.after 5 (.error (.connection "refused")), ())
    else (.after 7 (.ok ⟨503, [], []⟩), ())
  owner _ _ := (.never, ())
  accepts _ := true

/-- An outside in which no one ever answers. -/
def silent : Outside Unit where
  serve _ _ := (.never, ())
  owner _ _ := (.never, ())
  accepts _ := true

/-- A host that is given by its base URL alone. -/
def hostAt (text : String) : Host := ⟨none, ⟨text, false⟩⟩

/-- The first host's URL is no target, the second refuses, the third answers with an error status,
and the fourth is not asked. -/
theorem proxy_third_host_answers :
    let request : Buffered := ⟨.get, Utf8.ofText "/p", [], []⟩
    let hosts := [hostAt "http://a b", hostAt "http://b", hostAt "http://c", hostAt "http://d"]
    hosts ≠ [] ∧ (proxy oneDown (.ofMillis 10) request hosts ()).result =
      .ok ⟨⟨503, [], []⟩, hostAt "http://c", 3⟩ := by
  intro request hosts
  refine ⟨by simp [hosts], ?_⟩
  have hb : request.addressed (hostAt "http://b") =
      .ok ⟨.get, ⟨some (Utf8.ofText "http"), Utf8.ofText "b", Utf8.ofText "/p"⟩, [], []⟩ :=
    Buffered.outgoing?_eq_some_iff.mp (by decide +kernel)
  have hc : request.addressed (hostAt "http://c") =
      .ok ⟨.get, ⟨some (Utf8.ofText "http"), Utf8.ofText "c", Utf8.ofText "/p"⟩, [], []⟩ :=
    Buffered.outgoing?_eq_some_iff.mp (by decide +kernel)
  refine ((proxy_first_answer_or_last_failure oneDown (.ofMillis 10) request
    (by simp [hosts]) ()).1 ⟨⟨503, [], []⟩, hostAt "http://c", 3⟩).mpr
    ⟨[hostAt "http://a b", hostAt "http://b"], [hostAt "http://d"], (), (), rfl, ?_, ?_, rfl⟩
  · rw [Duration.roundedUp_ofMillis]
    have hinvalid : Fails oneDown (.ofMillis 10) (.ofMillis 10) request (hostAt "http://a b") ()
        (.invalidRequest "invalid uri character") () := .unaddressed rfl
    have hrefused : Fails oneDown (.ofMillis 10) (.ofMillis 10) request (hostAt "http://b") ()
        (.connection "refused") () := .refused hb rfl (by decide)
    exact .cons hinvalid (.cons hrefused (.nil ()))
  · exact .inTime hc rfl (by decide)

/-- An outside in which every host answers after two milliseconds. -/
def slow : Outside Unit where
  serve _ _ := (.after 2 (.ok ⟨200, [], []⟩), ())
  owner _ _ := (.never, ())
  accepts _ := true

/-- With a limit of a millisecond and a half the timer goes off after two.  The host answers when
the limit is over, so that by the limit alone every candidate fails; its answer is served all the
same. -/
theorem late_answer_served :
    let limit : Duration := ⟨1500000⟩
    let request : Buffered := ⟨.get, Utf8.ofText "/p", [], []⟩
    let hosts := [hostAt "http://a"]
    (Duration.parse "1500us").toOption = some limit ∧
      AllFail slow limit limit request hosts () () ∧
      (proxy slow limit request hosts ()).result =
        .ok ⟨⟨200, [], []⟩, hostAt "http://a", 1⟩ := by
  intro limit request hosts
  have ha : request.addressed (hostAt "http://a") =
      .ok ⟨.get, ⟨some (Utf8.ofText "http"), Utf8.ofText "a", Utf8.ofText "/p"⟩, [], []⟩ :=
    Buffered.outgoing?_eq_some_iff.mp (by decide +kernel)
  have hlate : Fails slow limit limit request (hostAt "http://a") () (.timeout limit) () :=
    .late ha rfl (by decide)
  have hanswers : Answers slow limit.roundedUp request (hostAt "http://a") () ⟨200, [], []⟩ () :=
    .inTime ha rfl (by decide)
  refine ⟨by decide +kernel, .cons hlate (.nil ()), ?_⟩
  exact congrArg Finished.result (pass_of_answers 0 [] hanswers)

end Failover
end AffinityGate
