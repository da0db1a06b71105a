import AffinityGate.Routing.Failover

/-!
# What trying a host comes to

`Answers` and `Fails` describe, from the side of the outside alone, what one host does with a
request by a deadline, which is meant to the nanosecond; `AllFail` describes hosts that fail one
after the other, each leaving the outside as the next one meets it.  `answers_iff` and `fails_iff`
say that an attempt reports exactly this for the deadline at which the timer of its limit goes off:
the limit rounded up to whole milliseconds.
-/

namespace AffinityGate

/-- The request that is sent to a host, if it can be addressed at it. -/
def Buffered.outgoing? (r : Buffered) (host : Host) : Option Http.Request :=
  (r.addressed host).toOption

theorem Buffered.addressed_eq_ok_iff {r : Buffered} {host : Host} {outgoing : Http.Request} :
    r.addressed host = .ok outgoing ↔
      ∃ uri, Http.Uri.parse (host.url.join r.pathAndQuery) = .ok uri ∧
        outgoing = ⟨r.method, uri, r.headers, r.body⟩ := by
  unfold addressed
  cases Http.Uri.parse (host.url.join r.pathAndQuery) with
  | error e => simp
  | ok uri => simp [eq_comm]

theorem Buffered.outgoing?_eq_some_iff {r : Buffered} {host : Host} {outgoing : Http.Request} :
    r.outgoing? host = some outgoing ↔ r.addressed host = .ok outgoing := by
  unfold outgoing?
  cases r.addressed host with
  | error e => simp [Except.toOption]
  | ok outgoing => simp [Except.toOption]

namespace Failover

variable {σ : Type}

/-- A host answers by the deadline.  Nothing is asked of the answer, least of all its status. -/
inductive Answers (out : Outside σ) (deadline : Duration) (request : Buffered) (host : Host)
    (w : σ) : Http.Response → σ → Prop
  | inTime {outgoing : Http.Request} {response : Http.Response} {millis : Nat} {w' : σ} :
    request.addressed host = .ok outgoing →
    out.serve outgoing w = (.after millis (.ok response), w') →
    (Duration.ofMillis millis).nanos ≤ deadline.nanos →
    Answers out deadline request host w response w'

/-- A host fails: the request cannot be addressed at it, the client port reports an error by the
deadline, or nothing comes by then, which is a timeout after `limit`. -/
inductive Fails (out : Outside σ) (limit deadline : Duration) (request : Buffered) (host : Host)
    (w : σ) : ClientError → σ → Prop
  | unaddressed {cause : ClientError} :
    request.addressed host = .error cause → Fails out limit deadline request host w cause w
  | refused {outgoing : Http.Request} {cause : ClientError} {millis : Nat} {w' : σ} :
    request.addressed host = .ok outgoing →
    out.serve outgoing w = (.after millis (.error cause), w') →
    (Duration.ofMillis millis).nanos ≤ deadline.nanos →
    Fails out limit deadline request host w cause w'
  | late {outgoing : Http.Request} {answer : Except ClientError Http.Response} {millis : Nat}
    {w' : σ} :
    request.addressed host = .ok outgoing →
    out.serve outgoing w = (.after millis answer, w') →
    deadline.nanos < (Duration.ofMillis millis).nanos →
    Fails out limit deadline request host w (.timeout limit) w'
  | silent {outgoing : Http.Request} {w' : σ} :
    request.addressed host = .ok outgoing → out.serve outgoing w = (.never, w') →
    Fails out limit deadline request host w (.timeout limit) w'

/-- Hosts fail one after the other. -/
inductive AllFail (out : Outside σ) (limit deadline : Duration) (request : Buffered) :
    List Host → σ → σ → Prop
  | nil (w : σ) : AllFail out limit deadline request [] w w
  | cons {host : Host} {hosts : List Host} {cause : ClientError} {w w₁ w₂ : σ} :
    Fails out limit deadline request host w cause w₁ →
    AllFail out limit deadline request hosts w₁ w₂ →
    AllFail out limit deadline request (host :: hosts) w w₂

variable {out : Outside σ} {limit : Duration} {request : Buffered} {host : Host} {w w' : σ}

/-! ## Attempts -/

/-- An attempt hands the host its request, if there is one, and nothing else. -/
theorem attempt_effects : (attempt out limit request host w).effects =
    (request.outgoing? host).toList.map .sent := by
  unfold attempt Buffered.outgoing?
  split
  · rename_i e h
    simp [h, Except.toOption]
  · rename_i outgoing h
    simp only [h, Except.toOption, Option.toList_some, List.map_cons, List.map_nil]
    split <;> rfl

/-- Whatever the outside does, an attempt ends in an answer or in a failure.  The host has until the
timer goes off, which is when the limit, rounded up to whole milliseconds, is over. -/
theorem attempt_cases (out : Outside σ) (limit : Duration) (request : Buffered) (host : Host)
    (w : σ) :
    (∃ response, (attempt out limit request host w).result = .ok response ∧
      Answers out limit.roundedUp request host w response
        (attempt out limit request host w).world) ∨
    ∃ cause, (attempt out limit request host w).result = .error cause ∧
      Fails out limit limit.roundedUp request host w cause
        (attempt out limit request host w).world := by
  unfold attempt
  split
  · rename_i cause h
    exact Or.inr ⟨cause, rfl, .unaddressed h⟩
  · rename_i outgoing h
    cases hs : out.serve outgoing w with
    | mk reaction w₁ =>
      cases reaction with
      | never => exact Or.inr ⟨_, rfl, .silent h hs⟩
      | after millis answer =>
        by_cases hle : millis ≤ limit.timerMillis
        · have htime := Duration.ofMillis_le_roundedUp_iff.mpr hle
          simp only [Reaction.within, hle, if_true]
          cases answer with
          | ok response => exact Or.inl ⟨response, rfl, .inTime h hs htime⟩
          | error cause => exact Or.inr ⟨cause, rfl, .refused h hs htime⟩
        · have htime := Nat.not_le.mp (mt Duration.ofMillis_le_roundedUp_iff.mp hle)
          simp only [Reaction.within, hle, if_false]
          exact Or.inr ⟨_, rfl, .late h hs htime⟩

theorem Answers.attempt {response : Http.Response}
    (h : Answers out limit.roundedUp request host w response w') :
    (attempt out limit request host w).result = .ok response ∧
      (attempt out limit request host w).world = w' := by
  obtain ⟨ha, hs, htime⟩ := h
  have hle := Duration.ofMillis_le_roundedUp_iff.mp htime
  simp [Failover.attempt, ha, hs, Reaction.within, hle]

theorem Fails.attempt {cause : ClientError}
    (h : Fails out limit limit.roundedUp request host w cause w') :
    (attempt out limit request host w).result = .error cause ∧
      (attempt out limit request host w).world = w' := by
  cases h with
  | unaddressed ha => simp [Failover.attempt, ha]
  | refused ha hs htime =>
    have hle := Duration.ofMillis_le_roundedUp_iff.mp htime
    simp [Failover.attempt, ha, hs, Reaction.within, hle]
  | late ha hs htime =>
    have hlt := mt Duration.ofMillis_le_roundedUp_iff.mpr (Nat.not_le.mpr htime)
    simp [Failover.attempt, ha, hs, Reaction.within, hlt]
  | silent ha hs => simp [Failover.attempt, ha, hs, Reaction.within]

/-- An attempt succeeds exactly when its host answers. -/
theorem answers_iff {response : Http.Response} :
    Answers out limit.roundedUp request host w response w' ↔
      (attempt out limit request host w).result = .ok response ∧
        (attempt out limit request host w).world = w' := by
  refine ⟨Answers.attempt, fun ⟨hr, hw⟩ => ?_⟩
  rcases attempt_cases out limit request host w with ⟨_, hr', ha⟩ | ⟨_, hr', _⟩
  · rw [hr] at hr'
    cases hr'
    exact hw ▸ ha
  · rw [hr] at hr'
    cases hr'

/-- An attempt fails exactly when its host fails. -/
theorem fails_iff {cause : ClientError} :
    Fails out limit limit.roundedUp request host w cause w' ↔
      (attempt out limit request host w).result = .error cause ∧
        (attempt out limit request host w).world = w' := by
  refine ⟨Fails.attempt, fun ⟨hr, hw⟩ => ?_⟩
  rcases attempt_cases out limit request host w with ⟨_, hr', _⟩ | ⟨_, hr', hf⟩
  · rw [hr] at hr'
    cases hr'
  · rw [hr] at hr'
    cases hr'
    exact hw ▸ hf

end Failover
end AffinityGate
