import Mathlib.Data.List.Forall2
import AffinityGate.Proofs.Dispatch.Totals

/-!
# The outcome sink

Outcomes go to a sink, which may fail.  A failure leaves a warning, `Effect.refusal`, and nothing
else: `dispatch_withSink` compares one request under two sinks, and `failing_sink_unseen` a whole
course of things under a sink that does as it likes with the same course under one that always
fails.
-/

namespace AffinityGate

variable {σ : Type}

/-- The outside with a sink that takes outcomes in a given way. -/
def Outside.withSink (out : Outside σ) (accepts : Outcome → Bool) : Outside σ :=
  { out with accepts := accepts }

/-! ## Refusals -/

namespace Effect

/-- The warning about an outcome that the sink refused. -/
def refusal : Effect :=
  .event .warn "failed to record dispatch outcome" [("error", "sink unavailable")]

/-- Effects without what is said about refused outcomes. -/
def withoutRefusals (es : List Effect) : List Effect :=
  es.filter (· != refusal)

@[simp] theorem withoutRefusals_append (es fs : List Effect) :
    withoutRefusals (es ++ fs) = withoutRefusals es ++ withoutRefusals fs := by
  simp [withoutRefusals]

/-- Who does not see refusals sees the same without them. -/
theorem filterMap_withoutRefusals {β : Type} {view : Effect → Option β} (h : view refusal = none)
    (es : List Effect) : (withoutRefusals es).filterMap view = es.filterMap view := by
  rw [withoutRefusals, List.filterMap_filter]
  refine List.filterMap_congr fun e _ => ?_
  by_cases he : e = refusal
  · rw [he, h]
    simp
  · simp [he]

end Effect

open Effect (refusal withoutRefusals)

/-- Two answers that differ in refusals at most: the result is the same, so is the situation
afterwards, with its clock, its cache and its outside, and so is everything else that was done. -/
structure Answered.SameButRefusals {α : Type} (a b : Answered σ α) : Prop where
  result : a.result = b.result
  after : a.after = b.after
  sent : Effect.requests a.effects = Effect.requests b.effects
  asked : Effect.lookups a.effects = Effect.lookups b.effects
  recorded : Effect.outcomes a.effects = Effect.outcomes b.effects
  effects : withoutRefusals a.effects = withoutRefusals b.effects

theorem Answered.SameButRefusals.of_effects {α : Type} {a b : Answered σ α}
    (hresult : a.result = b.result) (hafter : a.after = b.after)
    (heffects : withoutRefusals a.effects = withoutRefusals b.effects) : a.SameButRefusals b := by
  have hviews {β : Type} {view : Effect → Option β} (h : view refusal = none) :
      a.effects.filterMap view = b.effects.filterMap view := by
    rw [← Effect.filterMap_withoutRefusals h a.effects, heffects,
      Effect.filterMap_withoutRefusals h b.effects]
  exact ⟨hresult, hafter, hviews rfl, hviews rfl, hviews rfl, heffects⟩

/-! ## Where the sink is not met -/

namespace Failover

/-- A pass does not meet the sink. -/
theorem pass_withSink (out : Outside σ) (accepts : Outcome → Bool) (limit : Duration)
    (request : Buffered) (position : Nat) (candidates : List Host) (w : σ) :
    pass (out.withSink accepts) limit request position candidates w =
      pass out limit request position candidates w := by
  induction candidates generalizing position w with
  | nil => rfl
  | cons host rest ih =>
    have hattempt : attempt (out.withSink accepts) limit request host w =
        attempt out limit request host w := rfl
    simp only [pass, hattempt, ih]

theorem execute_withSink (out : Outside σ) (accepts : Outcome → Bool) (limit : Duration)
    (strategy : Strategy) (request : Buffered) (candidates : List Host) (w : σ) :
    execute (out.withSink accepts) limit strategy request candidates w =
      execute out limit strategy request candidates w := by
  cases strategy with
  | proxy => exact pass_withSink out accepts limit request 0 candidates w
  | redirect => rfl

theorem refusal_not_mem_turn (out : Outside σ) (limit : Duration) (request : Buffered)
    (position : Nat) (host : Host) (w : σ) :
    refusal ∉ turn out limit request position host w := by
  rw [turn, attempt_effects]
  simp [attemptSpan, refusal, Effect.event]

theorem refusal_not_mem_pass (out : Outside σ) (limit : Duration) (request : Buffered)
    (position : Nat) (candidates : List Host) (w : σ) :
    refusal ∉ (pass out limit request position candidates w).effects := by
  have hturn := refusal_not_mem_turn out limit request
  have hreached (host position status) : refusal ∉ reached host position status := by
    simp [reached, refusal, Effect.event]
  have hunreachable (host position remaining e) :
      refusal ∉ unreachable host position remaining e := by
    simp [unreachable, refusal, Effect.event]
  induction candidates generalizing position w with
  | nil => exact List.not_mem_nil
  | cons host rest ih =>
    rcases attempt_cases out limit request host w with ⟨response, -, ha⟩ | ⟨cause, -, hf⟩
    · rw [pass_of_answers position rest ha]
      exact List.not_mem_append (hturn _ _ _) (hreached _ _ _)
    · cases rest with
      | nil =>
        rw [pass_of_last_fails position hf]
        exact List.not_mem_append (hturn _ _ _) (hunreachable _ _ _ _)
      | cons next rest =>
        rw [pass_of_fails position rest hf]
        refine List.not_mem_append ?_ (ih _ _)
        exact List.not_mem_append (hturn _ _ _) (hunreachable _ _ _ _)

theorem refusal_not_mem_execute (out : Outside σ) (limit : Duration) (strategy : Strategy)
    (request : Buffered) (candidates : List Host) (w : σ) :
    refusal ∉ (execute out limit strategy request candidates w).effects := by
  cases strategy with
  | proxy => exact refusal_not_mem_pass out limit request 0 candidates w
  | redirect =>
    simp only [execute, redirect]
    split
    · exact List.not_mem_nil
    · split <;> simp [refusal, Effect.event]

end Failover

namespace Resolver

theorem refusal_not_mem_decideEffects (p : OwnerPolicy) (id : ProcessId) (owner : String) :
    refusal ∉ decideEffects p id owner := by
  unfold decideEffects
  split <;> simp [refusal, Effect.event]

theorem refusal_not_mem_lookupEffects (limit : Duration) (id : ProcessId)
    (answer : Option (Except RegistryError (Option String))) :
    refusal ∉ lookupEffects limit id answer := by
  unfold lookupEffects
  split <;> simp [refusal, Effect.event]

theorem Resolution.refusal_not_mem {r : Resolver} {out : Outside σ} {now : Nat}
    {store : OwnerStore} {id : ProcessId} {w : σ} {a : Resolved σ}
    (h : r.Resolution out now store id w a) : refusal ∉ a.effects := by
  have hasked (answer) : refusal ∉ .asked id :: lookupEffects r.limit id answer :=
    List.not_mem_cons_of_ne_of_not_mem nofun (refusal_not_mem_lookupEffects r.limit id answer)
  cases h with
  | off _ => exact List.not_mem_nil
  | kept _ _ =>
    exact List.not_mem_cons_of_ne_of_not_mem nofun (refusal_not_mem_decideEffects _ id _)
  | found _ _ _ _ => exact List.not_mem_append (hasked _) (refusal_not_mem_decideEffects _ id _)
  | missing _ _ _ _ => exact hasked _

end Resolver

namespace Dispatcher

/-- A decision does not meet the sink. -/
theorem decision_withSink (d : Dispatcher) (out : Outside σ) (accepts : Outcome → Bool)
    (s : Situation σ) (e : Extracted) :
    d.decision (out.withSink accepts) s e = d.decision out s e := rfl

theorem refusal_not_mem_decision (d : Dispatcher) (out : Outside σ) (s : Situation σ)
    (e : Extracted) : refusal ∉ (d.decision out s e).effects := by
  unfold decision
  split
  · unfold Resolver.resolveWithOwner
    split
    · exact List.not_mem_nil
    · exact List.not_mem_cons_of_ne_of_not_mem nofun
        (Resolver.refusal_not_mem_decideEffects _ e.processId _)
  · exact (Resolver.resolution_resolve ..).refusal_not_mem

theorem refusal_not_mem_note (span : Option String) (name value : String) :
    refusal ∉ note span name value := by
  unfold note
  split <;> simp [refusal, Effect.event]

theorem refusal_not_mem_failureEvent (id : ProcessId) (route : Route)
    (result : Except FailoverError Dispatched) : refusal ∉ failureEvent id route result := by
  unfold failureEvent
  split <;> simp [refusal, Effect.event]

/-! ## Where it is -/

/-- Two sinks get the same record. -/
theorem withoutRefusals_record (out : Outside σ) (accepts : Outcome → Bool) (o : Outcome) :
    withoutRefusals (record (out.withSink accepts) o) = withoutRefusals (record out o) := by
  have hrefused (b : Bool) : withoutRefusals (if b = true then [] else [refusal]) = [] := by
    cases b <;> simp [withoutRefusals]
  unfold record
  rw [Effect.withoutRefusals_append, Effect.withoutRefusals_append]
  exact congrArg _ ((hrefused _).trans (hrefused _).symm)

/-- A record that the sink refuses leaves one refusal, and one that it accepts none. -/
theorem count_refusal_record (out : Outside σ) (o : Outcome) :
    (record out o).count refusal = [o].countP fun o => !out.accepts o := by
  have hwarning (b : Bool) :
      (if b = true then [] else [refusal]).count refusal = if (!b) = true then 1 else 0 := by
    cases b <;> simp
  have hrecord (o : Outcome) : [Effect.recorded o, .counted (.requests o.route o.success),
      .counted (.duration o.route), .event .debug "dispatch outcome"
        [("process_id", o.processId.text), ("host", o.host), ("attempts", toString o.attempts),
          ("success", toString o.success)]].count refusal = 0 := by
    simp [refusal, Effect.event]
  unfold record
  rw [List.count_append, hrecord, Nat.zero_add, List.countP_singleton]
  exact hwarning _

theorem serve_withSink (d : Dispatcher) (out : Outside σ) (accepts : Outcome → Bool)
    (span : Option String) (request : Http.Arrival) (body : Bytes) (e : Extracted) (now : Nat)
    (r : Resolved σ) :
    (d.serve (out.withSink accepts) span request body e now r).SameButRefusals
      (d.serve out span request body e now r) := by
  refine .of_effects ?_ ?_ ?_
  · simp only [serve, Failover.execute_withSink]
  · simp only [serve, Failover.execute_withSink]
  · simp only [serve, Failover.execute_withSink, Effect.withoutRefusals_append,
      withoutRefusals_record]

/-- A request is dispatched under any two sinks alike, but for refusals. -/
theorem dispatch_withSink (d : Dispatcher) (out : Outside σ) (accepts : Outcome → Bool)
    (span : Option String) (request : Http.Arrival) (s : Situation σ) :
    (d.dispatch (out.withSink accepts) span request s).SameButRefusals
      (d.dispatch out span request s) := by
  unfold dispatch
  cases request.body.buffer d.maxBodyBytes with
  | error cause => exact .of_effects rfl rfl rfl
  | ok body =>
    cases htold : Extracted.ofRequest? d.unit request.uri body with
    | none =>
      simp only [htold]
      exact .of_effects rfl rfl rfl
    | some e =>
      simp only [htold, decision_withSink]
      exact d.serve_withSink out accepts span request body e s.now (d.decision out s e)

/-- A request leaves as many refusals as records that the sink refuses. -/
theorem count_refusal_dispatch (d : Dispatcher) (out : Outside σ) (span : Option String)
    (request : Http.Arrival) (s : Situation σ) :
    let es := (d.dispatch out span request s).effects
    es.count refusal = (Effect.outcomes es).countP fun o => !out.accepts o := by
  cases htold : d.extracted? request with
  | none =>
    obtain ⟨cause, hrefused⟩ := dispatch_of_not_extracted htold out span s
    rw [hrefused]
    rfl
  | some e =>
    obtain ⟨body, -, hdispatch⟩ := dispatch_of_extracted htold out span s
    have hcandidates (id route hosts) : [candidatesEvent id route hosts].count refusal = 0 := by
      simp [candidatesEvent, refusal, Effect.event]
    simp only [hdispatch,
      d.outcomes_serve out span request body e s.now (d.outcomes_decision out s e)]
    simp only [serve, List.count_append, List.count_eq_zero.mpr (refusal_not_mem_note _ _ _),
      List.count_eq_zero.mpr (d.refusal_not_mem_decision out s e), hcandidates,
      List.count_eq_zero.mpr (Failover.refusal_not_mem_execute _ _ _ _ _ _),
      List.count_eq_zero.mpr (refusal_not_mem_failureEvent _ _ _), count_refusal_record,
      Nat.zero_add, Nat.add_zero]

/-! ## Courses -/

/-- Something that happens, and how the sink takes outcomes at that time. -/
structure Moment where
  happening : Happening
  accepts : Outcome → Bool

/-- The same with a sink that always fails. -/
def Moment.failing (m : Moment) : Moment :=
  { m with accepts := fun _ => false }

/-- The situation after a moment. -/
def live (d : Dispatcher) (out : Outside σ) (s : Situation σ) (m : Moment) : Situation σ :=
  d.undergo (out.withSink m.accepts) s m.happening

/-- The answer to what happens, if it is a request. -/
def answer? (d : Dispatcher) (out : Outside σ) (s : Situation σ) (m : Moment) :
    Option (Answered σ (Except DispatchError Http.Response)) :=
  match m.happening with
  | .event (.request span request) => some (d.dispatch (out.withSink m.accepts) span request s)
  | .event (.pause _) | .sweep => none

/-- The answers to the requests of a course. -/
def answers (d : Dispatcher) (out : Outside σ) :
    Situation σ → List Moment → List (Answered σ (Except DispatchError Http.Response))
  | _, [] => []
  | s, m :: moments => (d.answer? out s m).toList ++ d.answers out (d.live out s m) moments

/-- A sink that fails leaves the same situation. -/
theorem live_failing (d : Dispatcher) (out : Outside σ) (s : Situation σ) (m : Moment) :
    d.live out s m.failing = d.live out s m := by
  obtain ⟨happening, accepts⟩ := m
  cases happening with
  | event event =>
    cases event with
    | request span request =>
      exact (d.dispatch_withSink (out.withSink accepts) (fun _ => false) span request s).after
    | pause millis => rfl
  | sweep => rfl

/-- An answer under a sink that fails differs in refusals at most, and has one for each record. -/
theorem answer?_failing (d : Dispatcher) (out : Outside σ) (s : Situation σ) (m : Moment) :
    List.Forall₂ Answered.SameButRefusals (d.answer? out s m.failing).toList
        (d.answer? out s m).toList ∧
      ∀ a ∈ d.answer? out s m.failing,
        a.effects.count refusal = (Effect.outcomes a.effects).length := by
  obtain ⟨happening, accepts⟩ := m
  cases happening with
  | event event =>
    cases event with
    | request span request =>
      refine ⟨.cons ?_ .nil, ?_⟩
      · exact d.dispatch_withSink (out.withSink accepts) (fun _ => false) span request s
      · rintro a ⟨⟩
        rw [count_refusal_dispatch]
        exact List.countP_eq_length.mpr fun _ _ => rfl
    | pause millis => exact ⟨.nil, nofun⟩
  | sweep => exact ⟨.nil, nofun⟩

/-- **A failing sink is not seen.**  Whatever comes, and whichever outcomes the sink accepts at what
time, if it fails every time instead, every request has the same result, sends the same to the
hosts, asks the same of the registry, leaves the same record and takes the same time, and the cache
and the decisions that are made afterwards are the same.  All that is added is one warning for each
record. -/
theorem failing_sink_unseen (d : Dispatcher) (out : Outside σ) (s : Situation σ)
    (course : List Moment) :
    let failing := course.map Moment.failing
    List.Forall₂ Answered.SameButRefusals (d.answers out s failing) (d.answers out s course) ∧
    failing.foldl (d.live out) s = course.foldl (d.live out) s ∧
    (∀ e, d.decision (out.withSink fun _ => false) (failing.foldl (d.live out) s) e =
      d.decision out (course.foldl (d.live out) s) e) ∧
    ∀ a ∈ d.answers out s failing,
      a.effects.count refusal = (Effect.outcomes a.effects).length := by
  have hlast : (course.map Moment.failing).foldl (d.live out) s = course.foldl (d.live out) s := by
    rw [List.foldl_map]
    simp only [live_failing]
  have hanswers : List.Forall₂ Answered.SameButRefusals
        (d.answers out s (course.map Moment.failing)) (d.answers out s course) ∧
      ∀ a ∈ d.answers out s (course.map Moment.failing),
        a.effects.count refusal = (Effect.outcomes a.effects).length := by
    clear hlast
    induction course generalizing s with
    | nil => exact ⟨.nil, nofun⟩
    | cons m course ih =>
      obtain ⟨hsame, hrefusals⟩ := d.answer?_failing out s m
      obtain ⟨hrest, hrest'⟩ := ih (d.live out s m)
      simp only [List.map_cons, answers, live_failing]
      refine ⟨List.rel_append hsame hrest, fun a ha => ?_⟩
      rcases List.mem_append.mp ha with hfirst | hlater
      · exact hrefusals a (Option.mem_toList.mp hfirst)
      · exact hrest' a hlater
  refine ⟨hanswers.1, hlast, fun e => ?_, hanswers.2⟩
  rw [hlast]
  exact d.decision_withSink out _ _ e

/-- An outside that knows one process, and in which the host `s` answers and every other refuses
connections. -/
def poolDown : Outside Unit :=
  { knowing with
    serve := fun r w =>
      if r.uri.authority = Utf8.ofText "s" then (.after 7 (.ok ⟨200, [], []⟩), w)
      else (.after 5 (.error (.connection "refused")), w) }

/-- A process is asked for and then known, another one finds no host that answers, and one request
names no process.  Under a failing sink there are three refusals, one of them for the request that
fails, and the rest is as it was. -/
theorem three_records_refused :
    let request (path : String) : Moment :=
      ⟨.event (.request none (bodied path [] none)), fun _ => true⟩
    let course : List Moment := [request "/state/p", ⟨.event (.pause 2), fun _ => true⟩,
      request "/state/p", request "/state/x", request "/state"]
    let s : Situation Unit := ⟨0, .timed (.empty (.ofMillis 1000)), ()⟩
    let failing := course.map Moment.failing
    let told (course : List Moment) := (guarded.answers poolDown s course).map
      fun a => (a.result.isOk, a.effects.count refusal)
    told course = [(true, 0), (true, 0), (false, 0), (false, 0)] ∧
      told failing = [(true, 1), (true, 1), (false, 1), (false, 0)] ∧
      List.Forall₂ Answered.SameButRefusals (guarded.answers poolDown s failing)
        (guarded.answers poolDown s course) ∧
      failing.foldl (guarded.live poolDown) s = course.foldl (guarded.live poolDown) s := by
  intro request course s failing told
  obtain ⟨hsame, hlast, -⟩ := failing_sink_unseen guarded poolDown s course
  exact ⟨by decide +kernel, by decide +kernel, hsame, hlast⟩

end Dispatcher
end AffinityGate
