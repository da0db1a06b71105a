import AffinityGate.Proofs.Dispatch.Rejected
import AffinityGate.Serving.Handler

/-!
# What a client is told

`Meets` says what comes of a request, in terms of the request, the candidates and the outside alone:
it is rejected, a host answers it, all candidates fail, or its client is sent to the first one.
Something always does (`exists_meets`), and `response_tells_fate` says which response each fate has
and that the status of a response that is not a host's tells the fate apart.
-/

namespace AffinityGate

variable {σ : Type}

/-- What comes of a request: its body is too large or breaks off, it names no process, a host
answers, all candidates fail, the last one for a cause, or the client is sent on, or cannot be. -/
inductive Fate
  | tooLarge
  | broken (text : String)
  | nameless
  | answered (response : Http.Response)
  | exhausted (cause : ClientError)
  | redirected (location : Bytes)
  | unredirectable (location : Bytes)
  deriving DecidableEq

namespace Dispatcher

variable {d : Dispatcher} {out : Outside σ} {request : Http.Arrival} {s : Situation σ}

/-- A request is served: it arrives whole and names a process, it is passed on as `buffered`, and
its candidates are `hosts`, which the outside meets in state `w`. -/
def Serves (d : Dispatcher) (out : Outside σ) (request : Http.Arrival) (s : Situation σ)
    (buffered : Buffered) (hosts : List Host) (w : σ) : Prop :=
  ∃ body e, request.body.buffer d.maxBodyBytes = .ok body ∧
    Extracted.ofRequest? d.unit request.uri body = some e ∧
    buffered = .make request.method (pathAndQuery request.uri) request.headers body ∧
    hosts = d.candidates e.processId (d.decision out s e).decision ∧
    w = (d.decision out s e).world

/-- What a request meets with.  A body that is too large is not read to its end, so that it does not
break off, and only a whole body is searched for a process.  A host has until the timer of its
attempt goes off, at the limit rounded up to whole milliseconds. -/
inductive Meets (d : Dispatcher) (out : Outside σ) (request : Http.Arrival) (s : Situation σ) :
    Fate → Prop
  | tooLarge : d.maxBodyBytes < request.body.chunks.flatten.length →
    Meets d out request s .tooLarge
  | broken {text : String} : request.body.chunks.flatten.length ≤ d.maxBodyBytes →
    request.body.failure = some text → Meets d out request s (.broken text)
  | nameless {body : Bytes} : request.body.buffer d.maxBodyBytes = .ok body →
    Extracted.ofRequest? d.unit request.uri body = none → Meets d out request s .nameless
  | answered {buffered : Buffered} {before after : List Host} {host : Host}
    {response : Http.Response} {w w₁ w₂ : σ} : d.strategy = .proxy →
    d.Serves out request s buffered (before ++ host :: after) w →
    Failover.AllFail out d.attemptLimit d.attemptLimit.roundedUp buffered before w w₁ →
    Failover.Answers out d.attemptLimit.roundedUp buffered host w₁ response w₂ →
    Meets d out request s (.answered response)
  | exhausted {buffered : Buffered} {before : List Host} {last : Host} {cause : ClientError}
    {w w₁ w₂ : σ} : d.strategy = .proxy →
    d.Serves out request s buffered (before ++ [last]) w →
    Failover.AllFail out d.attemptLimit d.attemptLimit.roundedUp buffered before w w₁ →
    Failover.Fails out d.attemptLimit d.attemptLimit.roundedUp buffered last w₁ cause w₂ →
    Meets d out request s (.exhausted cause)
  | redirected {buffered : Buffered} {first : Host} {rest : List Host} {w : σ} :
    d.strategy = .redirect → d.Serves out request s buffered (first :: rest) w →
    Http.isHeaderValue (first.url.join buffered.pathAndQuery) = true →
    Meets d out request s (.redirected (first.url.join buffered.pathAndQuery))
  | unredirectable {buffered : Buffered} {first : Host} {rest : List Host} {w : σ} :
    d.strategy = .redirect → d.Serves out request s buffered (first :: rest) w →
    Http.isHeaderValue (first.url.join buffered.pathAndQuery) = false →
    Meets d out request s (.unredirectable (first.url.join buffered.pathAndQuery))

/-- A request that is served has the result of its failover. -/
theorem Serves.result {buffered : Buffered} {hosts : List Host} {w : σ}
    (h : d.Serves out request s buffered hosts w) (span : Option String) :
    (d.dispatch out span request s).result =
      match (Failover.execute out d.attemptLimit d.strategy buffered hosts w).result with
      | .ok served => .ok served.response
      | .error cause => .error (.failover cause) := by
  obtain ⟨body, e, hbody, htold, rfl, rfl, rfl⟩ := h
  simp only [dispatch, hbody, htold]
  rfl

/-- Something comes of every request. -/
theorem exists_meets (d : Dispatcher) (out : Outside σ) (request : Http.Arrival)
    (s : Situation σ) : ∃ fate, d.Meets out request s fate := by
  by_cases hlarge : d.maxBodyBytes < request.body.chunks.flatten.length
  · exact ⟨_, .tooLarge hlarge⟩
  have hsmall := Nat.not_lt.mp hlarge
  cases hfailure : request.body.failure with
  | some text => exact ⟨_, .broken hsmall hfailure⟩
  | none =>
    have hbody := Http.BodyStream.buffer_eq_ok_iff.mpr ⟨hsmall, hfailure, rfl⟩
    cases htold : Extracted.ofRequest? d.unit request.uri request.body.chunks.flatten with
    | none => exact ⟨_, .nameless hbody htold⟩
    | some e =>
      let r := d.decision out s e
      let buffered := Buffered.make request.method (pathAndQuery request.uri) request.headers
        request.body.chunks.flatten
      let hosts := d.candidates e.processId r.decision
      have hne : hosts ≠ [] := d.candidates_ne_nil e.processId r.decision
      have hserves : d.Serves out request s buffered hosts r.world :=
        ⟨_, e, hbody, htold, rfl, rfl, rfl⟩
      cases hstrategy : d.strategy with
      | proxy =>
        rcases Failover.first_answer_or_all_fail out d.attemptLimit buffered hosts r.world with
          ⟨before, host, after, w₁, response, w₂, hhosts, hbefore, hanswers⟩ | ⟨w₂, hall⟩
        · rw [hhosts] at hserves
          exact ⟨_, .answered hstrategy hserves hbefore hanswers⟩
        · obtain ⟨before, last, w₁, cause, hhosts, hbefore, hlast⟩ := hall.last hne
          rw [hhosts] at hserves
          exact ⟨_, .exhausted hstrategy hserves hbefore hlast⟩
      | redirect =>
        obtain ⟨first, rest, hhosts⟩ := List.exists_cons_of_ne_nil hne
        rw [hhosts] at hserves
        cases hvalue : Http.isHeaderValue (first.url.join buffered.pathAndQuery) with
        | true => exact ⟨_, .redirected hstrategy hserves hvalue⟩
        | false => exact ⟨_, .unredirectable hstrategy hserves hvalue⟩

end Dispatcher

namespace Fate

/-- How a dispatch with a given body limit ends in a fate. -/
def Ends (limit : Nat) : Fate → Except DispatchError Http.Response → Prop
  | .tooLarge, result => result = .error (.bodyTooLarge limit)
  | .broken text, result => result = .error (.bodyRead text)
  | .nameless, result => result = .error .missingProcessId
  | .answered response, result => result = .ok response
  | .exhausted cause, result =>
    ∃ last attempts, result = .error (.failover (.exhausted last attempts cause))
  | .redirected location, result => result = .ok ⟨307, [(.location, location)], []⟩
  | .unredirectable _, result => ∃ text, result = .error (.failover (.redirect text))

/-- The status that tells of a fate. -/
def status : Fate → Nat
  | .tooLarge => 413
  | .broken _ | .nameless => 400
  | .answered response => response.status
  | .exhausted cause => if cause.isTimeout then 504 else 502
  | .redirected _ => 307
  | .unredirectable _ => 502

/-- Which fates a status tells, if no host answered. -/
theorem of_status {fate : Fate} (hown : ∀ answer, fate ≠ .answered answer) :
    fate.status ∈ [307, 400, 413, 502, 504] ∧
    (fate.status = 413 → fate = .tooLarge) ∧
    (fate.status = 400 → (∃ text, fate = .broken text) ∨ fate = .nameless) ∧
    (fate.status = 504 → ∃ cause, fate = .exhausted cause ∧ cause.isTimeout = true) ∧
    (fate.status = 502 → (∃ cause, fate = .exhausted cause ∧ cause.isTimeout = false) ∨
      ∃ location, fate = .unredirectable location) ∧
    (fate.status = 307 → ∃ location, fate = .redirected location) := by
  cases fate with
  | answered answer => exact absurd rfl (hown answer)
  | exhausted cause => cases htimeout : cause.isTimeout <;> simp [status, htimeout]
  | _ => simp [status]

/-- If no host answered, a dispatch ends in an error or in a redirection. -/
theorem Ends.error_or_redirected {limit : Nat} {fate : Fate}
    {result : Except DispatchError Http.Response} (h : fate.Ends limit result)
    (hown : ∀ answer, fate ≠ .answered answer) :
    (∃ e, result = .error e) ∨ ∃ location, fate = .redirected location := by
  cases fate with
  | answered answer => exact absurd rfl (hown answer)
  | redirected location => exact Or.inr ⟨location, rfl⟩
  | exhausted cause =>
    obtain ⟨last, attempts, hresult⟩ := h
    exact Or.inl ⟨_, hresult⟩
  | unredirectable location =>
    obtain ⟨text, hresult⟩ := h
    exact Or.inl ⟨_, hresult⟩
  | _ => exact Or.inl ⟨_, h⟩

end Fate

/-- A client is redirected to a header value only. -/
theorem Dispatcher.Meets.isHeaderValue {d : Dispatcher} {out : Outside σ} {request : Http.Arrival}
    {s : Situation σ} {location : Bytes} (h : d.Meets out request s (.redirected location)) :
    Http.isHeaderValue location = true := by
  cases h with
  | redirected _ _ hvalue => exact hvalue

/-- A dispatch ends as its fate says. -/
theorem Dispatcher.Meets.ends {d : Dispatcher} {out : Outside σ} {request : Http.Arrival}
    {s : Situation σ} {fate : Fate} (h : d.Meets out request s fate) (span : Option String) :
    fate.Ends d.maxBodyBytes (d.dispatch out span request s).result := by
  cases h with
  | tooLarge hlarge =>
    have hrejection : d.rejection? request = some (.bodyTooLarge d.maxBodyBytes) := by
      simp only [rejection?, if_pos hlarge]
    rw [dispatch_of_rejection hrejection]
    rfl
  | @broken text hsmall hfailure =>
    have hrejection : d.rejection? request = some (.bodyRead text) := by
      simp only [rejection?, if_neg (Nat.not_lt.mpr hsmall), hfailure]
    rw [dispatch_of_rejection hrejection]
    rfl
  | nameless hbody htold =>
    simp only [Fate.Ends, dispatch, hbody, htold]
  | answered hstrategy hserves hbefore hanswers =>
    obtain ⟨hresult, -, -⟩ := Failover.pass_answered hbefore hanswers _ 0
    rw [Fate.Ends, hserves.result, hstrategy, Failover.execute, Failover.proxy, hresult]
  | exhausted hstrategy hserves hbefore hlast =>
    obtain ⟨hresult, -, -⟩ := Failover.pass_exhausted hbefore hlast 0
    rw [Fate.Ends, hserves.result, hstrategy, Failover.execute, Failover.proxy, hresult]
    exact ⟨_, _, rfl⟩
  | redirected hstrategy hserves hvalue =>
    rw [Fate.Ends, hserves.result, hstrategy, Failover.execute]
    simp only [Failover.redirect, hvalue, if_true]
  | unredirectable hstrategy hserves hvalue =>
    rw [Fate.Ends, hserves.result, hstrategy, Failover.execute]
    simp only [Failover.redirect, hvalue, Bool.false_eq_true, if_false]
    exact ⟨_, rfl⟩

/-! ## Responses -/

namespace HandlerError

/-- The error of candidates that all failed tells whether the last one took too long. -/
theorem status_of_exhausted (last : Host) (attempts : Nat) (cause : ClientError) :
    (ofDispatch (.failover (.exhausted last attempts cause))).status =
      if cause.isTimeout then 504 else 502 := by
  by_cases htimeout : cause.isTimeout = true
  · simp [ofDispatch, FailoverError.isTimeout, htimeout, status]
  · simp [ofDispatch, FailoverError.isTimeout, htimeout, status]

/-- The plain response of an error can be written: its header is a header value. -/
theorem isHeaderValue_response (e : HandlerError) :
    ∀ field ∈ e.response.headers, Http.isHeaderValue field.2 = true := by
  intro field hfield
  rw [response, List.mem_singleton] at hfield
  rw [hfield]
  decide +kernel

end HandlerError

namespace Handler

variable {h : Handler} {out : Outside σ} {client : Option Net.Ip} {request : Http.Arrival}
  {s : Situation σ}

/-- A request as the dispatcher gets it, marked with where it came from. -/
def marked (h : Handler) (client : Option Net.Ip) (request : Http.Arrival) : Http.Arrival :=
  { request with headers := addForwarded request.headers client h.secure }

/-- The response to a result of a dispatch. -/
def responseOf : Except DispatchError Http.Response → Http.Response
  | .ok response => response
  | .error e => (HandlerError.ofDispatch e).response

/-- The response to a request that is routed is that of its dispatch. -/
theorem result_handle (out : Outside σ) (timestamp : String) (client : Option Net.Ip)
    (hpath : request.uri.path ≠ Utf8.ofText "/health") (s : Situation σ) :
    (h.handle out timestamp client request s).result =
      responseOf
        (h.dispatcher.dispatch out (some spanName) (h.marked client request) s).result := by
  rw [handle, if_neg hpath]
  cases hresult :
    (h.dispatcher.dispatch out (some spanName) (h.marked client request) s).result with
  | ok response =>
    rw [marked] at hresult
    simp only [routed, hresult, responseOf]
  | error e =>
    rw [marked] at hresult
    simp only [routed, hresult, responseOf]

/-- The status of a response tells the fate of its request. -/
theorem status_responseOf {limit : Nat} {fate : Fate} {result : Except DispatchError Http.Response}
    (hends : fate.Ends limit result) : (responseOf result).status = fate.status := by
  cases fate with
  | exhausted cause =>
    obtain ⟨last, attempts, rfl⟩ := hends
    exact HandlerError.status_of_exhausted last attempts cause
  | unredirectable location =>
    obtain ⟨text, rfl⟩ := hends
    rfl
  | _ =>
    rw [Fate.Ends] at hends
    rw [hends]
    rfl

/-- **What a client is told is what happened.**  Every request but those for the health of the
gateway gets a response.  If a host answered, the response is that answer.  Otherwise the gateway
writes it, with headers that can be written, and its status tells what happened: 413 that the body
is too large, 400 that it broke off or that the request names no process, 504 that all candidates
failed and the last one took too long, 502 that they failed and the last one did not, or that the
client cannot be redirected, and 307, with the location, that it is.  That there are no candidates,
which would be a 500, never happens. -/
theorem response_tells_fate (h : Handler) (out : Outside σ) (timestamp : String)
    (client : Option Net.Ip) {request : Http.Arrival}
    (hpath : request.uri.path ≠ Utf8.ofText "/health") (s : Situation σ) :
    let response := (h.handle out timestamp client request s).result
    let meets := h.dispatcher.Meets out (h.marked client request) s
    (∀ answer, meets (.answered answer) → response = answer) ∧
    (∀ location, meets (.redirected location) → response = ⟨307, [(.location, location)], []⟩) ∧
    (h.dispatcher.dispatch out (some spanName) (h.marked client request) s).result ≠
      .error (.failover .emptySequence) ∧
    ((∀ answer, ¬meets (.answered answer)) →
      (∀ field ∈ response.headers, Http.isHeaderValue field.2 = true) ∧
      response.status ∈ [307, 400, 413, 502, 504] ∧
      (response.status = 413 ↔ meets .tooLarge) ∧
      (response.status = 400 ↔ (∃ text, meets (.broken text)) ∨ meets .nameless) ∧
      (response.status = 504 ↔ ∃ cause, meets (.exhausted cause) ∧ cause.isTimeout = true) ∧
      (response.status = 502 ↔ (∃ cause, meets (.exhausted cause) ∧ cause.isTimeout = false) ∨
        ∃ location, meets (.unredirectable location)) ∧
      (response.status = 307 ↔ ∃ location, meets (.redirected location))) := by
  intro response meets
  have hresponse : response = responseOf _ := result_handle out timestamp client hpath s
  have hends {fate : Fate} (hmeets : meets fate) := Dispatcher.Meets.ends hmeets (some spanName)
  have hstatus {fate : Fate} (hmeets : meets fate) : response.status = fate.status := by
    rw [hresponse]
    exact status_responseOf (hends hmeets)
  -- A status goes back to a fate because something has come of the request: if it were another
  -- fate, it would have another status.
  obtain ⟨fate, hfate⟩ := h.dispatcher.exists_meets out (h.marked client request) s
  refine ⟨fun answer hmeets => ?_, fun location hmeets => ?_, fun hempty => ?_, fun hnone => ?_⟩
  · rw [hresponse, show _ = Except.ok answer from hends hmeets]
    rfl
  · rw [hresponse, show _ = Except.ok _ from hends hmeets]
    rfl
  · have hfate := hends hfate
    rw [hempty] at hfate
    cases fate <;> simp [Fate.Ends] at hfate
  · have hown : ∀ answer, fate ≠ .answered answer := fun answer h => hnone answer (h ▸ hfate)
    have htold := hstatus hfate
    obtain ⟨hmem, h413, h400, h504, h502, h307⟩ := Fate.of_status hown
    rw [← htold] at hmem h413 h400 h504 h502 h307
    refine ⟨?_, hmem, ⟨fun h => h413 h ▸ hfate, hstatus⟩, ⟨fun h => ?_, ?_⟩, ⟨fun h => ?_, ?_⟩,
      ⟨fun h => ?_, ?_⟩, ⟨fun h => ?_, ?_⟩⟩
    · rcases (hends hfate).error_or_redirected hown with ⟨e, he⟩ | ⟨location, rfl⟩
      · rw [hresponse, he]
        exact (HandlerError.ofDispatch e).isHeaderValue_response
      · rw [hresponse, show _ = Except.ok _ from hends hfate]
        intro field hfield
        rw [List.mem_singleton.mp hfield]
        exact hfate.isHeaderValue
    · rcases h400 h with ⟨text, rfl⟩ | rfl
      · exact Or.inl ⟨text, hfate⟩
      · exact Or.inr hfate
    · rintro (⟨text, hmeets⟩ | hmeets)
      · exact hstatus hmeets
      · exact hstatus hmeets
    · obtain ⟨cause, rfl, htimeout⟩ := h504 h
      exact ⟨cause, hfate, htimeout⟩
    · rintro ⟨cause, hmeets, htimeout⟩
      exact (hstatus hmeets).trans (if_pos htimeout)
    · rcases h502 h with ⟨cause, rfl, htimeout⟩ | ⟨location, rfl⟩
      · exact Or.inl ⟨cause, hfate, htimeout⟩
      · exact Or.inr ⟨location, hfate⟩
    · rintro (⟨cause, hmeets, htimeout⟩ | ⟨location, hmeets⟩)
      · exact (hstatus hmeets).trans (if_neg (by simp [htimeout]))
      · exact hstatus hmeets
    · obtain ⟨location, rfl⟩ := h307 h
      exact ⟨location, hfate⟩
    · rintro ⟨location, hmeets⟩
      exact hstatus hmeets

/-- Hosts that never answer are told as a gateway timeout, which says that no host answered and that
the last one took too long. -/
theorem silent_hosts_time_out :
    let h : Handler := ⟨Visit.byPath.dispatcher, false⟩
    let request := Visit.byPath.request
    let s : Situation Unit := ⟨0, .forgetful, ()⟩
    let response := (h.handle Failover.silent "" none request s).result
    request.uri.path ≠ Utf8.ofText "/health" ∧ response.status = 504 ∧
      ∃ cause, h.dispatcher.Meets Failover.silent (h.marked none request) s (.exhausted cause) ∧
        cause.isTimeout = true := by
  intro h request s response
  have hpath : request.uri.path ≠ Utf8.ofText "/health" := by decide +kernel
  have hstatus : response.status = 504 := by decide +kernel
  have hnone : ∀ answer,
      ¬h.dispatcher.Meets Failover.silent (h.marked none request) s (.answered answer) := by
    rintro answer ⟨⟩
    rename_i hanswers
    obtain ⟨-, hserve, -⟩ := hanswers
    cases hserve
  obtain ⟨-, -, -, htold⟩ := response_tells_fate h Failover.silent "" none hpath s
  obtain ⟨-, -, -, -, htimeout, -⟩ := htold hnone
  exact ⟨hpath, hstatus, htimeout.mp hstatus⟩

end Handler
end AffinityGate
