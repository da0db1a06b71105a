import AffinityGate.Proofs.Dispatch.Rejected
import AffinityGate.Serving.Handler

/-!
# Faithful requests

A request that is answered by hosts goes through three stages: its headers are marked with where it
came from, those of one connection are dropped, and a copy is addressed at each host in turn.
`passedOn` says which values of a header are left after the first two, and `every_attempt_faithful`
that every host gets them, with the method and the whole body, and that the copies differ in nothing
but the host.
-/

namespace AffinityGate

variable {σ : Type}

namespace Handler

open Http (Headers HeaderName)

/-- The values of a header that are passed on, the forwarding chain apart: none of a header that is
dropped, else the values that the request has; where it has none, the first of its hosts for the
forwarded host, and what the listener speaks for the forwarded protocol. -/
def passedOn (secure : Bool) (headers : Headers) (n : HeaderName) : List Bytes :=
  if n ∈ Buffered.dropped then []
  else if headers.values n ≠ [] then headers.values n
  else if n = .forwardedHost then (headers.values .host).head?.toList
  else if n = .forwardedProto then [Utf8.ofText (if secure then "https" else "http")]
  else []

/-! ## Marking -/

/-- Headers with the client in the forwarding chain. -/
def chained (headers : Headers) (client : Option Net.Ip) : Headers :=
  match client with
  | some ip => headers.put .forwardedFor (forwardedFor headers ip)
  | none => headers

/-- Headers with the host that was asked for, if none is there yet. -/
def hosted (headers : Headers) : Headers :=
  match headers.has .forwardedHost, headers.get? .host with
  | false, some host => headers.put .forwardedHost host
  | _, _ => headers

theorem addForwarded_eq (headers : Headers) (client : Option Net.Ip) (secure : Bool) :
    addForwarded headers client secure = (hosted (chained headers client)).putIfAbsent
      .forwardedProto (Utf8.ofText (if secure then "https" else "http")) := rfl

theorem values_chained (headers : Headers) (client : Option Net.Ip) {n : HeaderName}
    (hn : n ≠ .forwardedFor) : (chained headers client).values n = headers.values n := by
  cases client with
  | none => rfl
  | some ip => exact Headers.values_put_of_ne _ _ hn

theorem values_hosted (headers : Headers) (n : HeaderName) :
    (hosted headers).values n = if n = .forwardedHost ∧ headers.values .forwardedHost = [] then
      (headers.values .host).head?.toList else headers.values n := by
  unfold hosted
  split
  · rename_i host hhas hget
    have hnone := (Headers.has_eq_false_iff headers .forwardedHost).mp hhas
    by_cases hn : n = .forwardedHost
    · rw [hn, Headers.values_put_self, if_pos ⟨rfl, hnone⟩, ← Headers.get?, hget]
      rfl
    · rw [Headers.values_put_of_ne _ _ hn, if_neg fun h => hn h.1]
  · rename_i hkeep
    by_cases hn : n = .forwardedHost ∧ headers.values .forwardedHost = []
    · have hhas := (Headers.has_eq_false_iff headers .forwardedHost).mpr hn.2
      have hget : headers.get? .host = none :=
        Option.eq_none_iff_forall_ne_some.mpr fun host => hkeep host hhas
      rw [if_pos hn, hn.1, hn.2, ← Headers.get?, hget]
      rfl
    · rw [if_neg hn]

/-- What marking leaves of a header, the forwarding chain apart. -/
theorem values_addForwarded (headers : Headers) (client : Option Net.Ip) (secure : Bool)
    {n : HeaderName} (hn : n ≠ .forwardedFor) :
    Headers.values (addForwarded headers client secure) n =
      if headers.values n ≠ [] then headers.values n
      else if n = .forwardedHost then (headers.values .host).head?.toList
      else if n = .forwardedProto then [Utf8.ofText (if secure then "https" else "http")]
      else [] := by
  have hproto : (hosted (chained headers client)).values .forwardedProto =
      headers.values .forwardedProto := by
    rw [values_hosted, if_neg fun h => absurd h.1 (by decide), values_chained _ _ (by decide)]
  rw [addForwarded_eq, Headers.values_putIfAbsent, hproto, values_hosted, values_chained _ _ hn,
    values_chained _ _ (n := .forwardedHost) (by decide),
    values_chained _ _ (n := .host) (by decide)]
  by_cases hnone : headers.values n = []
  · rw [if_neg (not_not_intro hnone)]
    by_cases hhost : n = .forwardedHost
    · subst hhost
      rw [if_neg fun h => absurd h.1 (by decide), if_pos ⟨rfl, hnone⟩, if_pos rfl]
    · rw [if_neg hhost]
      by_cases hp : n = .forwardedProto
      · subst hp
        rw [if_pos ⟨rfl, hnone⟩, if_pos rfl]
      · rw [if_neg fun h => hp h.1, if_neg fun h => hhost h.1, if_neg hp, hnone]
  · have hkept (m) : ¬(n = m ∧ headers.values m = []) := by
      rintro ⟨rfl, h⟩
      exact hnone h
    rw [if_pos hnone, if_neg (hkept _), if_neg (hkept _)]

/-- The forwarding chain that a request is marked with. -/
theorem values_addForwarded_for (headers : Headers) (client : Option Net.Ip) (secure : Bool) :
    Headers.values (addForwarded headers client secure) .forwardedFor =
      (chained headers client).values .forwardedFor := by
  rw [addForwarded_eq, Headers.values_putIfAbsent, if_neg fun h => absurd h.1 (by decide),
    values_hosted, if_neg fun h => absurd h.1 (by decide)]

/-- What is left of a header once the request is marked and what belongs to one connection is
dropped. -/
theorem values_marked (headers : Headers) (client : Option Net.Ip) (secure : Bool)
    {n : HeaderName} (hn : n ≠ .forwardedFor) :
    Headers.values ((addForwarded headers client secure).filter
      fun h => !Buffered.dropped.contains h.1) n = passedOn secure headers n := by
  rw [Headers.values_filter _ fun n => !Buffered.dropped.contains n,
    values_addForwarded headers client secure hn, passedOn]
  by_cases hdropped : n ∈ Buffered.dropped
  · simp [hdropped]
  · simp [hdropped]

end Handler

/-! ## Sending -/

theorem KeepsTo.requests {strategy : Strategy} {request : Buffered} {sequence : List Host}
    {es : List Effect} {response? : Option Http.Response}
    (h : KeepsTo strategy request sequence es response?) :
    ∃ tried : List Host, Effect.requests es = tried.filterMap request.outgoing? := by
  cases strategy with
  | proxy =>
    obtain ⟨tried, -, -, htried⟩ := h
    exact ⟨tried, htried.1⟩
  | redirect => exact ⟨[], h.1.1⟩

/-- Whatever a dispatch hands to the client port is the request, buffered and addressed. -/
theorem Dispatcher.addressed_of_sent (d : Dispatcher) (out : Outside σ) (span : Option String)
    (request : Http.Arrival) (s : Situation σ) {r : Http.Request}
    (hr : r ∈ Effect.requests (d.dispatch out span request s).effects) :
    ∃ body host, request.body.buffer d.maxBodyBytes = .ok body ∧
      let buffered := Buffered.make request.method (pathAndQuery request.uri) request.headers body
      buffered.addressed host = .ok r := by
  cases htold : d.extracted? request with
  | none =>
    obtain ⟨cause, hrefused⟩ := dispatch_of_not_extracted htold out span s
    rw [hrefused] at hr
    cases hr
  | some e =>
    obtain ⟨body, hbody, hkeeps⟩ := (goes_of_extracted htold out span s).keeps
    obtain ⟨tried, htried⟩ := hkeeps.requests
    rw [htried] at hr
    obtain ⟨host, -, houtgoing⟩ := List.mem_filterMap.mp hr
    exact ⟨body, host, hbody, Buffered.outgoing?_eq_some_iff.mp houtgoing⟩

namespace Handler

theorem requests_event (e : HandlerError) : Effect.requests [e.event] = [] := by
  unfold HandlerError.event
  simp only
  split
  · rfl
  · rfl

/-- Answering hands nothing to the client port but what the dispatch does. -/
theorem requests_routed (h : Handler) (out : Outside σ) (client : Option Net.Ip)
    (request : Http.Arrival) (s : Situation σ) :
    let marked := { request with headers := addForwarded request.headers client h.secure }
    Effect.requests (h.routed out client request s).effects =
      Effect.requests (h.dispatcher.dispatch out (some spanName) marked s).effects := by
  intro marked
  have hspan : Effect.requests [requestSpan request] = [] := rfl
  have hstatus (fields) : Effect.requests [.traced (.record spanName fields)] = [] := rfl
  have haround (es fs : List Effect) (fields) (hfs : Effect.requests fs = []) :
      Effect.requests ([requestSpan request] ++ es ++ fs ++ [.traced (.record spanName fields)]) =
        Effect.requests es := by
    simp only [Effect.requests_append, hspan, hfs, hstatus, List.nil_append, List.append_nil]
  unfold routed
  cases hresult : (h.dispatcher.dispatch out (some spanName) marked s).result with
  | ok response =>
    simp only [marked] at hresult
    simp only [hresult]
    exact haround _ _ _ rfl
  | error e =>
    simp only [marked] at hresult
    simp only [hresult]
    exact haround _ _ _ (requests_event _)

/-- Whatever is handed to the client port while a request is answered is a copy of the marked
request, without what belongs to one connection. -/
theorem copy_of_sent (h : Handler) (out : Outside σ) (timestamp : String) (client : Option Net.Ip)
    (request : Http.Arrival) (s : Situation σ) {r : Http.Request}
    (hr : r ∈ Effect.requests (h.handle out timestamp client request s).effects) :
    ∃ body uri, request.body.buffer h.dispatcher.maxBodyBytes = .ok body ∧
      r = ⟨request.method, uri, (addForwarded request.headers client h.secure).filter
        fun h => !Buffered.dropped.contains h.1, body⟩ := by
  let marked := { request with headers := addForwarded request.headers client h.secure }
  have hsent : r ∈ Effect.requests
      (h.dispatcher.dispatch out (some spanName) marked s).effects := by
    unfold handle at hr
    split at hr
    · cases hr
    · rwa [requests_routed] at hr
  obtain ⟨body, host, hbody, haddressed⟩ := h.dispatcher.addressed_of_sent out _ _ _ hsent
  obtain ⟨uri, -, rfl⟩ := Buffered.addressed_eq_ok_iff.mp haddressed
  exact ⟨body, uri, hbody, rfl⟩

/-- A request at the client port is faithful to the one that arrived: it has its method, its whole
body, and of each header, the forwarding chain apart, the values that are passed on. -/
structure Faithful (secure : Bool) (arrived : Http.Arrival) (r : Http.Request) : Prop where
  method : r.method = arrived.method
  whole : arrived.body.failure = none
  body : r.body = arrived.body.chunks.flatten
  headers : ∀ n ≠ Http.HeaderName.forwardedFor,
    r.headers.values n = passedOn secure arrived.headers n

/-- **Every host gets the same faithful request.**  Whatever is handed to the client port while a
request is answered is faithful to it, and any two of these requests differ in their URI at most. -/
theorem every_attempt_faithful (h : Handler) (out : Outside σ) (timestamp : String)
    (client : Option Net.Ip) (request : Http.Arrival) (s : Situation σ) :
    let sent := Effect.requests (h.handle out timestamp client request s).effects
    (∀ r ∈ sent, Faithful h.secure request r) ∧
      ∀ r ∈ sent, ∀ r' ∈ sent, r' = { r with uri := r'.uri } := by
  intro sent
  have hcopy {r : Http.Request} (hr : r ∈ sent) := h.copy_of_sent out timestamp client request s hr
  refine ⟨fun r hr => ?_, fun r hr r' hr' => ?_⟩
  · obtain ⟨body, uri, hbody, rfl⟩ := hcopy hr
    obtain ⟨-, hwhole, rfl⟩ := Http.BodyStream.buffer_eq_ok_iff.mp hbody
    exact ⟨rfl, hwhole, rfl, fun n hn => values_marked _ client _ hn⟩
  · obtain ⟨body, uri, hbody, rfl⟩ := hcopy hr
    obtain ⟨body', uri', hbody', rfl⟩ := hcopy hr'
    obtain rfl := Except.ok.inj (hbody.symm.trans hbody')
    rfl

/-- A request whose body comes in two chunks, with a header in two lines, a host, and a header of
its connection. -/
def tagged : Http.Arrival where
  method := .post
  uri := ⟨none, [], Utf8.ofText "/state/p"⟩
  headers := [(.host, Utf8.ofText "gw.example"), (⟨"x-tag", by decide⟩, Utf8.ofText "one"),
    (.connection, Utf8.ofText "close"), (⟨"x-tag", by decide⟩, Utf8.ofText "two")]
  body := ⟨[[1, 2], [3]], none⟩

/-- The first host refuses the request, and the second gets what the first one got. -/
theorem two_hosts_get_one_request :
    let h : Handler := ⟨Visit.byPath.dispatcher, true⟩
    let sent := Effect.requests
      (h.handle Failover.oneDown "now" none tagged ⟨0, .forgetful, ()⟩).effects
    sent.map (·.uri.text) = [Utf8.ofText "http://b/state/p", Utf8.ofText "http://a/state/p"] ∧
      ∀ r ∈ sent, r.body = [1, 2, 3] ∧
        r.headers.values ⟨"x-tag", by decide⟩ = [Utf8.ofText "one", Utf8.ofText "two"] ∧
        r.headers.values .connection = [] ∧ r.headers.values .host = [] ∧
        r.headers.values .forwardedHost = [Utf8.ofText "gw.example"] ∧
        r.headers.values .forwardedProto = [Utf8.ofText "https"] := by
  intro h sent
  refine ⟨by decide +kernel, fun r hr => ?_⟩
  obtain ⟨-, -, hbody, hheaders⟩ :=
    (every_attempt_faithful h Failover.oneDown "now" none tagged ⟨0, .forgetful, ()⟩).1 r hr
  refine ⟨hbody, ?_, ?_, ?_, ?_, ?_⟩
  · exact (hheaders _ (by decide)).trans (by decide +kernel)
  · exact (hheaders _ (by decide)).trans (by decide +kernel)
  · exact (hheaders _ (by decide)).trans (by decide +kernel)
  · exact (hheaders _ (by decide)).trans (by decide +kernel)
  · exact (hheaders _ (by decide)).trans (by decide +kernel)

end Handler
end AffinityGate
