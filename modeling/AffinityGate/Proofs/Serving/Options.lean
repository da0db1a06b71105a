import AffinityGate.Host.Client
import AffinityGate.Proofs.Serving.Forwarded

/-!
# Connection options

A request may list headers in its connection lines, as ones that belong to the connection that it
came on.  The gateway does not read these lines: `handle_erase_connection` says that it answers as
if they were not there.  It keeps a fixed list of headers back, whatever is listed, and
`option_kept_back_iff` says which of the listed ones do not go on.
-/

namespace AffinityGate

namespace Http

/-- The headers that are listed in connection lines, in any case and with any space around them. -/
def Headers.options (headers : Headers) : List HeaderName :=
  (FieldList.entriesOf (headers.values .connection)).filterMap HeaderName.ofBytes?

end Http

variable {σ : Type}

/-- Requests of which the same is passed on are dispatched alike. -/
theorem Dispatcher.dispatch_of_kept_eq {hs ks : Http.Headers}
    (h : hs.filter (fun h => !Buffered.dropped.contains h.1) =
      ks.filter fun h => !Buffered.dropped.contains h.1)
    (d : Dispatcher) (out : Outside σ) (span : Option String) (request : Http.Arrival)
    (s : Situation σ) :
    d.dispatch out span { request with headers := hs } s =
      d.dispatch out span { request with headers := ks } s := by
  simp only [dispatch, serve, Buffered.make, h]

namespace Handler

open Http (Headers HeaderName)

/-! ## What is not read -/

/-- Marking reads the host and the forwarding headers, and touches no header but the latter. -/
theorem addForwarded_erase {n : HeaderName} (hfor : .forwardedFor ≠ n) (hhost : .host ≠ n)
    (hfhost : .forwardedHost ≠ n) (hproto : .forwardedProto ≠ n) (headers : Headers)
    (client : Option Net.Ip) (secure : Bool) :
    addForwarded (headers.erase n) client secure =
      (addForwarded headers client secure).erase n := by
  have hchained : chained (headers.erase n) client = (chained headers client).erase n := by
    cases client with
    | none => rfl
    | some ip =>
      simp only [chained, forwardedFor, Headers.get?, Headers.values_erase_of_ne _ hfor]
      exact Headers.put_erase hfor _ _
  have hhosted (hs : Headers) : hosted (hs.erase n) = (hosted hs).erase n := by
    unfold hosted
    rw [Headers.has_erase_of_ne hfhost, Headers.get?, Headers.values_erase_of_ne _ hhost,
      ← Headers.get?]
    split
    · exact Headers.put_erase hfhost _ _
    · rfl
  rw [addForwarded_eq, addForwarded_eq, hchained, hhosted, Headers.putIfAbsent_erase hproto]

/-- A request is answered as if it had no connection lines: with the same response and the same
effects, among them the same requests to hosts, and in the same situation afterwards. -/
theorem handle_erase_connection (h : Handler) (out : Outside σ) (timestamp : String)
    (client : Option Net.Ip) (request : Http.Arrival) (s : Situation σ) :
    h.handle out timestamp client { request with headers := request.headers.erase .connection } s =
      h.handle out timestamp client request s := by
  have hkept : (addForwarded (request.headers.erase .connection) client h.secure).filter
        (fun h => !Buffered.dropped.contains h.1) =
      (addForwarded request.headers client h.secure).filter
        fun h => !Buffered.dropped.contains h.1 := by
    rw [addForwarded_erase (by decide) (by decide) (by decide) (by decide), Headers.erase,
      List.filter_filter]
    refine List.filter_congr fun field _ => ?_
    by_cases hconnection : field.1 = .connection
    · rw [hconnection]
      decide
    · simp [hconnection]
  have hspan : requestSpan { request with headers := request.headers.erase .connection } =
      requestSpan request := by
    simp only [requestSpan, Headers.get?,
      Headers.values_erase_of_ne request.headers (n := .connection) (m := .requestId) (by decide)]
  have hdispatch := Dispatcher.dispatch_of_kept_eq hkept h.dispatcher out (some spanName) request s
  simp only [handle, routed, hspan, hdispatch]

/-! ## What is passed on -/

/-- The headers that a request is marked with. -/
def marks (headers : Headers) (client : Option Net.Ip) : List HeaderName :=
  (if client.isSome then [.forwardedFor] else []) ++
    (if headers.has .host then [.forwardedHost] else []) ++ [.forwardedProto]

theorem mem_marks_iff {headers : Headers} {client : Option Net.Ip} {n : HeaderName} :
    n ∈ marks headers client ↔ n = .forwardedFor ∧ client.isSome ∨
      n = .forwardedHost ∧ headers.values .host ≠ [] ∨ n = .forwardedProto := by
  have hhost : headers.has .host = true ↔ headers.values .host ≠ [] := by
    rw [Ne, ← Headers.has_eq_false_iff, Bool.not_eq_false]
  rw [marks, List.mem_append, List.mem_append, List.mem_singleton, or_assoc, ← hhost]
  refine or_congr ?_ (or_congr_left ?_)
  · split <;> simp [*]
  · split <;> simp [*]

/-- A marked request has the headers that it came with and those that it is marked with. -/
theorem values_addForwarded_eq_nil_iff (headers : Headers) (client : Option Net.Ip) (secure : Bool)
    (n : HeaderName) : Headers.values (addForwarded headers client secure) n = [] ↔
      headers.values n = [] ∧ n ∉ marks headers client := by
  obtain ⟨hforHost, hforProto, hhostProto⟩ :
      HeaderName.forwardedFor ≠ .forwardedHost ∧ HeaderName.forwardedFor ≠ .forwardedProto ∧
        HeaderName.forwardedHost ≠ .forwardedProto := by decide
  rw [mem_marks_iff]
  by_cases hfor : n = .forwardedFor
  · subst hfor
    rw [values_addForwarded_for]
    cases client with
    | none => simp [chained, hforHost, hforProto]
    | some ip => simp [chained, Headers.values_put_self]
  · rw [values_addForwarded headers client secure hfor]
    by_cases hnone : headers.values n = []
    · rw [if_neg (not_not_intro hnone)]
      by_cases hhost : n = .forwardedHost
      · subst hhost
        simp [hnone, hfor, hhostProto]
      · by_cases hproto : n = .forwardedProto
        · subst hproto
          simp [hhostProto.symm]
        · simp [hnone, hfor, hhost, hproto]
    · simp [hnone]

/-- A request that is handed to the client port lacks the headers that are not passed on, and those
that it neither came with nor is marked with. -/
theorem values_of_sent_eq_nil_iff (h : Handler) (out : Outside σ) (timestamp : String)
    (client : Option Net.Ip) (request : Http.Arrival) (s : Situation σ) {r : Http.Request}
    (hr : r ∈ Effect.requests (h.handle out timestamp client request s).effects) (n : HeaderName) :
    r.headers.values n = [] ↔ n ∈ Buffered.dropped ∨
      request.headers.values n = [] ∧ n ∉ marks request.headers client := by
  obtain ⟨body, uri, -, rfl⟩ := h.copy_of_sent out timestamp client request s hr
  rw [Headers.values_filter _ fun n => !Buffered.dropped.contains n]
  by_cases hdropped : n ∈ Buffered.dropped
  · simp [hdropped]
  · rw [if_pos (by simpa using hdropped), values_addForwarded_eq_nil_iff]
    exact (or_iff_right hdropped).symm

/-- **What is kept back of a connection.**  Of the headers that the connection lines of a request
list, a request that is handed to the client port lacks just those on the fixed list of headers that
are not passed on and those that the request neither came with nor is marked with.  A header on the
list, the host apart, does not reach a peer either.  What the connection lines list decides nothing:
with other connection lines, or with none, a request is answered in the same way throughout. -/
theorem option_kept_back_iff (h : Handler) (out : Outside σ) (timestamp : String)
    (client : Option Net.Ip) (request : Http.Arrival) (s : Situation σ) :
    let sent := Effect.requests (h.handle out timestamp client request s).effects
    (∀ n ∈ request.headers.options, ∀ r ∈ sent,
      (r.headers.values n = [] ↔ n ∈ Buffered.dropped ∨
        request.headers.values n = [] ∧ n ∉ marks request.headers client)) ∧
    (∀ n ∈ request.headers.options, n ∈ Buffered.hopByHop → ∀ r ∈ sent, ∀ peer written answer,
      Client.send peer r = (some written, answer) → written.headers.values n = []) ∧
    ∀ headers : Headers, headers.erase .connection = request.headers.erase .connection →
      h.handle out timestamp client { request with headers := headers } s =
        h.handle out timestamp client request s := by
  intro sent
  have hlacks {r : Http.Request} (hr : r ∈ sent) :=
    h.values_of_sent_eq_nil_iff out timestamp client request s hr
  refine ⟨fun n _ r hr => hlacks hr n, fun n _ hhop r hr peer written answer hsend => ?_,
    fun headers hsame => ?_⟩
  · have hnames : ∀ n ∈ Buffered.hopByHop, n ≠ .host ∧ n ≠ .userAgent ∧ n ≠ .contentLength := by
      decide
    obtain ⟨hhost, hagent, hlength⟩ := hnames n hhop
    exact Client.values_of_send_eq_nil hsend hhost hagent hlength
      ((hlacks hr n).mpr (.inl (List.mem_cons_of_mem _ hhop)))
  · rw [← h.handle_erase_connection out timestamp client request s, ← hsame]
    exact (h.handle_erase_connection out timestamp client
      { request with headers := headers } s).symm

/-- A header of no special meaning. -/
def session : HeaderName := ⟨"x-session", by decide⟩

/-- A request with connection lines in front of other headers. -/
def listing (lines : List String) (headers : Headers) : Http.Arrival where
  method := .get
  uri := ⟨none, [], Utf8.ofText "/state/p"⟩
  headers := lines.map (fun line => (.connection, Utf8.ofText line)) ++ headers
  body := ⟨[], none⟩

/-- Two lines list, in mixed case and with space and empty entries, the host, two headers of the
connection and one that is none.  The latter is sent to both hosts, the others to neither, and
without the two lines the same is sent. -/
theorem two_lines_of_options :
    let headers : Headers := [(.host, Utf8.ofText "gw.example"), (.te, Utf8.ofText "trailers"),
      (.keepAlive, Utf8.ofText "timeout=5"), (session, Utf8.ofText "1")]
    let request := listing ["close , Keep-Alive,,", "\tTE,HOST , x-Session"] headers
    let s : Situation Unit := ⟨0, .forgetful, ()⟩
    let answered := pair.handle Failover.oneDown "now" none request s
    let sent := Effect.requests answered.effects
    sent.map (·.uri.text) = [Utf8.ofText "http://b/state/p", Utf8.ofText "http://a/state/p"] ∧
      (∀ n ∈ [HeaderName.keepAlive, .te, .host], n ∈ request.headers.options ∧
        ∀ r ∈ sent, r.headers.values n = []) ∧
      (session ∈ request.headers.options ∧ ∀ r ∈ sent, r.headers.values session ≠ []) ∧
      (∀ r ∈ sent, ∀ peer written answer, Client.send peer r = (some written, answer) →
        written.headers.values .te = []) ∧
      pair.handle Failover.oneDown "now" none (listing [] headers) s = answered := by
  intro headers request s answered sent
  have hlisted : ∀ n ∈ [HeaderName.keepAlive, .te, .host, session],
      n ∈ request.headers.options := by decide +kernel
  obtain ⟨hcarried, hreceived, hsame⟩ :=
    option_kept_back_iff pair Failover.oneDown "now" none request s
  have hte : HeaderName.te ∈ request.headers.options := hlisted _ (by decide)
  have hsession : session ∈ request.headers.options := hlisted _ (by decide)
  refine ⟨by decide +kernel, fun n hn => ?_, ⟨hsession, fun r hr hnone => ?_⟩,
    hreceived _ hte (by decide), hsame headers (by decide +kernel)⟩
  · have hn' : n ∈ request.headers.options := hlisted n (by revert hn n; decide)
    have hdropped : n ∈ Buffered.dropped := by revert hn n; decide
    exact ⟨hn', fun r hr => (hcarried n hn' r hr).mpr (.inl hdropped)⟩
  · revert hnone
    rw [hcarried session hsession r hr]
    decide +kernel

/-- A header that is listed and on no fixed list is sent. -/
theorem listed_header_sent :
    ¬∀ (h : Handler) (out : Outside Unit) (timestamp : String) (client : Option Net.Ip)
      (request : Http.Arrival) (s : Situation Unit), ∀ n ∈ request.headers.options,
      ∀ r ∈ Effect.requests (h.handle out timestamp client request s).effects,
        r.headers.values n = [] := by
  intro hall
  have hnone := hall pair Failover.oneDown "now" none
    (listing ["close, X-Session"] [(session, Utf8.ofText "1")]) ⟨0, .forgetful, ()⟩ session
    (by decide +kernel)
  revert hnone
  decide +kernel

end Handler
end AffinityGate
