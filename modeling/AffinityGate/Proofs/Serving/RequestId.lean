import Mathlib.Tactic.Push
import AffinityGate.Host.Client
import AffinityGate.Proofs.Serving.Faithful
import AffinityGate.Proofs.Text.Pieces
import AffinityGate.Proofs.Text.Utf8
import AffinityGate.Serving.App

/-!
# One request, one id

The id of a request is settled before the request is marked, buffered and addressed at one host
after another, and it is put on the response after all that.  `one_id_end_to_end` says that it is
the same everywhere, and that no other is left beside it.  The routes of the server make a
difference to targets without a path only (`serve_of_routed`, `serve_of_not_routed`).
-/

namespace AffinityGate.App

open Http (Headers HeaderName)

variable {σ : Type}

/-! ## Fresh ids -/

/-- Whether a byte is a lower-case hexadecimal digit. -/
def isLowerHex (b : UInt8) : Bool :=
  (0x30 ≤ b && b ≤ 0x39) || (0x61 ≤ b && b ≤ 0x66)

/-- Whether bytes are the text of a UUID: lower-case digits in groups of eight, four, four, four and
twelve, with hyphens between the groups. -/
def isUuid (text : Bytes) : Bool :=
  (pieces 0x2D text).map List.length == [8, 4, 4, 4, 12]
    && (pieces 0x2D text).all fun group => group.all isLowerHex

theorem isUuid_iff {text : Bytes} : isUuid text = true ↔
    (pieces 0x2D text).map List.length = [8, 4, 4, 4, 12] ∧
      ∀ group ∈ pieces 0x2D text, ∀ b ∈ group, isLowerHex b = true := by
  simp [isUuid]

theorem ne_nil_of_isUuid {text : Bytes} (h : isUuid text = true) : text ≠ [] := by
  rintro rfl
  cases h

theorem isHeaderValue_of_isUuid {text : Bytes} (h : isUuid text = true) :
    Http.isHeaderValue text = true := by
  have hdigit : ∀ b, b = 0x2D ∨ isLowerHex b = true → Http.isValueByte b = true :=
    forall_byte (by decide +kernel)
  refine List.all_eq_true.mpr fun b hb => hdigit b ?_
  exact forall_mem_pieces_iff.mp (isUuid_iff.mp h).2 b hb

/-! ## The id of a request -/

/-- The id of a request is the first that it brings along, unless that is empty. -/
theorem requestId_of_brought {headers : Headers} {v : Bytes}
    (h : headers.get? .requestId = some v) (hne : v ≠ []) (fresh : Bytes) :
    requestId headers fresh = v := by
  simp only [requestId, h, List.isEmpty_iff, if_neg hne]

/-- A request that brings none along, or an empty one, gets a fresh id. -/
theorem requestId_of_not_brought {headers : Headers}
    (h : ∀ v ∈ headers.get? .requestId, v = []) (fresh : Bytes) :
    requestId headers fresh = fresh := by
  cases hget : headers.get? .requestId with
  | none => simp only [requestId, hget]
  | some v =>
    rw [h v hget] at hget
    simp only [requestId, hget, List.isEmpty_nil, if_true]

theorem requestId_cases (headers : Headers) (fresh : Bytes) :
    (requestId headers fresh ≠ [] ∧
        headers.get? .requestId = some (requestId headers fresh)) ∨
      requestId headers fresh = fresh := by
  by_cases h : ∀ v ∈ headers.get? .requestId, v = []
  · exact .inr (requestId_of_not_brought h fresh)
  · push Not at h
    obtain ⟨v, hv, hne⟩ := h
    rw [requestId_of_brought hv hne fresh]
    exact .inl ⟨hne, hv⟩

theorem requestId_ne_nil (headers : Headers) {fresh : Bytes} (h : fresh ≠ []) :
    requestId headers fresh ≠ [] := by
  rcases requestId_cases headers fresh with hbrought | hfresh
  · exact hbrought.1
  · rwa [hfresh]

theorem isHeaderValue_requestId {headers : Headers} {fresh : Bytes}
    (hheaders : ∀ field ∈ headers, Http.isHeaderValue field.2 = true)
    (hfresh : Http.isHeaderValue fresh = true) :
    Http.isHeaderValue (requestId headers fresh) = true := by
  rcases requestId_cases headers fresh with hbrought | hid
  · exact hheaders _ (Headers.mem_values_iff.mp (List.mem_of_mem_head? hbrought.2))
  · rwa [hid]

/-! ## Where it goes -/

/-- A request is answered under one id: that is the id of everything that is handed to the client
port, of everything that a peer receives from there, and of the response, and nothing has
another. -/
structure UnderOneId (v : Bytes) (a : Answered σ Http.Response) : Prop where
  sent : ∀ r ∈ Effect.requests a.effects, r.headers.values .requestId = [v]
  received : ∀ r ∈ Effect.requests a.effects, ∀ peer written answer,
    Client.send peer r = (some written, answer) → written.headers.values .requestId = [v]
  told : a.result.headers.values .requestId = [v]

/-- An id is neither part of a connection nor filled in, so it is passed on. -/
theorem passedOn_requestId (secure : Bool) {headers : Headers} {v : Bytes}
    (h : headers.values .requestId = [v]) : Handler.passedOn secure headers .requestId = [v] := by
  rw [Handler.passedOn, if_neg (by decide), if_pos (by simp [h]), h]

/-- Whatever is handed to the client port has the id of the request that the handler got. -/
theorem requestId_of_sent (h : Handler) (out : Outside σ) (timestamp : String)
    (client : Option Net.Ip) {request : Http.Arrival} {v : Bytes}
    (hid : request.headers.values .requestId = [v]) (s : Situation σ) {r : Http.Request}
    (hr : r ∈ Effect.requests (h.handle out timestamp client request s).effects) :
    r.headers.values .requestId = [v] := by
  obtain ⟨body, uri, -, rfl⟩ := h.copy_of_sent out timestamp client request s hr
  exact (Handler.values_marked _ client h.secure (by decide)).trans (passedOn_requestId _ hid)

/-- The request as the handler gets it. -/
def identified (fresh : Bytes) (request : Http.Arrival) : Http.Arrival :=
  { request with headers := request.headers.put .requestId (requestId request.headers fresh) }

/-- The layers hand nothing to the client port but what they are around does. -/
theorem requests_layered (fresh : Bytes)
    (next : Http.Arrival → Situation σ → Answered σ Http.Response) (request : Http.Arrival)
    (s : Situation σ) :
    Effect.requests (layered fresh next request s).effects =
      Effect.requests (next (identified fresh request) s).effects := by
  have haround (b : Effect) (es fs : List Effect) (hb : Effect.requests [b] = [])
      (hfs : Effect.requests fs = []) :
      Effect.requests (b :: es ++ fs) = Effect.requests es := by
    rw [Effect.requests_append, ← List.singleton_append, Effect.requests_append, hb, hfs,
      List.nil_append, List.append_nil]
  exact haround _ _ _ rfl rfl

/-- Whatever the layers are around, the response has the id of the request alone. -/
theorem requestId_of_layered (fresh : Bytes)
    (next : Http.Arrival → Situation σ → Answered σ Http.Response) (request : Http.Arrival)
    (s : Situation σ) :
    (layered fresh next request s).result.headers.values .requestId =
      [requestId request.headers fresh] := by
  unfold layered framed withRequestId
  rw [Headers.values_putIfAbsent, if_neg fun h => absurd h.1 (by decide), Headers.values_put_self]

/-- A request is answered under its id if the layers are around something that sends it on only. -/
theorem underOneId_layered {fresh : Bytes}
    {next : Http.Arrival → Situation σ → Answered σ Http.Response} {request : Http.Arrival}
    {s : Situation σ}
    (hnext : ∀ r ∈ Effect.requests (next (identified fresh request) s).effects,
      r.headers.values .requestId = [requestId request.headers fresh]) :
    UnderOneId (requestId request.headers fresh) (layered fresh next request s) where
  sent := by
    rw [requests_layered]
    exact hnext
  received := by
    intro r hr peer written answer hsend
    rw [requests_layered] at hr
    rw [Client.values_of_send hsend (by decide) (by decide) (by decide) (by decide), hnext r hr]
  told := requestId_of_layered fresh next request s

/-- What the handler sends for a request that has got its id has that id. -/
theorem requestId_of_identified (h : Handler) (out : Outside σ) (timestamp : String)
    (fresh : Bytes) (client : Option Net.Ip) (request : Http.Arrival) (s : Situation σ) :
    ∀ r ∈ Effect.requests (h.handle out timestamp client (identified fresh request) s).effects,
      r.headers.values .requestId = [requestId request.headers fresh] :=
  fun _ hr => requestId_of_sent h out timestamp client (Headers.values_put_self _ _ _) s hr

/-- **One id from end to end.**  Every request is answered under one id, which is not empty and can
stand in a header.  It is the first id that the request brings along, unless that is empty or
missing; then it is the fresh one, which is the text of a UUID. -/
theorem one_id_end_to_end (h : Handler) (out : Outside σ) (timestamp : String) {fresh : Bytes}
    (hfresh : isUuid fresh = true) (client : Option Net.Ip) (request : Http.Arrival)
    (s : Situation σ) :
    ∃ v, v ≠ [] ∧
      ((∀ field ∈ request.headers, Http.isHeaderValue field.2 = true) →
        Http.isHeaderValue v = true) ∧
      (∀ brought, request.headers.get? .requestId = some brought → brought ≠ [] → v = brought) ∧
      ((∀ brought, request.headers.get? .requestId = some brought → brought = []) → v = fresh) ∧
      UnderOneId v (handle h out timestamp fresh client request s) := by
  refine ⟨requestId request.headers fresh, requestId_ne_nil _ (ne_nil_of_isUuid hfresh),
    fun hheaders => isHeaderValue_requestId hheaders (isHeaderValue_of_isUuid hfresh),
    fun brought hget hne => requestId_of_brought hget hne fresh,
    fun hempty => requestId_of_not_brought hempty fresh, ?_⟩
  exact underOneId_layered (requestId_of_identified h out timestamp fresh client request s)

/-- An outside in which the host `b` refuses connections, and every other host answers with ids of
its own. -/
def tagging : Outside Unit :=
  { Failover.oneDown with
    serve := fun r w =>
      if r.uri.authority = Utf8.ofText "b" then (.after 5 (.error (.connection "refused")), w)
      else (.after 7 (.ok ⟨200, [(.requestId, Utf8.ofText "one"), (.requestId, Utf8.ofText "two")],
        []⟩), w) }

/-- The id that the request brings along is empty, so what it brings in a second line and what the
second host answers give way to a fresh one, which reached both hosts. -/
theorem one_id_over_two_hosts :
    let fresh := Utf8.ofText "67e55044-10b1-426f-9247-bb680e5fe0c8"
    let request : Http.Arrival := ⟨.get, ⟨none, [], Utf8.ofText "/state/p"⟩,
      [(.requestId, []), (.requestId, Utf8.ofText "second")], .ofBytes []⟩
    let a := handle ⟨Visit.byPath.dispatcher, true⟩ tagging "now" fresh none request
      ⟨0, .forgetful, ()⟩
    isUuid fresh = true ∧ a.result.status = 200 ∧
      (Effect.requests a.effects).map (·.uri.text) =
        [Utf8.ofText "http://b/state/p", Utf8.ofText "http://a/state/p"] ∧
      UnderOneId fresh a := by
  intro fresh request a
  have hfresh : isUuid fresh = true := by decide +kernel
  obtain ⟨v, -, -, -, hempty, hid⟩ := one_id_end_to_end ⟨Visit.byPath.dispatcher, true⟩ tagging
    "now" hfresh none request ⟨0, .forgetful, ()⟩
  have hv : v = fresh := hempty fun brought hget => (Option.some.inj hget).symm
  exact ⟨hfresh, by decide +kernel, by decide +kernel, hv ▸ hid⟩

/-! ## Routes -/

/-- The routes make no difference to a target that one of them leads to. -/
theorem serve_of_routed (h : Handler) (out : Outside σ) (timestamp : String) (fresh : Bytes)
    (client : Option Net.Ip) {request : Http.Arrival} (hrouted : isRouted request.uri = true)
    (s : Situation σ) :
    serve h out timestamp fresh client request s =
      handle h out timestamp fresh client request s := by
  simp only [serve, handle, layered, withRequestId, withTiming, routed, hrouted, if_true]

/-- A target that no route leads to is not found.  Nothing is sent or changed for it, and the
response has the id of the request as any other. -/
theorem serve_of_not_routed (h : Handler) (out : Outside σ) (timestamp : String) (fresh : Bytes)
    (client : Option Net.Ip) {request : Http.Arrival} (hrouted : isRouted request.uri = false)
    (s : Situation σ) :
    let a := serve h out timestamp fresh client request s
    a.result.status = 404 ∧ a.result.body = [] ∧ a.after = s ∧ Effect.requests a.effects = [] ∧
      UnderOneId (requestId request.headers fresh) a := by
  have hnext : routed (h.handle out timestamp client) (identified fresh request) s =
      ⟨⟨404, [], []⟩, [], s⟩ := by
    rw [routed, identified, if_neg (by simp [hrouted])]
  intro a
  refine ⟨?_, ?_, ?_, ?_, ?_⟩
  · exact congrArg (·.result.status) hnext
  · show (if request.method = .head then [] else (routed (h.handle out timestamp client)
      (identified fresh request) s).result.body) = []
    rw [hnext]
    exact ite_self _
  · exact congrArg (·.after) hnext
  · rw [show a = layered fresh _ request s from rfl, requests_layered, hnext]
    rfl
  · apply underOneId_layered
    rw [hnext]
    simp [Effect.requests]

end AffinityGate.App
