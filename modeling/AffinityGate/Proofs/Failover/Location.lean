import Mathlib.Data.Nat.Basic
import AffinityGate.Proofs.Dispatch.Affinity
import AffinityGate.Proofs.Host.Origin

/-!
# One URL for redirect and proxy

In redirect mode the client is given the base URL of the first candidate with the path and query
behind it, as text.  In proxy mode the same text is read as a request target and the request is
addressed at what was read, which is written out again on the way to the host.
`redirect_leads_where_proxy_goes` says that both are one URL, whatever form the inbound target has.
-/

namespace AffinityGate

/-! ## Targets as header values -/

namespace Http.Uri

/-- Bytes of paths, queries and authorities can stand in header values. -/
theorem isValueByte_of_target {b : UInt8}
    (h : isPathByte b = true ∨ isQueryByte b = true ∨ isAuthorityByte b = true) :
    isValueByte b = true := by
  have hall : ∀ b, isPathByte b = true ∨ isQueryByte b = true ∨ isAuthorityByte b = true →
      isValueByte b = true := forall_byte (by decide +kernel)
  exact hall b h

theorem IsTarget.isHeaderValue {t : Bytes} (h : IsTarget t) : isHeaderValue t = true := by
  refine List.all_eq_true.mpr fun b hb => ?_
  rw [← pathPart_append_queryPart t] at hb
  rcases List.mem_append.mp hb with hpath | hquery
  · exact isValueByte_of_target (Or.inl (h.path b hpath))
  · rcases queryPart_cases t with hnil | ⟨q, hq⟩
    · rw [hnil] at hquery
      cases hquery
    · have hbytes := h.query
      rw [hq] at hquery hbytes
      rcases List.mem_cons.mp hquery with rfl | hmem
      · rfl
      · exact isValueByte_of_target (Or.inr (Or.inl (hbytes b hmem)))

/-- What is seen of an authority without an error is one of its bytes, or starts an escape. -/
theorem byte_of_step {s s' : Seen} {b : UInt8} (h : s.step b = .ok s') :
    isAuthorityByte b = true ∨ b = 0x25 := by
  by_cases hb : isAuthorityByte b = true
  · exact Or.inl hb
  · refine Or.inr (Classical.not_not.mp fun hescape => ?_)
    -- The colon, the brackets and the at sign are authority bytes, so this one is refused.
    have hother : b ≠ 0x3A ∧ b ≠ 0x5B ∧ b ≠ 0x5D ∧ b ≠ 0x40 := by
      refine ⟨?_, ?_, ?_, ?_⟩ <;> rintro rfl <;> exact hb rfl
    simp [Seen.step, hother, hescape, hb] at h

theorem byte_of_foldlM {authority : Bytes} {s s' : Seen}
    (h : authority.foldlM Seen.step s = .ok s') :
    ∀ b ∈ authority, isAuthorityByte b = true ∨ b = 0x25 := by
  induction authority generalizing s with
  | nil => exact List.forall_mem_nil _
  | cons b authority ih =>
    rw [List.foldlM_cons] at h
    obtain ⟨s₁, hstep, hrest⟩ := bind_eq_ok_iff.mp h
    exact List.forall_mem_cons.mpr ⟨byte_of_step hstep, ih hrest⟩

theorem IsAuthority.byte {authority : Bytes} (h : IsAuthority authority) :
    ∀ b ∈ authority, isAuthorityByte b = true ∨ b = 0x25 := by
  obtain ⟨seen, hseen, -⟩ := h.complete
  exact byte_of_foldlM hseen

theorem IsAuthority.isHeaderValue {authority : Bytes} (h : IsAuthority authority) :
    isHeaderValue authority = true := by
  refine List.all_eq_true.mpr fun b hb => ?_
  rcases h.byte b hb with hauthority | rfl
  · exact isValueByte_of_target (Or.inr (Or.inr hauthority))
  · rfl

end Http.Uri

open Http.Uri (IsTarget afterScheme)

theorem Http.isHeaderValue_append (xs ys : Bytes) :
    isHeaderValue (xs ++ ys) = (isHeaderValue xs && isHeaderValue ys) :=
  List.all_append

/-- What is joined to an accepted base URL and read as a target can be a location. -/
theorem HostUrl.isHeaderValue_join {raw : String} {h : HostUrl} (hraw : parse raw = .ok h)
    {pathAndQuery : Bytes} (ht : IsTarget pathAndQuery) {u : Http.Uri}
    (hu : Http.Uri.parse (h.join pathAndQuery) = .ok u) :
    Http.isHeaderValue (h.join pathAndQuery) = true := by
  have hlen := Http.Uri.length_le_of_parse hu
  obtain ⟨rest, hjoin, hrest⟩ := h.exists_join ht
  obtain ⟨scheme, authority, path, hp, hquestion, hnumber⟩ := exists_parts hraw
  rw [hjoin] at hlen hu ⊢
  obtain ⟨⟨hauthority, hpath⟩, -⟩ := (hp.parse_iff hquestion hnumber hrest hlen).mp hu
  have hscheme : Http.isHeaderValue (afterScheme scheme []) = true := by
    have hall : ∀ scheme ∈ Http.Uri.webSchemes,
        Http.isHeaderValue (afterScheme scheme []) = true := by decide +kernel
    exact hall scheme hp.web
  have htail : Http.isHeaderValue (path ++ 0x2F :: rest) = true := by
    rw [Http.isHeaderValue_append, hrest.isHeaderValue, Bool.and_true]
    exact List.all_eq_true.mpr fun b hb => Http.Uri.isValueByte_of_target (Or.inl (hpath b hb))
  have hsplit : afterScheme scheme (authority ++ (path ++ 0x2F :: rest)) =
      afterScheme scheme [] ++ (authority ++ (path ++ 0x2F :: rest)) := by
    simp [afterScheme]
  rw [hp.written_slash, hsplit, Http.isHeaderValue_append, Http.isHeaderValue_append, hscheme,
    hauthority.isHeaderValue, htail]
  rfl

namespace Failover

variable {σ : Type}

/-- Proxy mode hands the client port the first candidate's request first. -/
theorem requests_proxy_cons {out : Outside σ} {limit : Duration} {request : Buffered}
    {first : Host} {outgoing : Http.Request} (h : request.addressed first = .ok outgoing)
    (rest : List Host) (w : σ) :
    ∃ more, Effect.requests (proxy out limit request (first :: rest) w).effects =
      outgoing :: more := by
  obtain ⟨tried, hne, hprefix, htried, -⟩ :=
    @tried_of_pass σ out limit request (first :: rest) (List.cons_ne_nil first rest) w
  rcases List.prefix_cons_iff.mp hprefix with hnil | ⟨more, rfl, -⟩
  · exact absurd hnil hne
  · refine ⟨more.filterMap request.outgoing?, ?_⟩
    rw [proxy, htried.1, List.filterMap_cons_some (Buffered.outgoing?_eq_some_iff.mpr h)]

/-- **A redirect leads where the proxy goes.**  Whatever target comes in and whatever is built from
it, if the request can be addressed at the first candidate, an accepted host, then in redirect mode
the client is sent to one location, and that is the URL, written out, of the request that is handed
to the client port first in proxy mode. -/
theorem redirect_leads_where_proxy_goes {raw : String} {first : Host}
    (hraw : HostUrl.parse raw = .ok first.url) {bs : Bytes} {uri : Http.Uri}
    (hin : Http.Uri.parse bs = .ok uri) (method : Http.Method) (headers : Http.Headers)
    (body : Bytes) {outgoing : Http.Request}
    (hout : (Buffered.make method (Dispatcher.pathAndQuery uri) headers body).addressed first =
      .ok outgoing) (rest : List Host) (out : Outside σ) (limit : Duration) (w : σ) :
    let request := Buffered.make method (Dispatcher.pathAndQuery uri) headers body
    (∃ served, (execute out limit .redirect request (first :: rest) w).result = .ok served ∧
      served.host = first ∧ served.response.headers.values .location = [outgoing.uri.text]) ∧
    ∃ more, Effect.requests (execute out limit .proxy request (first :: rest) w).effects =
      outgoing :: more := by
  intro request
  refine ⟨?_, requests_proxy_cons hout rest w⟩
  have htarget : IsTarget (Dispatcher.pathAndQuery uri) := Http.Uri.isTarget_pathAndQuery hin
  obtain ⟨u, hu, houtgoing⟩ := Buffered.addressed_eq_ok_iff.mp hout
  have htext : outgoing.uri.text = first.url.join (Dispatcher.pathAndQuery uri) := by
    rw [houtgoing]
    exact (HostUrl.parse_join_iff hraw htarget (Http.Uri.length_le_of_parse hu)).2 u hu
  have hvalue := HostUrl.isHeaderValue_join hraw htarget hu
  refine ⟨⟨⟨307, [(.location, outgoing.uri.text)], []⟩, first, 0⟩, ?_, rfl, rfl⟩
  rw [htext, execute, redirect]
  exact congrArg Finished.result (if_pos hvalue)

/-- An absolute target without a path is sent below the base path of the first candidate, and an
empty query stays a query. -/
theorem query_alone_leads_below_base :
    let first : Host := ⟨some 0, HostUrl.ofRaw Buffered.baseWithPath⟩
    let uri : Http.Uri := ⟨some (Utf8.ofText "http"), Utf8.ofText "gw:80", Utf8.ofText "?"⟩
    let request := Buffered.make .post (Dispatcher.pathAndQuery uri) [] [7]
    ∃ outgoing, HostUrl.parse Buffered.baseWithPath = .ok first.url ∧
      Http.Uri.parse (Utf8.ofText "http://gw:80?") = .ok uri ∧
      request.addressed first = .ok outgoing ∧
      outgoing.uri.text = Utf8.ofText "https://cu1.example:8443/base/?" ∧
      ∃ served, (execute oneDown (.ofMillis 5) .redirect request [first] ()).result = .ok served ∧
        served.response.headers.values .location = [outgoing.uri.text] := by
  intro first uri request
  have hraw : HostUrl.parse Buffered.baseWithPath = .ok first.url :=
    HostUrl.parse_of_no_fault (by decide +kernel)
  have hin : Http.Uri.parse (Utf8.ofText "http://gw:80?") = .ok uri := by decide +kernel
  let target : Http.Uri :=
    ⟨some (Utf8.ofText "https"), Utf8.ofText "cu1.example:8443", Utf8.ofText "/base/?"⟩
  have hout : request.addressed first = .ok ⟨.post, target, [], [7]⟩ :=
    Buffered.addressed_eq_ok_iff.mpr ⟨target, by decide +kernel, rfl⟩
  obtain ⟨⟨served, hserved, -, hlocation⟩, -⟩ :=
    redirect_leads_where_proxy_goes hraw hin .post [] [7] hout [] oneDown (.ofMillis 5) ()
  exact ⟨_, hraw, hin, hout, by decide +kernel, served, hserved, hlocation⟩

end Failover
end AffinityGate
