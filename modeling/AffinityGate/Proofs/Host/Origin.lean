import AffinityGate.Proofs.Host.Addressed
import AffinityGate.Proofs.Url.Below

/-!
# Requests stay at their host

The path and query of a request comes from the client, and is appended to the base URL of a host as
text.  `stays_at_host` says that it has no say in where the request goes: whatever it is, a request
that can be addressed has the scheme and the authority of the base URL, and so has the location that
a client is redirected to, also for a reader that forgives more than the gateway does.
-/

namespace AffinityGate

open Http.Uri (pathPart)

namespace HostUrl

variable {h : HostUrl} {scheme : String} {authority path : Bytes}

/-- What is read goes to this scheme and this authority, and its path starts with this base path and
a slash. -/
structure Below (scheme : String) (authority base : Bytes) (u : Http.Uri) : Prop where
  scheme : u.scheme = some (Utf8.ofText scheme)
  authority : u.authority = authority
  path : base ++ [0x2F] <+: u.path

/-- Whatever is joined is joined behind a slash. -/
theorem exists_join_slash (h : HostUrl) (pathAndQuery : Bytes) :
    ∃ rest, h.join pathAndQuery = Utf8.ofText h.text ++ 0x2F :: rest := by
  unfold join
  split
  · exact ⟨_, rfl⟩
  · exact ⟨pathAndQuery, rfl⟩

/-- Whatever stands behind the slash, what is read has the scheme and the authority of the base URL,
which is one of request targets too. -/
theorem Parts.of_parse (hp : h.Parts scheme authority path) {rest : Bytes} {u : Http.Uri}
    (hu : Http.Uri.parse (Utf8.ofText h.text ++ 0x2F :: rest) = .ok u) :
    Http.Uri.IsAuthority authority ∧ ∃ target,
      Http.Uri.checkTarget (path ++ 0x2F :: rest) = .ok target ∧
      u = ⟨some (Utf8.ofText scheme), authority, target⟩ := by
  have hlen := Http.Uri.length_le_of_parse hu
  rw [hp.written_slash] at hlen hu
  exact (Http.Uri.parse_web_iff hp.web hp.undelimited (hp.delimited rest) hlen).mp hu

/-- Whatever stands behind the slash, what is read is below the base URL. -/
theorem Parts.below (hp : h.Parts scheme authority path) (hquestion : 0x3F ∉ path)
    (hnumber : 0x23 ∉ path) {rest : Bytes} {u : Http.Uri}
    (hu : Http.Uri.parse (Utf8.ofText h.text ++ 0x2F :: rest) = .ok u) :
    Below scheme authority path u := by
  obtain ⟨-, target, htarget, rfl⟩ := hp.of_parse hu
  -- A fragment is dropped, but only from behind the slash.
  have hkeep : ∀ b ∈ path, (b != 0x23) = true := fun b hb =>
    bne_iff_ne.mpr fun heq => hnumber (heq ▸ hb)
  have hkept : target = path ++ 0x2F :: rest.takeWhile (· != 0x23) := by
    rw [(Http.Uri.checkTarget_eq_ok_iff.mp htarget).1, List.takeWhile_append_of_pos hkeep]
    rfl
  have hpath : pathPart target = path ++ 0x2F :: pathPart (rest.takeWhile (· != 0x23)) := by
    rw [hkept, Http.Uri.pathPart_append hquestion]
    rfl
  refine ⟨rfl, rfl, pathPart (rest.takeWhile (· != 0x23)), ?_⟩
  rw [Http.Uri.path, if_neg (by simp), hpath, List.append_assoc]
  simp

/-- What is read of an accepted base URL with anything behind a slash has the origin of the base
URL. -/
theorem sameOrigin_of_slash {raw : String} (hraw : parse raw = .ok h) {origin : Url}
    (horigin : Url.parse h.text.toList = .ok origin) {rest : Bytes} {cs : List Char}
    (hcs : Utf8.decode? (Utf8.ofText h.text ++ 0x2F :: rest) = some cs) {u : Url}
    (hu : Url.parse cs = .ok u) : u.SameOrigin origin := by
  obtain ⟨start, hs, tail, htext, -⟩ := text_of_accepted hraw
  have hslash : Utf8.ofText h.text ++ 0x2F :: rest =
      Utf8.encode (h.text.toList ++ ['/']) ++ rest := by
    rw [Utf8.ofText, Utf8.encode, Utf8.encode, List.flatMap_append, List.append_assoc]
    rfl
  rw [hslash, Utf8.decode?_encode_append] at hcs
  obtain ⟨more, -, rfl⟩ := Option.map_eq_some_iff.mp hcs
  rw [htext] at horigin
  rw [htext, List.append_assoc, List.append_assoc] at hu
  exact Url.sameOrigin_of_below hs horigin hu

end HostUrl

namespace Buffered

/-- Where a client is redirected to: the first candidate's URL for the request. -/
theorem location_of_redirect {σ : Type} {request : Buffered} {host : Host} {rest : List Host}
    {w : σ} {served : Dispatched}
    (h : (Failover.redirect request (host :: rest) w).result = .ok served) :
    served.response.headers.values .location = [host.url.join request.pathAndQuery] := by
  unfold Failover.redirect at h
  simp only at h
  split at h
  · cases h
    rfl
  · cases h

/-- **The client cannot choose the authority.**  An accepted base URL has one scheme, one authority
and one base path, and one origin.  Whatever is asked for, a request that can be addressed there
goes to this scheme and this authority, below the base path; and a redirect there leads to the base
URL with a slash behind it and more after that, which is read, if at all, as a URL of this
origin. -/
theorem stays_at_host {raw : String} {host : Host} (hraw : HostUrl.parse raw = .ok host.url) :
    ∃ (scheme : String) (authority base : Bytes) (origin : Url),
      host.url.Parts scheme authority base ∧ Url.parse host.url.text.toList = .ok origin ∧
      ∀ request : Buffered,
        (∀ outgoing, request.addressed host = .ok outgoing →
          HostUrl.Below scheme authority base outgoing.uri) ∧
        ∀ {σ : Type} (rest : List Host) (w : σ) (served : Dispatched),
          (Failover.redirect request (host :: rest) w).result = .ok served →
          ∃ location, served.response.headers.values .location = [location] ∧
            Utf8.ofText host.url.text ++ [0x2F] <+: location ∧
            (∀ u, Http.Uri.parse location = .ok u → HostUrl.Below scheme authority base u) ∧
            ∀ cs u, Utf8.decode? location = some cs → Url.parse cs = .ok u →
              u.SameOrigin origin := by
  obtain ⟨scheme, authority, base, hparts, hquestion, hnumber⟩ := HostUrl.exists_parts hraw
  obtain ⟨-, ⟨origin, horigin, -⟩, hurl⟩ := HostUrl.parse_eq_ok_iff.mp hraw
  have htext : host.url.text.toList = HostUrl.stored raw.toList := by
    rw [hurl, HostUrl.ofRaw, String.toList_ofList]
  rw [← htext] at horigin
  refine ⟨scheme, authority, base, origin, hparts, horigin, fun request => ?_⟩
  obtain ⟨more, hjoin⟩ := host.url.exists_join_slash request.pathAndQuery
  constructor
  · intro outgoing haddressed
    obtain ⟨u, hu, rfl⟩ := addressed_eq_ok_iff.mp haddressed
    rw [hjoin] at hu
    exact hparts.below hquestion hnumber hu
  · intro _ rest w served hserved
    have hlocation := location_of_redirect hserved
    rw [hjoin] at hlocation
    refine ⟨_, hlocation, ⟨more, by simp⟩, fun u hu => hparts.below hquestion hnumber hu, ?_⟩
    exact fun cs u hcs hu => HostUrl.sameOrigin_of_slash hraw horigin hcs hu

theorem exists_of_isOk {ε α : Type} {e : Except ε α} (h : e.isOk = true) : ∃ v, e = .ok v := by
  cases e with
  | error _ => cases h
  | ok v => exact ⟨v, rfl⟩

/-- A request with a path and query. -/
def asking (pathAndQuery : String) : Buffered :=
  make .get (Utf8.ofText pathAndQuery) [] []

/-- Neither a user name nor a second authority nor a backslash leads away from a base URL. -/
theorem foreign_authority_in_path :
    ∃ host first second served location, HostUrl.parse baseWithPath = .ok host.url ∧
      (asking "@evil.example").addressed host = .ok first ∧
      (asking "//evil.example").addressed host = .ok second ∧
      first.uri.authority = second.uri.authority ∧
      (Failover.redirect (asking "\\evil.example") [host] ()).result = .ok served ∧
      served.response.headers.values .location = [location] ∧
      Utf8.ofText "https://cu1.example:8443/base/" <+: location := by
  have hraw : HostUrl.parse baseWithPath = .ok (HostUrl.ofRaw baseWithPath) :=
    HostUrl.parse_of_no_fault (by decide +kernel)
  let host : Host := ⟨some 0, HostUrl.ofRaw baseWithPath⟩
  obtain ⟨first, hfirst⟩ : ∃ r, (asking "@evil.example").addressed host = .ok r :=
    exists_of_isOk (by decide +kernel)
  obtain ⟨second, hsecond⟩ : ∃ r, (asking "//evil.example").addressed host = .ok r :=
    exists_of_isOk (by decide +kernel)
  obtain ⟨served, hserved⟩ :
      ∃ s, (Failover.redirect (asking "\\evil.example") [host] ()).result = .ok s :=
    exists_of_isOk (by decide +kernel)
  obtain ⟨scheme, authority, base, origin, -, -, hstays⟩ :=
    @stays_at_host baseWithPath host hraw
  have hone := (hstays (asking "@evil.example")).1 first hfirst
  have htwo := (hstays (asking "//evil.example")).1 second hsecond
  obtain ⟨location, hlocation, hbelow, -⟩ :=
    (hstays (asking "\\evil.example")).2 [] () served hserved
  refine ⟨host, first, second, served, location, hraw, hfirst, hsecond,
    hone.authority.trans htwo.authority.symm, hserved, hlocation, ?_⟩
  have htext : Utf8.ofText host.url.text ++ [0x2F] =
      Utf8.ofText "https://cu1.example:8443/base/" := by decide +kernel
  rwa [htext] at hbelow

end Buffered
end AffinityGate
