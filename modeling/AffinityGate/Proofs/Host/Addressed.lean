import AffinityGate.Proofs.Failover.Trial
import AffinityGate.Proofs.Host.Accepted
import AffinityGate.Proofs.Http.Target
import AffinityGate.Routing.Dispatch

/-!
# Requests addressed at accepted hosts

A base URL is accepted as the URL standard reads it, and kept as it was written; a request is
addressed at it by reading the base URL with the request's path and query as a request target,
which forgives less.  `addressed_iff_addressable` says at which accepted hosts requests can be
addressed, and that such a request goes to the base URL with the path and query appended;
`accepted_not_addressable` that there are others.
-/

namespace AffinityGate

open Url (webStarts Plain)
open Http.Uri (webSchemes afterScheme isDelimiter isPathByte IsAuthority IsTarget maxLength)
open Utf8 (decode?)

namespace HostUrl

/-! ## Parts -/

/-- A base URL in parts: a web scheme, what stands before the first delimiter, and what follows,
which is nothing or starts with a slash. -/
structure Parts (h : HostUrl) (scheme : String) (authority path : Bytes) : Prop where
  web : scheme ∈ webSchemes
  written : Utf8.ofText h.text = afterScheme scheme (authority ++ path)
  undelimited : ∀ b ∈ authority, isDelimiter b = false
  slash : ∀ b ∈ path.head?, b = 0x2F

/-- Requests can be addressed at a host: its authority is one of request targets too, and its path
is of path bytes. -/
def Addressable (h : HostUrl) : Prop :=
  ∃ scheme authority path, h.Parts scheme authority path ∧ IsAuthority authority ∧
    ∀ b ∈ path, isPathByte b = true

theorem scheme_of_start : ∀ start ∈ webStarts, ∃ scheme ∈ webSchemes,
    Utf8.encode start = afterScheme scheme [] := by
  decide +kernel

/-- A text without question mark and number sign has neither byte. -/
theorem marks_not_mem_encode {cs : List Char} (h : Plain cs) :
    0x3F ∉ Utf8.encode cs ∧ 0x23 ∉ Utf8.encode cs :=
  ⟨fun hmem => h.2 (Utf8.mem_of_mem_encode (c := '?') (by decide) hmem),
    fun hmem => h.1 (Utf8.mem_of_mem_encode (c := '#') (by decide) hmem)⟩

/-- An accepted base URL has parts, and no question mark or number sign in them. -/
theorem exists_parts {raw : String} {h : HostUrl} (hraw : parse raw = .ok h) :
    ∃ scheme authority path, h.Parts scheme authority path ∧ 0x3F ∉ path ∧ 0x23 ∉ path := by
  obtain ⟨start, hs, rest, htext, hplain⟩ := text_of_accepted hraw
  obtain ⟨scheme, hscheme, hstart⟩ := scheme_of_start start hs
  obtain ⟨hquestion, hnumber⟩ := marks_not_mem_encode hplain
  let authority := (Utf8.encode rest).takeWhile (!isDelimiter ·)
  let path := (Utf8.encode rest).dropWhile (!isDelimiter ·)
  have hpath : ∀ b ∈ path, b ∈ Utf8.encode rest := fun b hb => (List.dropWhile_sublist _).mem hb
  refine ⟨scheme, authority, path, ⟨hscheme, ?_, fun b hb => ?_, fun b hb => ?_⟩,
    fun hmem => hquestion (hpath _ hmem), fun hmem => hnumber (hpath _ hmem)⟩
  · rw [Utf8.ofText, htext, Utf8.encode, List.flatMap_append, ← Utf8.encode, ← Utf8.encode, hstart,
      List.takeWhile_append_dropWhile]
    simp [afterScheme]
  · simpa using List.all_eq_true.mp List.all_takeWhile b hb
  · have hend : isDelimiter b = true := by simpa using head?_dropWhile_false hb
    have hmem := hpath b (List.mem_of_mem_head? hb)
    -- Of the delimiters only the slash can occur.
    simp only [isDelimiter, Bool.or_eq_true, beq_iff_eq] at hend
    rcases hend with (rfl | rfl) | rfl
    · rfl
    · exact absurd hmem hquestion
    · exact absurd hmem hnumber

variable {h : HostUrl} {scheme : String} {authority path : Bytes}

theorem Parts.decode?_path (hp : h.Parts scheme authority path) : (decode? path).isSome = true := by
  cases path with
  | nil => exact Http.Uri.isTarget_nil.utf8
  | cons b path =>
    cases hp.slash b rfl
    have hall : (decode? (Utf8.ofText h.text)).isSome = true := by
      rw [Utf8.ofText, Utf8.decode?_encode, Option.isSome_some]
    have hsplit : Utf8.ofText h.text = afterScheme scheme authority ++ 0x2F :: path := by
      rw [hp.written, afterScheme, afterScheme, List.append_assoc]
      rfl
    rw [hsplit] at hall
    exact ((Utf8.decode?_append_isSome_iff _ (by decide) path).mp hall).2

theorem Parts.head?_append (hp : h.Parts scheme authority path) (rest : Bytes) :
    (path ++ 0x2F :: rest).head? = some 0x2F := by
  cases path with
  | nil => rfl
  | cons b path => exact congrArg some (hp.slash b rfl)

/-- The parts of a base URL with a slash behind it. -/
theorem Parts.written_slash (hp : h.Parts scheme authority path) (rest : Bytes) :
    Utf8.ofText h.text ++ 0x2F :: rest =
      afterScheme scheme (authority ++ (path ++ 0x2F :: rest)) := by
  rw [hp.written, afterScheme, afterScheme]
  simp

theorem Parts.delimited (hp : h.Parts scheme authority path) (rest : Bytes) :
    ∀ b ∈ (path ++ 0x2F :: rest).head?, isDelimiter b = true := by
  intro b hb
  rw [hp.head?_append, Option.mem_some] at hb
  subst hb
  rfl

/-! ## Joining -/

/-- A path and query is joined behind a slash, its own or another. -/
theorem exists_join (h : HostUrl) {pathAndQuery : Bytes} (ht : IsTarget pathAndQuery) :
    ∃ rest, h.join pathAndQuery = Utf8.ofText h.text ++ 0x2F :: rest ∧ IsTarget (0x2F :: rest) := by
  unfold join
  split
  · exact ⟨_, rfl, ht⟩
  · exact ⟨pathAndQuery, rfl, ht.cons_slash⟩

/-- How a base URL in front of a path and query is read. -/
theorem Parts.parse_iff (hp : h.Parts scheme authority path) (hquestion : 0x3F ∉ path)
    (hnumber : 0x23 ∉ path) {rest : Bytes} (ht : IsTarget (0x2F :: rest))
    (hlen : (Utf8.ofText h.text ++ 0x2F :: rest).length ≤ maxLength) {u : Http.Uri} :
    Http.Uri.parse (Utf8.ofText h.text ++ 0x2F :: rest) = .ok u ↔
      (IsAuthority authority ∧ ∀ b ∈ path, isPathByte b = true) ∧
        u = ⟨some (Utf8.ofText scheme), authority, path ++ 0x2F :: rest⟩ := by
  have hno : 0x23 ∉ path ++ 0x2F :: rest := by
    rw [List.mem_append, not_or]
    exact ⟨hnumber, ht.no_fragment⟩
  have hpart := Http.Uri.isTarget_append_iff hquestion hp.decode?_path (y := 0x2F) (by decide) rest
  rw [hp.written_slash] at hlen ⊢
  rw [Http.Uri.parse_web_iff hp.web hp.undelimited (hp.delimited rest) hlen, and_assoc]
  simp only [Http.Uri.checkTarget_eq_ok_iff, takeWhile_of_not_mem hno]
  constructor
  · rintro ⟨hauthority, t, ⟨rfl, htarget⟩, rfl⟩
    exact ⟨hauthority, (hpart.mp htarget).1, rfl⟩
  · rintro ⟨hauthority, hbytes, rfl⟩
    exact ⟨hauthority, _, ⟨rfl, hpart.mpr ⟨hbytes, ht⟩⟩, rfl⟩

theorem Parts.text_target (hp : h.Parts scheme authority path) (rest : Bytes) :
    (Http.Uri.mk (some (Utf8.ofText scheme)) authority (path ++ 0x2F :: rest)).text =
      Utf8.ofText h.text ++ 0x2F :: rest := by
  have hcolon : Utf8.ofText "://" = [0x3A, 0x2F, 0x2F] := by decide +kernel
  rw [Http.Uri.text_of_slash (hp.head?_append rest), hp.written, afterScheme, hcolon]
  simp

/-- When an accepted base URL in front of a path and query is read, and what is written of it. -/
theorem parse_join_iff {raw : String} (hraw : parse raw = .ok h) {pathAndQuery : Bytes}
    (ht : IsTarget pathAndQuery) (hlen : (h.join pathAndQuery).length ≤ maxLength) :
    ((∃ u, Http.Uri.parse (h.join pathAndQuery) = .ok u) ↔ h.Addressable) ∧
      ∀ u, Http.Uri.parse (h.join pathAndQuery) = .ok u → u.text = h.join pathAndQuery := by
  obtain ⟨rest, hjoin, hrest⟩ := h.exists_join ht
  obtain ⟨scheme, authority, path, hp, hquestion, hnumber⟩ := exists_parts hraw
  rw [hjoin] at hlen ⊢
  refine ⟨⟨fun ⟨u, hu⟩ => ?_, ?_⟩, fun u hu => ?_⟩
  · exact ⟨scheme, authority, path, hp, ((hp.parse_iff hquestion hnumber hrest hlen).mp hu).1⟩
  · rintro ⟨scheme, authority, path, hp, hauthority, hbytes⟩
    have hquestion := Http.Uri.not_mem_of_pathByte (b := 0x3F) (by decide) hbytes
    have hnumber := Http.Uri.not_mem_of_pathByte (b := 0x23) (by decide) hbytes
    exact ⟨_, (hp.parse_iff hquestion hnumber hrest hlen).mpr ⟨⟨hauthority, hbytes⟩, rfl⟩⟩
  · obtain ⟨-, rfl⟩ := (hp.parse_iff hquestion hnumber hrest hlen).mp hu
    exact hp.text_target rest

end HostUrl

/-! ## Addressing -/

namespace Buffered

/-- **A request can be addressed at an accepted host exactly if the host is addressable**, whatever
is asked for, and then it goes to the host's text with the path and query appended. -/
theorem addressed_iff_addressable {raw : String} {host : Host}
    (hraw : HostUrl.parse raw = .ok host.url) {bs : Bytes} {uri : Http.Uri}
    (hin : Http.Uri.parse bs = .ok uri)
    (hlen : (host.url.join (Dispatcher.pathAndQuery uri)).length ≤ maxLength)
    (method : Http.Method) (headers : Http.Headers) (body : Bytes) :
    let request := make method (Dispatcher.pathAndQuery uri) headers body
    ((∃ outgoing, request.addressed host = .ok outgoing) ↔ host.url.Addressable) ∧
      ∀ outgoing, request.addressed host = .ok outgoing →
        outgoing.uri.text = host.url.join (Dispatcher.pathAndQuery uri) := by
  intro request
  obtain ⟨hiff, htext⟩ := HostUrl.parse_join_iff hraw (Http.Uri.isTarget_pathAndQuery hin) hlen
  refine ⟨Iff.trans ⟨?_, ?_⟩ hiff, fun outgoing h => ?_⟩
  · rintro ⟨outgoing, h⟩
    obtain ⟨u, hu, -⟩ := addressed_eq_ok_iff.mp h
    exact ⟨u, hu⟩
  · rintro ⟨u, hu⟩
    exact ⟨_, addressed_eq_ok_iff.mpr ⟨u, hu, rfl⟩⟩
  · obtain ⟨u, hu, rfl⟩ := addressed_eq_ok_iff.mp h
    exact htext u hu

/-- A request for a process, with a query. -/
def stateRequest : Bytes :=
  0x2F :: Utf8.ofText "state/p?x=1"

theorem parse_stateRequest : Http.Uri.parse stateRequest = .ok ⟨none, [], stateRequest⟩ :=
  IsTarget.parse ⟨by decide +kernel, by decide +kernel, by decide +kernel⟩ (by decide +kernel)

/-- A base URL with a port and a path. -/
def baseWithPath : String :=
  "https://cu1.example:8443/base/"

/-- The path of a base URL comes before that of the request. -/
theorem addressed_below_base :
    ∃ host uri outgoing, HostUrl.parse baseWithPath = .ok host.url ∧
      Http.Uri.parse stateRequest = .ok uri ∧ host.url.Addressable ∧
      (make Http.Method.get (Dispatcher.pathAndQuery uri) [] []).addressed host = .ok outgoing ∧
      outgoing.uri.text = Utf8.ofText "https://cu1.example:8443/base/state/p?x=1" := by
  have hraw : HostUrl.parse baseWithPath = .ok (HostUrl.ofRaw baseWithPath) :=
    HostUrl.parse_of_no_fault (by decide +kernel)
  have hparts : (HostUrl.ofRaw baseWithPath).Parts "https" (Utf8.ofText "cu1.example:8443")
      (Utf8.ofText "/base") :=
    ⟨by decide, by decide +kernel, by decide +kernel, by decide +kernel⟩
  have haddressable : (HostUrl.ofRaw baseWithPath).Addressable :=
    ⟨_, _, _, hparts, ⟨by decide +kernel, _, rfl, rfl⟩, by decide +kernel⟩
  obtain ⟨hiff, htext⟩ := @addressed_iff_addressable baseWithPath
    ⟨some 0, HostUrl.ofRaw baseWithPath⟩ hraw stateRequest _ parse_stateRequest (by decide +kernel)
    Http.Method.get [] []
  obtain ⟨outgoing, hout⟩ := hiff.mpr haddressable
  exact ⟨_, _, outgoing, hraw, parse_stateRequest, haddressable, hout,
    (htext outgoing hout).trans (by decide +kernel)⟩

/-- A base URL with a blank in its path. -/
def baseWithBlank : String :=
  "http://a/b c"

/-- The base URL is accepted, but a blank is no path byte. -/
theorem accepted_not_addressable :
    ¬∀ (raw : String) (host : Host) (bs : Bytes) (uri : Http.Uri),
      HostUrl.parse raw = .ok host.url → Http.Uri.parse bs = .ok uri →
      (host.url.join (Dispatcher.pathAndQuery uri)).length ≤ maxLength →
      ∀ (method : Http.Method) (headers : Http.Headers) (body : Bytes), ∃ outgoing,
        (make method (Dispatcher.pathAndQuery uri) headers body).addressed host = .ok outgoing ∧
        outgoing.uri.text = host.url.join (Dispatcher.pathAndQuery uri) := by
  intro h
  have hraw : HostUrl.parse baseWithBlank = .ok (HostUrl.ofRaw baseWithBlank) :=
    HostUrl.parse_of_no_fault (by decide +kernel)
  obtain ⟨outgoing, hout, -⟩ := h baseWithBlank ⟨some 0, HostUrl.ofRaw baseWithBlank⟩ stateRequest _
    hraw parse_stateRequest (by decide +kernel) Http.Method.get [] []
  have hrefused : ((make Http.Method.get (Dispatcher.pathAndQuery ⟨none, [], stateRequest⟩) []
      []).addressed ⟨some 0, HostUrl.ofRaw baseWithBlank⟩).isOk = false := by decide +kernel
  rw [hout] at hrefused
  cases hrefused

end Buffered
end AffinityGate
