import AffinityGate.Http.Message
import AffinityGate.Http.Received

/-!
# Requests as written

A request is written with the path and query of its target, its headers and its body.  The length
of the body is announced unless the headers already say how it is framed.
-/

namespace AffinityGate.Http

/-- A request as it goes out: the request line, the header lines and the body. -/
structure Written where
  line : Bytes
  headers : Headers
  body : Bytes
  deriving DecidableEq

namespace Written

/-- The target as it stands in the request line: an authority for `CONNECT`, else path and query. -/
def targetText (method : Method) (uri : Uri) : Bytes :=
  if method = .connect then uri.authority
  else
    match uri.target with
    | 0x2F :: _ | 0x2A :: _ => uri.target
    | t => 0x2F :: t

/-- Makes the chunked coding the last one. -/
def withChunked (headers : Headers) : Headers :=
  let values := headers.values .transferEncoding
  if Framing.endsChunked values then headers
  else
    let last := values.getLast?.getD []
    headers.erase .transferEncoding
      ++ (values.dropLast ++ [last ++ Utf8.ofText ", chunked"]).map fun v => (.transferEncoding, v)

/-- The headers that frame a body: a coding wins over a length, a valid length stands, and without
either the length is announced. -/
def framed (headers : Headers) (body : Bytes) : Headers :=
  if body.isEmpty then headers.erase .transferEncoding
  else
    let length := Framing.agreedLength? (headers.values .contentLength)
    if headers.has .transferEncoding then
      withChunked (if length.isSome then headers.erase .contentLength else headers)
    else if length.isSome then headers
    else headers.put .contentLength (Utf8.ofText (toString body.length))

theorem values_withChunked_of_ne (headers : Headers) {n : HeaderName}
    (hn : n ≠ .transferEncoding) : (withChunked headers).values n = headers.values n := by
  have hcodings (vs : List Bytes) :
      Headers.values (vs.map fun v => (HeaderName.transferEncoding, v)) n = [] := by
    simp [Headers.values, hn.symm]
  unfold withChunked
  simp only
  split
  · rfl
  · rw [Headers.values_append, Headers.values_erase_of_ne _ hn, hcodings, List.append_nil]

/-- Framing leaves every header but those that frame. -/
theorem values_framed_of_ne (headers : Headers) (body : Bytes) {n : HeaderName}
    (hlength : n ≠ .contentLength) (hcoding : n ≠ .transferEncoding) :
    (framed headers body).values n = headers.values n := by
  unfold framed
  simp only
  split
  · exact Headers.values_erase_of_ne _ hcoding
  · split
    · rw [values_withChunked_of_ne _ hcoding]
      split
      · exact Headers.values_erase_of_ne _ hlength
      · rfl
    · split
      · rfl
      · exact Headers.values_put_of_ne _ _ hlength

/-- Framing brings in no header but the length. -/
theorem values_framed_eq_nil {headers : Headers} {body : Bytes} {n : HeaderName}
    (hlength : n ≠ .contentLength) (h : headers.values n = []) :
    (framed headers body).values n = [] := by
  by_cases hcoding : n = .transferEncoding
  · subst hcoding
    have hhas := (Headers.has_eq_false_iff headers .transferEncoding).mpr h
    unfold framed
    simp only [hhas, Bool.false_eq_true, if_false]
    split
    · exact Headers.values_erase_self _ _
    · split
      · exact h
      · rw [Headers.values_put_of_ne _ _ (by decide), h]
  · rw [values_framed_of_ne _ _ hlength hcoding, h]

/-- A request written out. -/
def ofRequest (r : Request) : Written :=
  ⟨Utf8.ofText r.method.text ++ 0x20 :: targetText r.method r.uri ++ Utf8.ofText " HTTP/1.1",
    framed r.headers r.body, r.body⟩

end Written
end AffinityGate.Http
