import Mathlib.Tactic.ByContra
import AffinityGate.Proofs.Serving.Faithful

/-!
# Bodies in chunks

A body arrives in chunks, and the room that is left for it is counted down chunk by chunk.  What
comes of that is a matter of the bytes and of how the stream ends (`buffer_congr`), so a dispatch
cannot tell one division into chunks from another: `dispatch_depends_on_bytes`.
-/

namespace AffinityGate

variable {σ : Type}

namespace Http.BodyStream

/-- Streams of the same bytes that end alike are buffered alike. -/
theorem buffer_congr {stream stream' : Http.BodyStream}
    (hbytes : stream.chunks.flatten = stream'.chunks.flatten)
    (hend : stream.failure = stream'.failure) (limit : Nat) :
    stream.buffer limit = stream'.buffer limit := by
  have hfits : fits limit stream.chunks = fits limit stream'.chunks := by
    rw [Bool.eq_iff_iff, fits_iff, fits_iff, hbytes]
  unfold buffer
  rw [hfits, hbytes, hend]

end Http.BodyStream

/-- Whether a dispatch ends because its body was not buffered. -/
def DispatchError.refusesBody : DispatchError → Bool
  | .bodyTooLarge _ | .bodyRead _ => true
  | .missingProcessId | .failover _ => false

namespace Dispatcher

variable {d : Dispatcher} {out : Outside σ} {span : Option String} {request : Http.Arrival}
  {s : Situation σ}

/-- Streams that are buffered alike are dispatched alike. -/
theorem dispatch_of_buffer_eq {stream stream' : Http.BodyStream}
    (h : stream.buffer d.maxBodyBytes = stream'.buffer d.maxBodyBytes) :
    d.dispatch out span { request with body := stream } s =
      d.dispatch out span { request with body := stream' } s := by
  simp only [dispatch, h]
  cases stream'.buffer d.maxBodyBytes with
  | error cause => rfl
  | ok body => cases Extracted.ofRequest? d.unit request.uri body <;> rfl

/-- A request whose body is buffered may fail, but not because of its body. -/
theorem refusesBody_of_buffer_ok {body : Bytes} (h : request.body.buffer d.maxBodyBytes = .ok body)
    {cause : DispatchError} (hcause : (d.dispatch out span request s).result = .error cause) :
    cause.refusesBody = false := by
  simp only [dispatch, h] at hcause
  split at hcause
  · cases hcause
    rfl
  · simp only [serve] at hcause
    split at hcause
    · cases hcause
    · cases hcause
      rfl

/-- **A dispatch depends on the bytes of a body alone.**  However a body is divided into chunks,
empty ones included, and however it ends, its dispatch is that of the body in one piece: the same
result, effects and situation afterwards.  If the body is whole, its bytes are what is forwarded and
what is searched for a process, and it is accepted exactly if it is no longer than the limit.  A
longer one is refused for its size, whether it is whole or breaks off, and a shorter one that breaks
off is refused for that; then nothing else happens. -/
theorem dispatch_depends_on_bytes (d : Dispatcher) (out : Outside σ) (span : Option String)
    (request : Http.Arrival) (s : Situation σ) (chunks : List Bytes) :
    let body := chunks.flatten
    let arrived (failure : Option String) : Http.Arrival :=
      { request with body := ⟨chunks, failure⟩ }
    let dispatched (failure : Option String) := d.dispatch out span (arrived failure) s
    (∀ failure, dispatched failure =
      d.dispatch out span { request with body := ⟨[body], failure⟩ } s) ∧
    (∀ r ∈ Effect.requests (dispatched none).effects, r.body = body) ∧
    (d.extracted? (arrived none) =
      if body.length ≤ d.maxBodyBytes then Extracted.ofRequest? d.unit request.uri body else none) ∧
    ((∀ cause, (dispatched none).result = .error cause → cause.refusesBody = false) ↔
      body.length ≤ d.maxBodyBytes) ∧
    (d.maxBodyBytes < body.length →
      ∀ failure, dispatched failure = ⟨.error (.bodyTooLarge d.maxBodyBytes), [], s⟩) ∧
    (body.length ≤ d.maxBodyBytes →
      ∀ text, dispatched (some text) = ⟨.error (.bodyRead text), [], s⟩) := by
  intro body arrived dispatched
  have hwhole (hsmall : body.length ≤ d.maxBodyBytes) :
      (arrived none).body.buffer d.maxBodyBytes = .ok body :=
    Http.BodyStream.buffer_eq_ok_iff.mpr ⟨hsmall, rfl, rfl⟩
  have hlarge (h : d.maxBodyBytes < body.length) (failure) :
      (arrived failure).body.buffer d.maxBodyBytes = .error (.bodyTooLarge d.maxBodyBytes) :=
    Http.BodyStream.buffer_of_large h
  refine ⟨fun failure => ?_, fun r hr => ?_, ?_, ⟨fun haccepted => ?_, fun hsmall _ => ?_⟩,
    fun h failure => dispatch_of_buffer_error (hlarge h failure) out span s, fun hsmall text => ?_⟩
  · refine dispatch_of_buffer_eq (Http.BodyStream.buffer_congr ?_ ?_ _)
    · exact List.flatten_singleton.symm
    · rfl
  · obtain ⟨body', host, hbody, haddressed⟩ := d.addressed_of_sent out span _ s hr
    obtain ⟨uri, -, rfl⟩ := Buffered.addressed_eq_ok_iff.mp haddressed
    exact (Http.BodyStream.buffer_eq_ok_iff.mp hbody).2.2
  · unfold extracted?
    split
    · rename_i hsmall
      rw [hwhole hsmall]
      rfl
    · rename_i hnot
      rw [hlarge (Nat.not_le.mp hnot)]
      rfl
  · by_contra hnot
    have hrefused : dispatched none = ⟨.error (.bodyTooLarge d.maxBodyBytes), [], s⟩ :=
      dispatch_of_buffer_error (hlarge (Nat.not_le.mp hnot) none) out span s
    cases haccepted _ (congrArg Answered.result hrefused)
  · exact refusesBody_of_buffer_ok (hwhole hsmall)
  · exact dispatch_of_buffer_error (Http.BodyStream.buffer_of_broken hsmall rfl) out span s

/-- Where two bytes are the limit, two bytes in three chunks reach both hosts that are tried, in one
piece.  If the stream breaks off behind them, that is reported, and behind three bytes it is not. -/
theorem two_bytes_in_three_chunks :
    let s : Situation Unit := ⟨0, .forgetful, ()⟩
    let dispatched chunks failure :=
      narrow.dispatch Failover.oneDown none (bodied "/state/p" chunks failure) s
    let sent := Effect.requests (dispatched [[1], [], [2]] none).effects
    dispatched [[1], [], [2]] none = dispatched [[1, 2]] none ∧
      sent.length = 2 ∧ (∀ r ∈ sent, r.body = [1, 2]) ∧
      dispatched [[], [1], [2]] (some "reset") = ⟨.error (.bodyRead "reset"), [], s⟩ ∧
      dispatched [[1], [2], [3]] (some "reset") = ⟨.error (.bodyTooLarge 2), [], s⟩ := by
  intro s dispatched sent
  have hall (chunks) := dispatch_depends_on_bytes narrow Failover.oneDown none
    (bodied "/state/p" chunks none) s chunks
  obtain ⟨hsame, hforwarded, -⟩ := hall [[1], [], [2]]
  obtain ⟨-, -, -, -, -, hbroken⟩ := hall [[], [1], [2]]
  obtain ⟨-, -, -, -, hlarge, -⟩ := hall [[1], [2], [3]]
  exact ⟨hsame none, by decide +kernel, hforwarded, hbroken (by decide) "reset",
    hlarge (by decide) (some "reset")⟩

end Dispatcher
end AffinityGate
