import AffinityGate.Proofs.Dispatch.Attempts

/-!
# Rejected requests

A request is rejected if its body is too large, else if its body breaks off, else if it names no
process.  `rejection?` reads this off the request alone.  `rejected_or_recorded` says that a
rejected request leaves nothing behind, neither effects nor a change of the situation, so that it
could be left out of any course, and that any other request leaves exactly one record.
-/

namespace AffinityGate

variable {σ : Type}

/-! ## Bodies -/

namespace Http.BodyStream

/-- Chunks fit one after the other exactly if they fit together. -/
theorem fits_iff {room : Nat} {chunks : List Bytes} :
    fits room chunks = true ↔ chunks.flatten.length ≤ room := by
  induction chunks generalizing room with
  | nil => simp [fits]
  | cons c cs ih =>
    rw [fits, Bool.and_eq_true, decide_eq_true_iff, ih, List.flatten_cons, List.length_append]
    omega

/-- A body that is buffered is small enough and has arrived whole. -/
theorem buffer_eq_ok_iff {stream : Http.BodyStream} {limit : Nat} {body : Bytes} :
    stream.buffer limit = .ok body ↔ stream.chunks.flatten.length ≤ limit ∧
      stream.failure = none ∧ body = stream.chunks.flatten := by
  rw [← fits_iff]
  unfold buffer
  split
  · rename_i hfits
    cases hfailure : stream.failure with
    | some text => simp
    | none => simp [hfits, eq_comm]
  · rename_i hlarge
    simp [hlarge]

/-- Of a stream that is too large the end is not seen. -/
theorem buffer_of_large {stream : Http.BodyStream} {limit : Nat}
    (hlarge : limit < stream.chunks.flatten.length) :
    stream.buffer limit = .error (.bodyTooLarge limit) := by
  unfold buffer
  rw [if_neg (mt fits_iff.mp (Nat.not_le.mpr hlarge))]

/-- Of a stream that is not too large and breaks off the failure is reported. -/
theorem buffer_of_broken {stream : Http.BodyStream} {limit : Nat} {text : String}
    (hsmall : stream.chunks.flatten.length ≤ limit) (hbroken : stream.failure = some text) :
    stream.buffer limit = .error (.bodyRead text) := by
  unfold buffer
  rw [if_pos (fits_iff.mpr hsmall), hbroken]

end Http.BodyStream

/-! ## Rejections -/

/-- The causes that end a dispatch before it has begun. -/
def DispatchError.isRejection : DispatchError → Bool
  | .failover _ => false
  | _ => true

namespace Dispatcher

/-- Why a request is rejected: what is wrong with its body comes first, its size before its end, and
then that it names no process. -/
def rejection? (d : Dispatcher) (request : Http.Arrival) : Option DispatchError :=
  let body := request.body.chunks.flatten
  if d.maxBodyBytes < body.length then some (.bodyTooLarge d.maxBodyBytes)
  else
    match request.body.failure with
    | some text => some (.bodyRead text)
    | none =>
      if Extracted.ofRequest? d.unit request.uri body = none then some .missingProcessId else none

variable {d : Dispatcher} {request : Http.Arrival}

theorem isRejection_of_rejection? {cause : DispatchError} (h : d.rejection? request = some cause) :
    cause.isRejection = true := by
  unfold rejection? at h
  simp only at h
  split at h
  · cases h
    rfl
  · split at h
    · cases h
      rfl
    · split at h
      · cases h
        rfl
      · cases h

/-- A request that is not rejected says something about its process. -/
theorem rejection?_eq_none_iff :
    d.rejection? request = none ↔ ∃ e, d.extracted? request = some e := by
  simp only [extracted?_eq_some_iff, Http.BodyStream.buffer_eq_ok_iff]
  unfold rejection?
  simp only
  split
  · rename_i hlarge
    refine iff_of_false (by simp) ?_
    rintro ⟨e, body, ⟨hsmall, -⟩, -⟩
    omega
  · rename_i hsmall
    split
    · rename_i text hfailure
      simp [hfailure]
    · rename_i hwhole
      cases htold : Extracted.ofRequest? d.unit request.uri request.body.chunks.flatten with
      | none =>
        refine iff_of_false (by simp) ?_
        rintro ⟨e, body, ⟨-, -, rfl⟩, he⟩
        rw [htold] at he
        cases he
      | some e =>
        exact iff_of_true (by simp) ⟨e, _, ⟨Nat.not_lt.mp hsmall, hwhole, rfl⟩, htold⟩

/-- A request whose body is not buffered is refused for that cause, and nothing else happens. -/
theorem dispatch_of_buffer_error {cause : DispatchError}
    (h : request.body.buffer d.maxBodyBytes = .error cause) (out : Outside σ)
    (span : Option String) (s : Situation σ) :
    d.dispatch out span request s = ⟨.error cause, [], s⟩ := by
  simp only [dispatch, h]

/-- A rejected request is answered by its cause and does nothing else. -/
theorem dispatch_of_rejection {cause : DispatchError} (h : d.rejection? request = some cause)
    (out : Outside σ) (span : Option String) (s : Situation σ) :
    d.dispatch out span request s = ⟨.error cause, [], s⟩ := by
  unfold rejection? at h
  simp only at h
  split at h
  · rename_i hlarge
    cases h
    exact dispatch_of_buffer_error (Http.BodyStream.buffer_of_large hlarge) out span s
  · rename_i hsmall
    split at h
    · rename_i text hbroken
      cases h
      exact dispatch_of_buffer_error
        (Http.BodyStream.buffer_of_broken (Nat.not_lt.mp hsmall) hbroken) out span s
    · rename_i hwhole
      split at h
      · rename_i hnone
        cases h
        have hbody := Http.BodyStream.buffer_eq_ok_iff.mpr ⟨Nat.not_lt.mp hsmall, hwhole, rfl⟩
        simp only [dispatch, hbody, hnone]
      · cases h

/-- A request that is not rejected is answered by a host or by the failure of its candidates, and
leaves one record that says which. -/
theorem recorded_of_not_rejected (h : d.rejection? request = none) (out : Outside σ)
    (span : Option String) (s : Situation σ) :
    let a := d.dispatch out span request s
    (∀ cause, a.result = .error cause → cause.isRejection = false) ∧
      ∃ e o, d.extracted? request = some e ∧ Effect.outcomes a.effects = [o] ∧
        o.processId = e.processId ∧ (o.success = true ↔ ∃ response, a.result = .ok response) := by
  obtain ⟨e, htold⟩ := rejection?_eq_none_iff.mp h
  obtain ⟨body, -, hdispatch⟩ := dispatch_of_extracted htold out span s
  have houtcomes := d.outcomes_serve out span request body e s.now (d.outcomes_decision out s e)
  simp only [hdispatch]
  refine ⟨?_, e, _, htold, houtcomes, ?_, ?_⟩
  · intro cause hcause
    simp only [serve] at hcause
    split at hcause
    · cases hcause
    · cases hcause
      rfl
  · unfold outcome
    split <;> rfl
  · unfold outcome
    simp only [serve]
    split
    · simp
    · simp

/-- Whether a happening is a request that is rejected. -/
def rejects (d : Dispatcher) : Happening → Bool
  | .event (.request _ request) => (d.rejection? request).isSome
  | _ => false

/-- A rejected request leaves the situation as it is. -/
theorem undergo_of_rejects (out : Outside σ) (s : Situation σ) {h : Happening}
    (hrejects : d.rejects h = true) : d.undergo out s h = s := by
  cases h with
  | event event =>
    cases event with
    | request span request =>
      obtain ⟨cause, hcause⟩ := Option.isSome_iff_exists.mp hrejects
      rw [undergo, meet, dispatch_of_rejection hcause]
    | pause millis => cases hrejects
  | sweep => cases hrejects

/-- Rejected requests can be left out of a course. -/
theorem course_without_rejected (d : Dispatcher) (out : Outside σ) (s : Situation σ)
    (history : List Happening) :
    d.course out s (history.filter (!d.rejects ·)) = d.course out s history := by
  induction history generalizing s with
  | nil => rfl
  | cons h history ih =>
    by_cases hrejects : d.rejects h = true
    · rw [List.filter_cons_of_neg (by simp [hrejects]), ih, course, course, List.foldl_cons,
        undergo_of_rejects out s hrejects]
    · rw [List.filter_cons_of_pos (by simp [hrejects])]
      exact ih (d.undergo out s h)

/-- **A request is rejected without a trace, or recorded once.**  It ends in a rejection exactly if
`rejection?` says so, with that cause; then nothing is handed to the client port, the registry is
not asked, nothing is recorded or counted, and clock, cache and outside are as before, so that the
later course of things is the same without it.  Any other request, whatever comes of it, leaves one
record, of its own process, which says whether a host answered. -/
theorem rejected_or_recorded (d : Dispatcher) (out : Outside σ) :
    (∀ span request s,
      let a := d.dispatch out span request s
      (∀ cause, (a.result = .error cause ∧ cause.isRejection = true) ↔
        d.rejection? request = some cause) ∧
      (∀ cause, a.result = .error cause → cause.isRejection = true →
        a.effects = [] ∧ a.after = s) ∧
      ((∀ cause, a.result = .error cause → cause.isRejection = false) →
        ∃ e o, d.extracted? request = some e ∧ Effect.outcomes a.effects = [o] ∧
          o.processId = e.processId ∧
          (o.success = true ↔ ∃ response, a.result = .ok response))) ∧
    ∀ s history, d.course out s (history.filter (!d.rejects ·)) = d.course out s history := by
  refine ⟨fun span request s => ?_, d.course_without_rejected out⟩
  intro a
  cases hrejection : d.rejection? request with
  | some cause =>
    have hdispatch : a = ⟨.error cause, [], s⟩ := dispatch_of_rejection hrejection out span s
    have hcause := isRejection_of_rejection? hrejection
    rw [hdispatch]
    refine ⟨fun cause' => ⟨?_, ?_⟩, fun _ _ _ => ⟨rfl, rfl⟩, fun hserved => ?_⟩
    · rintro ⟨h, -⟩
      cases h
      rfl
    · intro h
      cases h
      exact ⟨rfl, hcause⟩
    · rw [hserved cause rfl] at hcause
      cases hcause
  | none =>
    obtain ⟨hserved, hrecorded⟩ := recorded_of_not_rejected hrejection out span s
    have hnot : ∀ cause, a.result = .error cause → cause.isRejection ≠ true := fun cause h => by
      rw [hserved cause h]
      decide
    refine ⟨fun cause => iff_of_false (fun h => hnot cause h.1 h.2) nofun,
      fun cause h hcause => absurd hcause (hnot cause h), fun _ => hrecorded⟩

/-- A gateway that takes bodies of two bytes at most. -/
def narrow : Dispatcher :=
  { Visit.byPath.dispatcher with maxBodyBytes := 2 }

/-- A request at a path, with a body as it arrives. -/
def bodied (path : String) (chunks : List Bytes) (failure : Option String) : Http.Arrival :=
  ⟨.post, ⟨none, [], Utf8.ofText path⟩, [], chunks, failure⟩

/-- Of three things that are wrong with a request the size of its body is reported, of two the end
of its body, and last that it names no process; the same path with a process is recorded. -/
theorem large_before_broken_before_nameless :
    let s : Situation Unit := ⟨0, .forgetful, ()⟩
    let dispatched := fun request => narrow.dispatch Failover.oneDown none request s
    let refused := fun request cause => (dispatched request).result = .error cause ∧
      (dispatched request).effects = [] ∧ (dispatched request).after = s
    refused (bodied "/state" [[1, 2], [3]] (some "reset")) (.bodyTooLarge 2) ∧
    refused (bodied "/state" [[1, 2]] (some "reset")) (.bodyRead "reset") ∧
    refused (bodied "/state" [[1, 2]] none) .missingProcessId ∧
    ∃ o, Effect.outcomes (dispatched (bodied "/state/p" [[1, 2]] none)).effects = [o] := by
  intro s dispatched refused
  have hall := (rejected_or_recorded narrow Failover.oneDown).1 none
  have hrefused (request) (cause : DispatchError) (h : narrow.rejection? request = some cause) :
      refused request cause := by
    obtain ⟨hcause, hatomic, -⟩ := hall request s
    obtain ⟨hresult, hrejection⟩ := (hcause cause).mpr h
    exact ⟨hresult, hatomic cause hresult hrejection⟩
  refine ⟨hrefused _ _ (by decide +kernel), hrefused _ _ (by decide +kernel),
    hrefused _ _ (by decide +kernel), ?_⟩
  obtain ⟨hcause, -, hrecorded⟩ := hall (bodied "/state/p" [[1, 2]] none) s
  have hnone : narrow.rejection? (bodied "/state/p" [[1, 2]] none) = none := by decide +kernel
  obtain ⟨-, o, -, ho, -⟩ := hrecorded fun cause h => by
    cases hrejection : cause.isRejection with
    | false => rfl
    | true =>
      rw [(hcause cause).mp ⟨h, hrejection⟩] at hnone
      cases hnone
  exact ⟨o, ho⟩

end Dispatcher
end AffinityGate
