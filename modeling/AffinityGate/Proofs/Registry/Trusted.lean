import AffinityGate.Proofs.Owner.Ledger
import AffinityGate.Proofs.Registry.Shape
import AffinityGate.Registry.Lookup

/-!
# Registry answers are trusted only when clean

An answer of the registry's endpoint is clean if its status is a success and its body is an answer
with data and without errors.  `trusted_only_when_clean` says that the owner of a process is taken
from clean answers alone, that every other answer is an error, and that a resolver without a kept
owner sends a process to the subrouter, or keeps anything, only on such an answer.
-/

namespace AffinityGate.Registry

variable {σ : Type} {status : Nat} {body : Option Bytes}

/-! ## Single answers -/

/-- Statuses of success. -/
def IsSuccess (status : Nat) : Prop :=
  200 ≤ status ∧ status < 300

/-- The body came whole and is the text of an answer with these owners, if it has data, and these
messages of errors. -/
def Decodes (body : Option Bytes) (owners : Option (List String)) (messages : List String) : Prop :=
  ∃ bs f, body = some bs ∧ Form.read? bs = some f ∧ Answer.Response f owners messages

/-- What is wrong with an answer: its status, its body, an error next to whatever data, or that it
has no data. -/
inductive Unclean (status : Nat) (body : Option Bytes) : RegistryError → Prop
  | status : ¬IsSuccess status → Unclean status body (.status status)
  | undecodable : IsSuccess status → (∀ owners messages, ¬Decodes body owners messages) →
    Unclean status body undecodable
  | errors {owners : Option (List String)} {message : String} {others : List String} :
    IsSuccess status → Decodes body owners (message :: others) →
    Unclean status body (.malformed ("GraphQL error: " ++ message))
  | noData : IsSuccess status → Decodes body none [] →
    Unclean status body (.malformed "response has no data")

theorem decodes_iff {owners : Option (List String)} {messages : List String} :
    Decodes body owners messages ↔ body.bind Answer.read? = some ⟨owners, messages⟩ := by
  simp only [Decodes, Option.bind_eq_some_iff, Answer.read?, Answer.ofForm?_eq_some_iff]
  constructor
  · rintro ⟨bs, f, rfl, hread, hresponse⟩
    exact ⟨bs, rfl, f, hread, hresponse⟩
  · rintro ⟨bs, rfl, f, hread, hresponse⟩
    exact ⟨bs, f, rfl, hread, hresponse⟩

theorem isSuccess_iff : IsSuccess status ↔ ¬(status < 200 ∨ 300 ≤ status) := by
  unfold IsSuccess
  omega

theorem interpret_of_not_success (h : ¬IsSuccess status) :
    interpret status body = .error (.status status) :=
  if_pos (not_not.mp (mt isSuccess_iff.mpr h))

theorem interpret_of_decodes {owners : Option (List String)} {messages : List String}
    (h : IsSuccess status) (hbody : Decodes body owners messages) :
    interpret status body = Answer.owner ⟨owners, messages⟩ := by
  rw [interpret, if_neg (isSuccess_iff.mp h), decodes_iff.mp hbody]

theorem interpret_of_not_decodes (h : IsSuccess status)
    (hbody : ∀ owners messages, ¬Decodes body owners messages) :
    interpret status body = .error undecodable := by
  rw [interpret, if_neg (isSuccess_iff.mp h)]
  cases hread : body.bind Answer.read? with
  | none => rfl
  | some a => exact absurd (decodes_iff.mpr hread) (hbody a.owners a.errors)

theorem Unclean.interpret {e : RegistryError} (h : Unclean status body e) :
    interpret status body = .error e := by
  cases h with
  | status hstatus => exact interpret_of_not_success hstatus
  | undecodable hstatus hbody => exact interpret_of_not_decodes hstatus hbody
  | errors hstatus hbody => exact interpret_of_decodes hstatus hbody
  | noData hstatus hbody => exact interpret_of_decodes hstatus hbody

/-- An answer is clean, or something is wrong with it. -/
theorem clean_or_unclean (status : Nat) (body : Option Bytes) :
    (∃ owners, IsSuccess status ∧ Decodes body (some owners) []) ∨ ∃ e, Unclean status body e := by
  by_cases hstatus : IsSuccess status
  · by_cases hbody : ∃ owners messages, Decodes body owners messages
    · obtain ⟨_ | owners, _ | ⟨message, others⟩, hbody⟩ := hbody
      · exact .inr ⟨_, .noData hstatus hbody⟩
      · exact .inr ⟨_, .errors hstatus hbody⟩
      · exact .inl ⟨owners, hstatus, hbody⟩
      · exact .inr ⟨_, .errors hstatus hbody⟩
    · push Not at hbody
      exact .inr ⟨_, .undecodable hstatus hbody⟩
  · exact .inr ⟨_, .status hstatus⟩

/-- The first owner of a clean answer is taken, if there is one. -/
theorem interpret_eq_ok_iff {owner : Option String} :
    interpret status body = .ok owner ↔
      ∃ owners, IsSuccess status ∧ Decodes body (some owners) [] ∧ owner = owners.head? := by
  constructor
  · intro h
    rcases clean_or_unclean status body with ⟨owners, hstatus, hbody⟩ | ⟨e, hunclean⟩
    · rw [interpret_of_decodes hstatus hbody] at h
      exact ⟨owners, hstatus, hbody, (Except.ok.inj h).symm⟩
    · rw [hunclean.interpret] at h
      cases h
  · rintro ⟨owners, hstatus, hbody, rfl⟩
    exact interpret_of_decodes hstatus hbody

theorem interpret_eq_found_iff {owner : String} :
    interpret status body = .ok (some owner) ↔
      IsSuccess status ∧ ∃ others, Decodes body (some (owner :: others)) [] := by
  rw [interpret_eq_ok_iff]
  constructor
  · rintro ⟨_ | ⟨first, others⟩, hstatus, hbody, hfirst⟩
    · cases hfirst
    · cases hfirst
      exact ⟨hstatus, others, hbody⟩
  · rintro ⟨hstatus, others, hbody⟩
    exact ⟨_, hstatus, hbody, rfl⟩

theorem interpret_eq_notFound_iff :
    interpret status body = .ok none ↔ IsSuccess status ∧ Decodes body (some []) [] := by
  rw [interpret_eq_ok_iff]
  constructor
  · rintro ⟨_ | ⟨first, others⟩, hstatus, hbody, hfirst⟩
    · exact ⟨hstatus, hbody⟩
    · cases hfirst
  · rintro ⟨hstatus, hbody⟩
    exact ⟨_, hstatus, hbody, rfl⟩

theorem interpret_eq_error_iff {e : RegistryError} :
    interpret status body = .error e ↔ Unclean status body e := by
  refine ⟨fun h => ?_, Unclean.interpret⟩
  rcases clean_or_unclean status body with ⟨owners, hstatus, hbody⟩ | ⟨e', hunclean⟩
  · rw [interpret_of_decodes hstatus hbody] at h
    cases h
  · rw [hunclean.interpret] at h
    cases h
    exact hunclean

/-- An exchange with an endpoint names an owner only by what the endpoint finally answers. -/
theorem lookup_eq_ok_iff {peer : Client.Peer} {endpoint : HostUrl} {id : ProcessId}
    {owner : Option String} :
    (lookup peer endpoint id).2 = .ok owner ↔ ∃ target a, target? endpoint = some target ∧
      (Client.exchange peer (request target id)).2 = .ok a ∧ isFollowed target a = false ∧
      interpret a.status a.body = .ok owner := by
  unfold lookup
  cases target? endpoint with
  | none => simp
  | some target =>
    rcases hexchange : Client.exchange peer (request target id) with ⟨written, e | a⟩
    · simp [hexchange]
    · cases hfollowed : isFollowed target a <;> simp [hexchange, hfollowed]

/-! ## Resolution -/

/-- How a registry reacts whose endpoint finally answers with a status and a body. -/
def heard : Reaction (Nat × Option Bytes) → RegistryReaction
  | .never => .never
  | .after millis final => .after millis (interpret final.1 final.2)

/-- A clean answer whose first owner is this one comes at this time, and in time: within the limit
rounded up to whole milliseconds, after which the timer goes off. -/
def Names (limit : Duration) (final : Reaction (Nat × Option Bytes)) (millis : Nat)
    (owner : String) : Prop :=
  ∃ status body others, final = .after millis (status, body) ∧ millis ≤ limit.timerMillis ∧
    IsSuccess status ∧ Decodes body (some (owner :: others)) []

theorem names_iff {limit : Duration} {final : Reaction (Nat × Option Bytes)} {millis : Nat}
    {owner : String} :
    Names limit final millis owner ↔ heard final = .after millis (.ok (some owner)) ∧
      (Duration.ofMillis millis).nanos ≤ limit.roundedUp.nanos := by
  rw [Duration.ofMillis_le_roundedUp_iff]
  unfold Names
  rcases final with _ | ⟨time, status, body⟩
  · simp [heard]
  · simp only [heard, Reaction.after.injEq, interpret_eq_found_iff, Prod.mk.injEq]
    constructor
    · rintro ⟨_, _, others, ⟨rfl, rfl, rfl⟩, htime, hstatus, hbody⟩
      exact ⟨⟨rfl, hstatus, others, hbody⟩, htime⟩
    · rintro ⟨⟨rfl, hstatus, others, hbody⟩, htime⟩
      exact ⟨_, _, others, ⟨rfl, rfl, rfl⟩, htime, hstatus, hbody⟩

/-- What is learnt of a registry that names an owner in time. -/
theorem learnt_of_names {limit : Duration} {final : Reaction (Nat × Option Bytes)} {millis : Nat}
    {owner : String} (h : Names limit final millis owner) :
    OwnerLedger.ownerInTime? limit.roundedUp (heard final) = some owner ∧
      OwnerLedger.waited limit.roundedUp (heard final) = millis := by
  obtain ⟨hheard, htime⟩ := names_iff.mp h
  rw [hheard, OwnerLedger.waited, Duration.millis_roundedUp]
  exact ⟨if_pos htime, Nat.min_eq_left (Duration.ofMillis_le_roundedUp_iff.mp htime)⟩

theorem learnt_of_not_names {limit : Duration} {final : Reaction (Nat × Option Bytes)}
    (h : ∀ millis owner, ¬Names limit final millis owner) :
    OwnerLedger.ownerInTime? limit.roundedUp (heard final) = none := by
  cases hlearnt : OwnerLedger.ownerInTime? limit.roundedUp (heard final) with
  | none => rfl
  | some owner =>
    obtain ⟨millis, hheard, htime⟩ := ownerInTime?_eq_some_iff.mp hlearnt
    exact absurd (names_iff.mpr ⟨hheard, htime⟩) (h millis owner)

/-- **Registry answers are trusted only when clean.**  An owner is the first one of a clean answer;
a clean answer without owners says that there is none; any other answer is an error, whatever data
it has.  An exchange as a whole says nothing beyond that.  A resolver with an empty cache sends a
process to the subrouter exactly if a clean answer with an overridden owner comes in time; the owner
of a clean answer is kept, and without one the pool is used and the cache stays empty. -/
theorem trusted_only_when_clean (status : Nat) (body : Option Bytes) :
    (∀ owner, interpret status body = .ok (some owner) ↔
      IsSuccess status ∧ ∃ others, Decodes body (some (owner :: others)) []) ∧
    (interpret status body = .ok none ↔ IsSuccess status ∧ Decodes body (some []) []) ∧
    (∀ e, interpret status body = .error e ↔ Unclean status body e) ∧
    (∀ (peer : Client.Peer) (endpoint : HostUrl) (id : ProcessId) (owner : Option String),
      (lookup peer endpoint id).2 = .ok owner ↔ ∃ target a, target? endpoint = some target ∧
        (Client.exchange peer (request target id)).2 = .ok a ∧ isFollowed target a = false ∧
        interpret a.status a.body = .ok owner) ∧
    ∀ (r : Resolver) (p : OwnerPolicy) (out : Outside σ) (now : Nat) (ttl : Duration)
      (id : ProcessId) (w : σ) (final : Reaction (Nat × Option Bytes)),
      r.policy = some p → (out.owner id w).1 = heard final →
      let a := r.resolve out now (.timed (.empty ttl)) id w
      (∀ host, a.decision = .subrouter host ↔ ∃ millis owner, Names r.limit final millis owner ∧
        p.isOverridden owner = true ∧ host = p.subrouter) ∧
      (∀ millis owner, Names r.limit final millis owner →
        a.store = .timed ((OwnerCache.empty ttl).put (now + millis) id owner)) ∧
      ((∀ millis owner, ¬Names r.limit final millis owner) →
        a.decision = .pool ∧ a.store = .timed (.empty ttl)) := by
  refine ⟨fun owner => interpret_eq_found_iff, interpret_eq_notFound_iff,
    fun e => interpret_eq_error_iff, fun peer endpoint id owner => lookup_eq_ok_iff,
    fun r p out now ttl id w final hp hreg => ?_⟩
  have hget : ((OwnerCache.empty ttl).get now id) = (none, .empty ttl) := rfl
  obtain ⟨hruling, hstore, -⟩ := resolve_of_not_kept out w hp (congrArg Prod.fst hget)
  have hdecision := congrArg Ruling.decision hruling
  rw [hreg] at hdecision hstore
  refine ⟨fun host => ?_, fun millis owner hnames => ?_, fun hnone => ?_⟩
  · refine (iff_of_eq (congrArg (· = Decision.subrouter host) hdecision)).trans ?_
    rw [rule_eq_subrouter_iff]
    constructor
    · rintro ⟨owner, hlearnt, hover, hhost⟩
      obtain ⟨millis, hheard, htime⟩ := ownerInTime?_eq_some_iff.mp hlearnt
      exact ⟨millis, owner, names_iff.mpr ⟨hheard, htime⟩, hover, hhost⟩
    · rintro ⟨millis, owner, hnames, hover, hhost⟩
      exact ⟨owner, (learnt_of_names hnames).1, hover, hhost⟩
  · obtain ⟨howner, hwaited⟩ := learnt_of_names hnames
    rw [howner, hwaited] at hstore
    exact hstore
  · have hlearnt := learnt_of_not_names hnone
    rw [hlearnt] at hdecision hstore
    exact ⟨hdecision, hstore⟩

/-- Complete data that names an owner. -/
def vipData : String :=
  "\"data\":\x7b\"transactions\":\x7b\"edges\":[\x7b\"node\":\x7b\"owner\":"
    ++ "\x7b\"address\":\"vip\"\x7d\x7d\x7d]\x7d\x7d"

def cleanBody : Bytes :=
  Utf8.ofText ("\x7b" ++ vipData ++ "\x7d")

/-- The same data, and an error next to it. -/
def partialBody : Bytes :=
  Utf8.ofText ("\x7b" ++ vipData ++ ",\"errors\":[\x7b\"message\":\"rate limited\"\x7d]\x7d")

/-- A registry whose endpoint answers every question with this body after three milliseconds. -/
def answering (body : Bytes) : Outside Unit :=
  ⟨fun _ w => (.never, w), fun _ w => (heard (.after 3 (200, some body)), w), fun _ => true⟩

/-- An error next to complete data: the owner is not taken, and nothing is kept. -/
theorem partial_answer_not_trusted :
    let id : ProcessId := ⟨"p", by rfl, by decide⟩
    let gate : Host := ⟨none, ⟨"http://s", false⟩⟩
    let r : Resolver := ⟨some ⟨gate, ⟨"http://r", false⟩, ["vip"]⟩, .ofMillis 5⟩
    let cold : OwnerCache := .empty (.ofMillis 10)
    let resolved := fun body => r.resolve (answering body) 0 (.timed cold) id ()
    interpret 200 (some cleanBody) = .ok (some "vip") ∧
    interpret 200 (some partialBody) = .error (.malformed "GraphQL error: rate limited") ∧
    (resolved cleanBody).decision = .subrouter gate ∧
    (resolved cleanBody).store = .timed (cold.put 3 id "vip") ∧
    (resolved partialBody).decision = .pool ∧ (resolved partialBody).store = .timed cold := by
  intro id gate r cold resolved
  have hsuccess : IsSuccess 200 := ⟨by decide, by decide⟩
  have hclean : Decodes (some cleanBody) (some ["vip"]) [] :=
    decodes_iff.mpr (by decide +kernel)
  have hpartial : Decodes (some partialBody) (some ["vip"]) ["rate limited"] :=
    decodes_iff.mpr (by decide +kernel)
  obtain ⟨hfound, -, -, -, hresolved⟩ := @trusted_only_when_clean Unit 200 (some cleanBody)
  obtain ⟨-, -, herror, -, -⟩ := @trusted_only_when_clean Unit 200 (some partialBody)
  have hnames : Names r.limit (.after 3 (200, some cleanBody)) 3 "vip" :=
    ⟨200, _, [], rfl, by decide, hsuccess, hclean⟩
  have hnobody : ∀ millis owner,
      ¬Names r.limit (.after 3 (200, some partialBody)) millis owner := by
    rintro millis owner ⟨_, _, others, ⟨⟩, -, -, hother⟩
    have hsame := (decodes_iff.mp hother).symm.trans (decodes_iff.mp hpartial)
    cases hsame
  obtain ⟨hsubrouter, hkept, -⟩ :=
    hresolved r _ (answering cleanBody) 0 (.ofMillis 10) id () (.after 3 (200, some cleanBody))
      rfl rfl
  obtain ⟨-, -, hpool⟩ :=
    hresolved r _ (answering partialBody) 0 (.ofMillis 10) id ()
      (.after 3 (200, some partialBody)) rfl rfl
  exact ⟨(hfound "vip").mpr ⟨hsuccess, [], hclean⟩, (herror _).mpr (.errors hsuccess hpartial),
    (hsubrouter gate).mpr ⟨3, "vip", hnames, by decide, rfl⟩, hkept 3 "vip" hnames,
    (hpool hnobody).1, (hpool hnobody).2⟩

end AffinityGate.Registry
