import Mathlib.Data.List.Induction
import Mathlib.Data.List.Perm.Basic
import AffinityGate.Lifecycle.ShutdownRace

/-!
# Reasons that waiters are told

A waiter learns of a shutdown in one of two ways: by the broadcast, which carries the reason of the
first trigger, or by the flag, which carries none and is taken for a graceful shutdown.
`waiters_agree_iff` says when all waiters are told the reason of the first trigger: always after a
graceful one, and after a forced one exactly if none of them learns of it by the flag.  This is said
of the shutdown as a whole, step by step, and of the race in which waiters and triggers take their
steps in any order.
-/

namespace AffinityGate

/-! ## One step after the other -/

namespace Shutdown

/-- The state after some steps, and their answers. -/
def play (steps : List Step) : Shutdown × List Answer :=
  steps.foldl (fun p step => ((p.1.step step).1, p.2 ++ [(p.1.step step).2])) (fresh, [])

/-- The reason that an answer says a waiting task has returned. -/
def Answer.reason? : Answer → Option ShutdownReason
  | .waited reason => reason
  | .joined (some reason) => reason
  | _ => none

/-- The reasons that waiting tasks have returned, those of tasks not joined yet at the end. -/
def results (steps : List Step) : List ShutdownReason :=
  (play steps).2.filterMap Answer.reason? ++ (play steps).1.waiters.filterMap id

/-- The reason of a step that is a trigger. -/
def Step.reason? : Step → Option ShutdownReason
  | .trigger reason => some reason
  | _ => none

/-- The reason of the first trigger. -/
def first? (steps : List Step) : Option ShutdownReason :=
  steps.findSome? Step.reason?

/-- The steps in which a task begins to wait. -/
def Step.Waits (step : Step) : Prop :=
  step = .wait ∨ step = .spawnWaiter

/-- Some task begins to wait after the first trigger. -/
def WaitsLate (steps : List Step) : Prop :=
  ∃ before step after, steps = before ++ step :: after ∧ step.Waits ∧ (first? before).isSome = true

theorem WaitsLate.append {steps : List Step} (h : WaitsLate steps) (more : List Step) :
    WaitsLate (steps ++ more) := by
  obtain ⟨before, step, after, rfl, hwaits, hlate⟩ := h
  exact ⟨before, step, after ++ more, by simp, hwaits, hlate⟩

theorem play_concat (steps : List Step) (step : Step) :
    play (steps ++ [step]) = (((play steps).1.step step).1,
      (play steps).2 ++ [((play steps).1.step step).2]) := by
  rw [play, List.foldl_append]
  rfl

theorem first?_concat (steps : List Step) (step : Step) :
    first? (steps ++ [step]) = (first? steps).or step.reason? := by
  rw [first?, List.findSome?_append]
  cases hreason : step.reason? <;> simp [first?, hreason]

theorem mem_results {steps : List Step} {reason : ShutdownReason} :
    reason ∈ results steps ↔ (∃ answer ∈ (play steps).2, answer.reason? = some reason) ∨
      some reason ∈ (play steps).1.waiters := by
  simp [results]

/-- The shutdown is initiated by the first trigger. -/
theorem initiated_play (steps : List Step) :
    (play steps).1.initiated = (first? steps).isSome := by
  induction steps using List.reverseRecOn with
  | nil => rfl
  | append_singleton steps step ih =>
    rw [play_concat, first?_concat, Option.isSome_or, ← ih]
    cases step with
    | subscribe => simp [Shutdown.step, Step.reason?]
    | trigger reason =>
      simp only [Shutdown.step, trigger, Step.reason?, Option.isSome_some, Bool.or_true]
      split
      · assumption
      · rfl
    | wait => simp [Shutdown.step, Step.reason?]
    | spawnWaiter => simp [Shutdown.step, Step.reason?]
    | receive i =>
      simp only [Shutdown.step, Step.reason?, Option.isSome_none, Bool.or_false]
      split <;> rfl
    | join i =>
      simp only [Shutdown.step, Step.reason?, Option.isSome_none, Bool.or_false]
      split <;> rfl

/-- What one step adds to the reasons that tasks have returned: a graceful one if a task begins to
wait when the shutdown is initiated, and that of the first trigger if a task is waiting for it. -/
theorem told_step_iff (s : Shutdown) (step : Step) (reason : ShutdownReason) :
    (s.step step).2.reason? = some reason ∨ some reason ∈ (s.step step).1.waiters ↔
      some reason ∈ s.waiters ∨ (step.Waits ∧ s.initiated = true ∧ reason = .graceful) ∨
      (step = .trigger reason ∧ s.initiated = false ∧ none ∈ s.waiters) := by
  cases step with
  | subscribe => simp [Shutdown.step, Answer.reason?, Step.Waits]
  | trigger r =>
    cases hinitiated : s.initiated with
    | true => simp [Shutdown.step, trigger, hinitiated, Answer.reason?, Step.Waits]
    | false =>
      have hmap : some reason ∈ s.waiters.map (fun w => some (w.getD r)) ↔
          some reason ∈ s.waiters ∨ (r = reason ∧ none ∈ s.waiters) := by
        simp only [List.mem_map, Option.some.injEq]
        constructor
        · rintro ⟨w, hw, h⟩
          cases w with
          | none => exact Or.inr ⟨h, hw⟩
          | some r' => exact Or.inl (h ▸ hw)
        · rintro (h | ⟨h, hnone⟩)
          · exact ⟨_, h, rfl⟩
          · exact ⟨none, hnone, h⟩
      simpa [Shutdown.step, trigger, hinitiated, Answer.reason?, Step.Waits] using hmap
  | wait =>
    cases hinitiated : s.initiated with
    | true => simp [Shutdown.step, wait, hinitiated, Answer.reason?, Step.Waits, or_comm, eq_comm]
    | false => simp [Shutdown.step, wait, hinitiated, Answer.reason?, Step.Waits]
  | spawnWaiter =>
    cases hinitiated : s.initiated with
    | true => simp [Shutdown.step, wait, hinitiated, Answer.reason?, Step.Waits]
    | false => simp [Shutdown.step, wait, hinitiated, Answer.reason?, Step.Waits]
  | receive i =>
    simp only [Shutdown.step]
    split <;> simp [Answer.reason?, Step.Waits]
  | join i =>
    simp only [Shutdown.step]
    split
    · simp [Answer.reason?, Step.Waits]
    · simp [Answer.reason?, Step.Waits]
    · rename_i r hget
      obtain ⟨hlt, hr⟩ := List.getElem?_eq_some_iff.mp hget
      have hmem := (List.getElem_cons_eraseIdx_perm hlt).mem_iff (a := some reason)
      rw [hr, List.mem_cons, Option.some_inj, eq_comm] at hmem
      simpa [Answer.reason?, Step.Waits] using hmem

theorem mem_results_concat {steps : List Step} {step : Step} {reason : ShutdownReason} :
    reason ∈ results (steps ++ [step]) ↔ reason ∈ results steps ∨
      (step.Waits ∧ (first? steps).isSome = true ∧ reason = .graceful) ∨
      (step = .trigger reason ∧ first? steps = none ∧ none ∈ (play steps).1.waiters) := by
  have hstep := told_step_iff (play steps).1 step reason
  rw [initiated_play, Option.isSome_eq_false_iff, Option.isNone_iff_eq_none] at hstep
  rw [mem_results, mem_results, play_concat, or_assoc, ← hstep]
  simp [or_and_right, exists_or, or_assoc]

/-- What was returned has been returned from then on. -/
theorem results_subset_append (steps more : List Step) :
    results steps ⊆ results (steps ++ more) := by
  induction more using List.reverseRecOn with
  | nil => simp
  | append_singleton more step ih =>
    intro reason h
    rw [← List.append_assoc, mem_results_concat]
    exact Or.inl (ih h)

/-- A task returns the reason of the first trigger, or it began to wait after that and returns a
graceful one. -/
theorem result_cases {steps : List Step} {reason : ShutdownReason} (h : reason ∈ results steps) :
    first? steps = some reason ∨
      (reason = .graceful ∧ WaitsLate steps ∧ (first? steps).isSome = true) := by
  induction steps using List.reverseRecOn with
  | nil => simp [results, play, fresh] at h
  | append_singleton steps step ih =>
    rw [first?_concat]
    rcases mem_results_concat.mp h with h | ⟨hwaits, hlate, hreason⟩ | ⟨rfl, hnone, -⟩
    · rcases ih h with h | ⟨hreason, hlate, hfirst⟩
      · exact Or.inl (by rw [h, Option.some_or])
      · exact Or.inr ⟨hreason, hlate.append _, by rw [Option.isSome_or, hfirst, Bool.true_or]⟩
    · exact Or.inr ⟨hreason, ⟨steps, step, [], rfl, hwaits, hlate⟩,
        by rw [Option.isSome_or, hlate, Bool.true_or]⟩
    · exact Or.inl (by rw [hnone, Option.none_or]; rfl)

/-- A task that begins to wait late returns a graceful reason. -/
theorem graceful_of_waitsLate {steps : List Step} (h : WaitsLate steps) :
    .graceful ∈ results steps := by
  obtain ⟨before, step, after, rfl, hwaits, hlate⟩ := h
  rw [List.append_cons]
  have htold := mem_results_concat.mpr (Or.inr (Or.inl ⟨hwaits, hlate, rfl⟩))
  exact results_subset_append _ after htold

end Shutdown

/-! ## In any order -/

/-- The messages that a waiter has not taken. -/
def Waiter.inbox : Waiter → List ShutdownReason
  | .subscribed inbox | .receiving inbox => inbox
  | .starting | .returned _ => []

/-- The reason of a trigger. -/
def Trigger.reason : Trigger → ShutdownReason
  | .starting reason | .claimed reason | .sent reason | .late reason => reason

namespace Waiter

/-- A step brings no message along. -/
theorem inbox_step (flag : Bool) (w : Waiter) : ∀ r ∈ (w.step flag).inbox, r ∈ w.inbox := by
  cases w with
  | starting => simp [step, inbox]
  | subscribed inbox => cases flag <;> simp [step, Waiter.inbox]
  | receiving inbox => cases inbox <;> simp [step, Waiter.inbox]
  | returned reason => simp [step, inbox]

theorem inbox_deliver (reason : ShutdownReason) (w : Waiter) :
    ∀ r ∈ (w.deliver reason).inbox, r ∈ w.inbox ∨ r = reason := by
  cases w <;> simp [deliver, inbox]

theorem deliver_eq_returned_iff {reason r : ShutdownReason} {w : Waiter} :
    w.deliver reason = .returned r ↔ w = .returned r := by
  cases w <;> simp [deliver]

/-- A waiter returns in one of two ways, and then stays. -/
theorem step_eq_returned_iff {flag : Bool} {w : Waiter} {r : ShutdownReason} :
    w.step flag = .returned r ↔ w = .returned r ∨
      (flag = true ∧ r = .graceful ∧ ∃ inbox, w = .subscribed inbox) ∨
      ∃ rest, w = .receiving (r :: rest) := by
  cases w with
  | starting => simp [step]
  | subscribed inbox => cases flag <;> simp [step, eq_comm]
  | receiving inbox => cases inbox <;> simp [step]
  | returned reason => simp [step]

end Waiter

namespace ShutdownRace

/-- What moves tell of the triggers: the reasons of those that have arrived, and the reason of the
first to take a step. -/
structure Roll where
  arrived : List ShutdownReason
  first : Option ShutdownReason

/-- The roll after one more move. -/
def Roll.note (a : Roll) : Move → Roll
  | .newTrigger reason => { a with arrived := a.arrived ++ [reason] }
  | .trigger i => { a with first := a.first.or a.arrived[i]? }
  | .newWaiter | .waiter _ => a

/-- The roll of some moves. -/
def roll (moves : List Move) : Roll :=
  moves.foldl Roll.note ⟨[], none⟩

/-- The reason of the first trigger to take a step. -/
def first? (moves : List Move) : Option ShutdownReason :=
  (roll moves).first

/-- Some waiter looks at the flag after the first trigger has taken a step. -/
def LooksLate (moves : List Move) : Prop :=
  ∃ before i after inbox, moves = before ++ .waiter i :: after ∧
    (run fresh before).waiters[i]? = some (.subscribed inbox) ∧ (first? before).isSome = true

/-- A state is as a roll tells. -/
structure Matches (s : ShutdownRace) (a : Roll) : Prop where
  arrived : s.triggers.map Trigger.reason = a.arrived
  flag : s.flag = a.first.isSome
  started : ∀ t ∈ s.triggers, (∃ reason, t = .starting reason) ∨ a.first.isSome = true
  claimed : ∀ reason, .claimed reason ∈ s.triggers → a.first = some reason
  inboxes : ∀ w ∈ s.waiters, ∀ reason ∈ w.inbox, a.first = some reason

theorem matches_fresh : Matches fresh ⟨[], none⟩ := by
  constructor <;> simp [fresh]

theorem Roll.first_note_of_isSome {a : Roll} (h : a.first.isSome = true) (move : Move) :
    (a.note move).first = a.first := by
  cases move <;> simp [note, Option.or_of_isSome h]

variable {s : ShutdownRace} {a : Roll}

theorem Matches.stepTrigger (h : Matches s a) {i : Nat} {t : Trigger}
    (ht : s.triggers[i]? = some t) :
    Matches (s.stepTrigger i t) (a.note (.trigger i)) := by
  have hreason : a.arrived[i]? = some t.reason := by
    rw [← h.arrived, List.getElem?_map, ht, Option.map_some]
  have harrived (t' : Trigger) (h' : t'.reason = t.reason) :
      (s.triggers.set i t').map Trigger.reason = a.arrived := by
    obtain ⟨hlt, hget⟩ := List.getElem?_eq_some_iff.mp hreason
    rw [List.map_set, h', h.arrived, ← hget, List.set_getElem_self]
  have hmem : t ∈ s.triggers := List.mem_of_getElem? ht
  by_cases hsome : a.first.isSome = true
  · -- Whatever the trigger does, it is not the first.
    have hnote : a.note (.trigger i) = a := by
      rw [Roll.note, Option.or_of_isSome hsome]
    have hflag : s.flag = true := h.flag.trans hsome
    rw [hnote]
    cases t with
    | starting reason =>
      rw [ShutdownRace.stepTrigger, if_pos hflag]
      refine ⟨harrived _ rfl, h.flag, fun _ _ => Or.inr hsome, fun r hr => ?_, h.inboxes⟩
      rcases List.mem_or_eq_of_mem_set hr with hr | hr
      · exact h.claimed r hr
      · cases hr
    | claimed reason =>
      have hfirst := h.claimed reason hmem
      refine ⟨harrived _ rfl, h.flag, fun _ _ => Or.inr hsome, fun r hr => ?_, fun w hw r hr => ?_⟩
      · rcases List.mem_or_eq_of_mem_set hr with hr | hr
        · exact h.claimed r hr
        · cases hr
      · obtain ⟨w₀, hw₀, rfl⟩ := List.mem_map.mp hw
        rcases w₀.inbox_deliver reason r hr with hr | rfl
        · exact h.inboxes w₀ hw₀ r hr
        · exact hfirst
    | sent reason => exact h
    | late reason => exact h
  · obtain ⟨reason, rfl⟩ := (h.started t hmem).resolve_right hsome
    have hnone : a.first = none := by simpa using hsome
    have hflag : ¬s.flag = true := h.flag ▸ hsome
    have hnote : a.note (.trigger i) = { a with first := some reason } := by
      rw [Roll.note, hnone, Option.none_or, hreason]
      rfl
    rw [hnote, ShutdownRace.stepTrigger, if_neg hflag]
    refine ⟨harrived _ rfl, rfl, fun _ _ => Or.inr rfl, fun r hr => ?_, fun w hw r hr => ?_⟩
    · rcases List.mem_or_eq_of_mem_set hr with hr | hr
      · rw [h.claimed r hr] at hnone
        cases hnone
      · cases hr
        rfl
    · rw [h.inboxes w hw r hr] at hnone
      cases hnone

theorem Matches.step (h : Matches s a) (move : Move) : Matches (s.step move) (a.note move) := by
  cases move with
  | newWaiter =>
    refine ⟨h.arrived, h.flag, h.started, h.claimed, fun w hw r hr => ?_⟩
    rcases List.mem_append.mp hw with hw | hw
    · exact h.inboxes w hw r hr
    · rw [List.mem_singleton.mp hw] at hr
      cases hr
  | newTrigger reason =>
    refine ⟨?_, h.flag, fun t ht => ?_, fun r hr => ?_, h.inboxes⟩
    · simp [ShutdownRace.step, Roll.note, h.arrived, Trigger.reason]
    · rcases List.mem_append.mp ht with ht | ht
      · exact h.started t ht
      · exact Or.inl ⟨reason, List.mem_singleton.mp ht⟩
    · rcases List.mem_append.mp hr with hr | hr
      · exact h.claimed r hr
      · cases List.mem_singleton.mp hr
  | waiter i =>
    simp only [ShutdownRace.step, Roll.note]
    split
    · rename_i w hw
      refine ⟨h.arrived, h.flag, h.started, h.claimed, fun w' hw' r hr => ?_⟩
      rcases List.mem_or_eq_of_mem_set hw' with hw' | rfl
      · exact h.inboxes w' hw' r hr
      · exact h.inboxes w (List.mem_of_getElem? hw) r (w.inbox_step s.flag r hr)
    · exact h
  | trigger i =>
    cases ht : s.triggers[i]? with
    | some t =>
      simp only [ShutdownRace.step, ht]
      exact h.stepTrigger ht
    | none =>
      have hnone : a.arrived[i]? = none := by
        rw [← h.arrived, List.getElem?_map, ht, Option.map_none]
      simp only [ShutdownRace.step, ht, Roll.note, hnone, Option.or_none]
      exact h

theorem run_concat (s : ShutdownRace) (moves : List Move) (move : Move) :
    s.run (moves ++ [move]) = (s.run moves).step move := by
  rw [run, List.foldl_append]
  rfl

theorem roll_concat (moves : List Move) (move : Move) :
    roll (moves ++ [move]) = (roll moves).note move := by
  rw [roll, List.foldl_append]
  rfl

/-- What has happened in a run is what its moves tell. -/
theorem matches_run (moves : List Move) : Matches (run fresh moves) (roll moves) := by
  induction moves using List.reverseRecOn with
  | nil => exact matches_fresh
  | append_singleton moves move ih =>
    rw [run_concat, roll_concat]
    exact ih.step move

/-- Triggers make no waiter return. -/
theorem returned_stepTrigger_iff (s : ShutdownRace) (i : Nat) (t : Trigger) (r : ShutdownReason) :
    .returned r ∈ (s.stepTrigger i t).waiters ↔ .returned r ∈ s.waiters := by
  cases t with
  | starting reason =>
    rw [stepTrigger]
    split <;> rfl
  | claimed reason => simp [stepTrigger, Waiter.deliver_eq_returned_iff]
  | sent reason => rfl
  | late reason => rfl

/-- A waiter's step makes it return if that is what the step does, and no other. -/
theorem returned_set_iff {waiters : List Waiter} {i : Nat} {w : Waiter} (hw : waiters[i]? = some w)
    (flag : Bool) (r : ShutdownReason) :
    .returned r ∈ waiters.set i (w.step flag) ↔
      .returned r ∈ waiters ∨ w.step flag = .returned r := by
  constructor
  · intro h
    exact (List.mem_or_eq_of_mem_set h).imp_right Eq.symm
  · obtain ⟨hlt, -⟩ := List.getElem?_eq_some_iff.mp hw
    rintro (h | h)
    · obtain ⟨j, hj⟩ := List.mem_iff_getElem?.mp h
      by_cases hij : i = j
      · -- Whoever has returned stays so.
        subst hij
        rw [hw] at hj
        cases hj
        exact List.mem_set hlt _
      · refine List.mem_of_getElem? (i := j) ?_
        rw [List.getElem?_set_ne hij, hj]
    · rw [h]
      exact List.mem_set hlt _

/-- How a move makes a waiter return: by the flag it looks at, or by a message it takes. -/
theorem returned_step_iff (s : ShutdownRace) (move : Move) (r : ShutdownReason) :
    .returned r ∈ (s.step move).waiters ↔ .returned r ∈ s.waiters ∨
      ∃ i w, move = .waiter i ∧ s.waiters[i]? = some w ∧
        ((s.flag = true ∧ r = .graceful ∧ ∃ inbox, w = .subscribed inbox) ∨
          ∃ rest, w = .receiving (r :: rest)) := by
  cases move with
  | newWaiter => simp [step]
  | newTrigger reason => simp [step]
  | waiter i =>
    cases hw : s.waiters[i]? with
    | none => simp [step, hw]
    | some w =>
      have hmem : w = .returned r → .returned r ∈ s.waiters := fun h =>
        List.mem_of_getElem? (h ▸ hw)
      simp only [step, hw, returned_set_iff hw, Waiter.step_eq_returned_iff, Move.waiter.injEq]
      grind
  | trigger i =>
    cases ht : s.triggers[i]? with
    | none => simp [step, ht]
    | some t => simp [step, ht, returned_stepTrigger_iff]

theorem LooksLate.append {moves : List Move} (h : LooksLate moves) (more : List Move) :
    LooksLate (moves ++ more) := by
  obtain ⟨before, i, after, inbox, rfl, hlooks, hlate⟩ := h
  exact ⟨before, i, after ++ more, inbox, by simp, hlooks, hlate⟩

theorem first?_concat_of_isSome {moves : List Move} (h : (first? moves).isSome = true)
    (move : Move) : first? (moves ++ [move]) = first? moves := by
  rw [first?, roll_concat]
  exact Roll.first_note_of_isSome h move

/-- A waiter returns the reason of the first trigger, or it looked at the flag after that and
returns a graceful one. -/
theorem returned_cases {moves : List Move} {r : ShutdownReason}
    (h : .returned r ∈ (run fresh moves).waiters) :
    first? moves = some r ∨
      (r = .graceful ∧ LooksLate moves ∧ (first? moves).isSome = true) := by
  induction moves using List.reverseRecOn with
  | nil => simp [run, fresh] at h
  | append_singleton moves move ih =>
    have hmatches := matches_run moves
    rw [run_concat, returned_step_iff] at h
    rcases h with h | ⟨i, w, rfl, hw, ⟨hflag, hr, inbox, rfl⟩ | ⟨rest, rfl⟩⟩
    · rcases ih h with h | ⟨hr, hlate, hfirst⟩
      · exact Or.inl (by rw [first?_concat_of_isSome (by rw [h]; rfl), h])
      · exact Or.inr ⟨hr, hlate.append _, by rwa [first?_concat_of_isSome hfirst]⟩
    · have hfirst : (first? moves).isSome = true := hmatches.flag.symm.trans hflag
      exact Or.inr ⟨hr, ⟨moves, i, [], inbox, rfl, hw, hfirst⟩,
        by rwa [first?_concat_of_isSome hfirst]⟩
    · have hfirst : first? moves = some r :=
        hmatches.inboxes _ (List.mem_of_getElem? hw) r List.mem_cons_self
      exact Or.inl (by rw [first?_concat_of_isSome (by rw [hfirst]; rfl), hfirst])

theorem returned_run_append {r : ShutdownReason} {moves : List Move}
    (h : .returned r ∈ (run fresh moves).waiters) (more : List Move) :
    .returned r ∈ (run fresh (moves ++ more)).waiters := by
  induction more using List.reverseRecOn with
  | nil => simpa using h
  | append_singleton more move ih =>
    rw [← List.append_assoc, run_concat, returned_step_iff]
    exact Or.inl ih

/-- A waiter that looks at the flag late returns a graceful reason. -/
theorem graceful_of_looksLate {moves : List Move} (h : LooksLate moves) :
    .returned .graceful ∈ (run fresh moves).waiters := by
  obtain ⟨before, i, after, inbox, rfl, hlooks, hlate⟩ := h
  have hflag : (run fresh before).flag = true := (matches_run before).flag.trans hlate
  rw [List.append_cons]
  refine returned_run_append ?_ after
  rw [run_concat, returned_step_iff]
  exact Or.inr ⟨i, _, rfl, hlooks, Or.inl ⟨hflag, rfl, inbox, rfl⟩⟩

end ShutdownRace

/-! ## Agreement -/

namespace ShutdownReason

/-- If those who are told by the broadcast hear the first reason, and those who are told by the flag
a graceful one, all hear the first reason unless it is a forced one and some hear of it by the
flag. -/
theorem agree_iff {told : ShutdownReason → Prop} {first : Option ShutdownReason} {flagged : Prop}
    (hcases : ∀ r, told r → first = some r ∨ (r = .graceful ∧ flagged ∧ first.isSome = true))
    (hflagged : flagged → told .graceful) :
    (∀ r, told r → first = some r) ↔ ¬(first = some .force ∧ flagged) := by
  constructor
  · rintro hagree ⟨hforce, h⟩
    have hgraceful := hagree .graceful (hflagged h)
    rw [hforce] at hgraceful
    cases hgraceful
  · intro hnot r hr
    rcases hcases r hr with h | ⟨rfl, h, hsome⟩
    · exact h
    · obtain ⟨reason, hreason⟩ := Option.isSome_iff_exists.mp hsome
      cases reason with
      | graceful => exact hreason
      | force => exact absurd ⟨hreason, h⟩ hnot

/-- **When all waiters agree.**  Every task that has waited for the shutdown returns the reason of
the first trigger, unless that is a forced one and some task begins to wait after it; and if waiters
and triggers take their steps in any order, unless the trigger that comes first is a forced one and
some waiter looks at the flag after that. -/
theorem waiters_agree_iff (steps : List Shutdown.Step) (moves : List ShutdownRace.Move) :
    ((∀ r, r ∈ Shutdown.results steps → Shutdown.first? steps = some r) ↔
      ¬(Shutdown.first? steps = some .force ∧ Shutdown.WaitsLate steps)) ∧
    ((∀ r, .returned r ∈ (ShutdownRace.run .fresh moves).waiters →
        ShutdownRace.first? moves = some r) ↔
      ¬(ShutdownRace.first? moves = some .force ∧ ShutdownRace.LooksLate moves)) := by
  constructor
  · exact agree_iff (fun _ => Shutdown.result_cases) Shutdown.graceful_of_waitsLate
  · exact agree_iff (fun _ => ShutdownRace.returned_cases) ShutdownRace.graceful_of_looksLate

/-- A task that waits after a forced trigger is told of a graceful shutdown, also if the waiter and
the trigger take their steps one by one. -/
theorem forced_told_as_graceful :
    (¬∀ (steps : List Shutdown.Step) (r : ShutdownReason),
      r ∈ Shutdown.results steps → Shutdown.first? steps = some r) ∧
    ¬∀ (moves : List ShutdownRace.Move) (r : ShutdownReason),
      .returned r ∈ (ShutdownRace.run .fresh moves).waiters →
        ShutdownRace.first? moves = some r := by
  constructor
  · intro h
    have hgraceful := h [.trigger .force, .wait] .graceful (by decide)
    revert hgraceful
    decide
  · intro h
    have hgraceful := h [.newTrigger .force, .trigger 0, .trigger 0, .newWaiter, .waiter 0,
      .waiter 0] .graceful (by decide)
    revert hgraceful
    decide

end ShutdownReason
end AffinityGate
