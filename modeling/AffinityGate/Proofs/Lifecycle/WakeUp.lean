import AffinityGate.Proofs.Lifecycle.Reasons

/-!
# No wake-up is lost

A waiter subscribes before it looks at the flag, and a trigger claims the flag before it sends.  So
a waiter that finds the flag down is among those that are sent to, and a waiter that subscribes too
late for that finds the flag up.  A shutdown has three phases: nothing is claimed, one trigger has
claimed the flag (`Claimed`), and that trigger has sent (`Announced`); `phase_run` says that every
run is in one of them.  `no_wake_up_lost` draws the conclusion for the waiters.
-/

namespace AffinityGate

namespace Waiter

/-- The steps that a waiter still takes before it has returned, if the flag is up and the waiter is
not blocked. -/
def stepsLeft : Waiter → Nat
  | .starting => 2
  | .subscribed _ | .receiving _ => 1
  | .returned _ => 0

theorem stepsLeft_le (w : Waiter) : w.stepsLeft ≤ 2 := by
  cases w <;> simp [stepsLeft]

theorem stepsLeft_eq_zero_iff {w : Waiter} : w.stepsLeft = 0 ↔ ∃ reason, w = .returned reason := by
  cases w <;> simp [stepsLeft]

@[simp] theorem stepsLeft_deliver (reason : ShutdownReason) (w : Waiter) :
    (w.deliver reason).stepsLeft = w.stepsLeft := by
  cases w <;> rfl

/-- Who is sent to is not blocked. -/
theorem isBlocked_deliver (reason : ShutdownReason) (w : Waiter) :
    (w.deliver reason).isBlocked = false := by
  cases w with
  | receiving inbox => cases inbox <;> rfl
  | _ => rfl

theorem inbox_deliver_of_empty {w : Waiter} (hw : w.inbox = []) (reason : ShutdownReason) :
    (w.deliver reason).inbox.length ≤ 1 := by
  cases w <;> simp_all [deliver, inbox]

theorem length_inbox_step_le (flag : Bool) (w : Waiter) :
    (w.step flag).inbox.length ≤ w.inbox.length := by
  cases w with
  | subscribed inbox => cases flag <;> simp [step, Waiter.inbox]
  | receiving inbox => cases inbox <;> simp [step, Waiter.inbox]
  | _ => simp [step, inbox]

/-- A waiter that finds the flag up does not begin to receive. -/
theorem isBlocked_step {w : Waiter} (hw : w.isBlocked = false) :
    (w.step true).isBlocked = false := by
  cases w with
  | receiving inbox =>
    cases inbox with
    | nil => cases hw
    | cons reason rest => rfl
  | _ => rfl

/-- With the flag up, every step of a waiter that is not blocked brings it closer to its return. -/
theorem stepsLeft_step {w : Waiter} (hw : w.isBlocked = false) :
    (w.step true).stepsLeft = w.stepsLeft - 1 := by
  cases w with
  | receiving inbox =>
    cases inbox with
    | nil => cases hw
    | cons reason rest => rfl
  | _ => rfl

end Waiter

/-- Whether a trigger has claimed the flag. -/
def Trigger.leads : Trigger → Bool
  | .claimed _ | .sent _ => true
  | .starting _ | .late _ => false

namespace ShutdownRace

variable {s : ShutdownRace} {i : Nat} {t : Trigger} {reason : ShutdownReason}

/-! ## The trigger that leads -/

/-- The trigger at a position has claimed the flag, and no other has. -/
structure LedBy (s : ShutdownRace) (i : Nat) (t : Trigger) : Prop where
  flag : s.flag = true
  leader : s.triggers[i]? = some t
  alone : ∀ j t', s.triggers[j]? = some t' → t'.leads = true → j = i

/-- What a move other than the leader's does: it leaves the leader where it stands, and the waiters
too, but for one that arrives or takes a step with the flag up. -/
theorem LedBy.step_of_ne (h : s.LedBy i t) {move : Move} (hmove : move ≠ .trigger i) :
    (s.step move).LedBy i t ∧ ∀ w' ∈ (s.step move).waiters,
      w' ∈ s.waiters ∨ w' = .starting ∨ ∃ w ∈ s.waiters, w' = w.step true := by
  cases move with
  | newWaiter =>
    refine ⟨⟨h.flag, h.leader, h.alone⟩, fun w' hw' => ?_⟩
    rcases List.mem_append.mp hw' with hw' | hw'
    · exact Or.inl hw'
    · exact Or.inr (Or.inl (List.mem_singleton.mp hw'))
  | newTrigger reason =>
    obtain ⟨hlt, -⟩ := List.getElem?_eq_some_iff.mp h.leader
    refine ⟨⟨h.flag, ?_, fun j t' hj hleads => ?_⟩, fun w' hw' => Or.inl hw'⟩
    · rw [ShutdownRace.step, List.getElem?_append_left hlt]
      exact h.leader
    · rw [ShutdownRace.step, List.getElem?_append] at hj
      split at hj
      · exact h.alone j t' hj hleads
      · rw [List.getElem?_singleton] at hj
        split at hj
        · cases hj
          cases hleads
        · cases hj
  | waiter j =>
    simp only [ShutdownRace.step]
    split
    · rename_i w hw
      refine ⟨⟨h.flag, h.leader, h.alone⟩, fun w' hw' => ?_⟩
      rcases List.mem_or_eq_of_mem_set hw' with hw' | rfl
      · exact Or.inl hw'
      · rw [h.flag]
        exact Or.inr (Or.inr ⟨w, List.mem_of_getElem? hw, rfl⟩)
    · exact ⟨h, fun w' hw' => Or.inl hw'⟩
  | trigger j =>
    have hj : j ≠ i := fun hj => hmove (hj ▸ rfl)
    simp only [ShutdownRace.step]
    split
    · rename_i t' ht'
      cases t' with
      | starting reason' =>
        -- The flag is up already, so this trigger comes too late and claims nothing.
        rw [stepTrigger, if_pos h.flag]
        refine ⟨⟨h.flag, ?_, fun k t' hk hleads => ?_⟩, fun w' hw' => Or.inl hw'⟩
        · rw [List.getElem?_set_ne hj]
          exact h.leader
        · rw [List.getElem?_set] at hk
          split at hk
          · split at hk
            · cases hk
              cases hleads
            · cases hk
          · exact h.alone k t' hk hleads
      | claimed reason' => exact absurd (h.alone j _ ht' rfl) hj
      | sent reason' => exact ⟨h, fun w' hw' => Or.inl hw'⟩
      | late reason' => exact ⟨h, fun w' hw' => Or.inl hw'⟩
    · exact ⟨h, fun w' hw' => Or.inl hw'⟩

/-! ## Phases -/

/-- A trigger has claimed the flag and has not sent yet. -/
structure Claimed (s : ShutdownRace) (i : Nat) (reason : ShutdownReason) : Prop extends
    LedBy s i (.claimed reason) where
  empty : ∀ w ∈ s.waiters, w.inbox = []

/-- The trigger that claimed the flag has sent. -/
structure Announced (s : ShutdownRace) (i : Nat) (reason : ShutdownReason) : Prop extends
    LedBy s i (.sent reason) where
  unblocked : ∀ w ∈ s.waiters, w.isBlocked = false
  single : ∀ w ∈ s.waiters, w.inbox.length ≤ 1

/-- A claim is followed by the sending of its own trigger and by nothing else. -/
theorem Claimed.step (h : s.Claimed i reason) (move : Move) :
    (s.step move).Claimed i reason ∨ (s.step move).Announced i reason := by
  by_cases hmove : move = .trigger i
  · subst hmove
    obtain ⟨hlt, -⟩ := List.getElem?_eq_some_iff.mp h.leader
    simp only [ShutdownRace.step, h.leader]
    refine Or.inr ⟨⟨h.flag, ?_, fun j t' hj hleads => ?_⟩, fun w' hw' => ?_, fun w' hw' => ?_⟩
    · exact List.getElem?_set_self hlt
    · by_cases hij : i = j
      · exact hij.symm
      · refine h.alone j t' ?_ hleads
        rwa [stepTrigger, List.getElem?_set_ne hij] at hj
    · obtain ⟨w, -, rfl⟩ := List.mem_map.mp hw'
      exact w.isBlocked_deliver reason
    · obtain ⟨w, hw, rfl⟩ := List.mem_map.mp hw'
      exact Waiter.inbox_deliver_of_empty (h.empty w hw) reason
  · obtain ⟨hled, hwaiters⟩ := h.step_of_ne hmove
    -- Before the sending nobody has been sent to, and a waiter's own step adds no message.
    refine Or.inl ⟨hled, fun w' hw' => ?_⟩
    rcases hwaiters w' hw' with hw' | rfl | ⟨w, hw, rfl⟩
    · exact h.empty w' hw'
    · rfl
    · have hle := w.length_inbox_step_le true
      rw [h.empty w hw] at hle
      exact List.length_eq_zero_iff.mp (Nat.le_zero.mp hle)

/-- What is announced stays announced. -/
theorem Announced.step (h : s.Announced i reason) (move : Move) :
    (s.step move).Announced i reason := by
  by_cases hmove : move = .trigger i
  · subst hmove
    simp only [ShutdownRace.step, h.leader]
    exact h
  · obtain ⟨hled, hwaiters⟩ := h.step_of_ne hmove
    refine ⟨hled, fun w' hw' => ?_, fun w' hw' => ?_⟩
    · rcases hwaiters w' hw' with hw' | rfl | ⟨w, hw, rfl⟩
      · exact h.unblocked w' hw'
      · rfl
      · exact Waiter.isBlocked_step (h.unblocked w hw)
    · rcases hwaiters w' hw' with hw' | rfl | ⟨w, hw, rfl⟩
      · exact h.single w' hw'
      · exact Nat.zero_le 1
      · exact Nat.le_trans (w.length_inbox_step_le true) (h.single w hw)

/-- The first trigger to take a step claims the flag. -/
theorem Matches.claimed_step {a : Roll} (h : Matches s a) (hnone : a.first = none) {move : Move}
    (hfirst : (a.note move).first = some reason) : ∃ i, (s.step move).Claimed i reason := by
  cases move with
  | newWaiter => simp [Roll.note, hnone] at hfirst
  | newTrigger reason' => simp [Roll.note, hnone] at hfirst
  | waiter i => simp [Roll.note, hnone] at hfirst
  | trigger i =>
    have harrived : (s.triggers.map Trigger.reason)[i]? = some reason := by
      simpa [Roll.note, hnone, h.arrived] using hfirst
    rw [List.getElem?_map, Option.map_eq_some_iff] at harrived
    obtain ⟨t, ht, htreason⟩ := harrived
    have hstarting : ∀ t ∈ s.triggers, t.leads = false := fun t' ht' => by
      obtain ⟨r, rfl⟩ := (h.started t' ht').resolve_right (by simp [hnone])
      rfl
    have hflag : s.flag = false := by rw [h.flag, hnone]; rfl
    have hempty : ∀ w ∈ s.waiters, w.inbox = [] := fun w hw =>
      List.eq_nil_iff_forall_not_mem.mpr fun r hr => by
        have hsome := h.inboxes w hw r hr
        rw [hnone] at hsome
        cases hsome
    obtain ⟨hlt, -⟩ := List.getElem?_eq_some_iff.mp ht
    obtain ⟨r, rfl⟩ := (h.started t (List.mem_of_getElem? ht)).resolve_right (by simp [hnone])
    obtain rfl : r = reason := htreason
    refine ⟨i, ?_⟩
    simp only [ShutdownRace.step, ht, ShutdownRace.stepTrigger, hflag, Bool.false_eq_true,
      if_false]
    refine ⟨⟨rfl, List.getElem?_set_self hlt, fun j t' hj hleads => ?_⟩, hempty⟩
    by_cases hij : i = j
    · exact hij.symm
    · simp only [List.getElem?_set_ne hij] at hj
      rw [hstarting t' (List.mem_of_getElem? hj)] at hleads
      cases hleads

/-- **Phases of a run.**  Once a first trigger has taken a step, one trigger leads, with its reason,
and has claimed the flag or sent. -/
theorem phase_run {moves : List Move} (hfirst : first? moves = some reason) :
    ∃ i, (run fresh moves).Claimed i reason ∨ (run fresh moves).Announced i reason := by
  induction moves using List.reverseRecOn with
  | nil => cases hfirst
  | append_singleton moves move ih =>
    rw [run_concat]
    cases hbefore : first? moves with
    | none =>
      rw [first?, roll_concat] at hfirst
      obtain ⟨i, hclaimed⟩ := (matches_run moves).claimed_step hbefore hfirst
      exact ⟨i, Or.inl hclaimed⟩
    | some reason' =>
      have hsame := first?_concat_of_isSome (by rw [hbefore]; rfl) move
      rw [hfirst, hbefore] at hsame
      obtain rfl := Option.some.inj hsame
      obtain ⟨i, hclaimed | hannounced⟩ := ih hbefore
      · exact ⟨i, hclaimed.step move⟩
      · exact ⟨i, Or.inr (hannounced.step move)⟩

/-- A trigger that has sent is the one that leads, and its reason is the first. -/
theorem announced_of_sent {moves : List Move}
    (h : (run fresh moves).triggers[i]? = some (.sent reason)) :
    first? moves = some reason ∧ (run fresh moves).Announced i reason := by
  have hmatches := matches_run moves
  have hsome : (first? moves).isSome = true :=
    (hmatches.started _ (List.mem_of_getElem? h)).resolve_left (by simp)
  obtain ⟨first, hfirst⟩ := Option.isSome_iff_exists.mp hsome
  obtain ⟨j, hclaimed | hannounced⟩ := phase_run hfirst
  · obtain rfl := hclaimed.alone i _ h rfl
    have hleader := hclaimed.leader
    rw [h] at hleader
    cases hleader
  · obtain rfl := hannounced.alone i _ h rfl
    have hleader := hannounced.leader
    rw [h] at hleader
    cases hleader
    exact ⟨hfirst, hannounced⟩

/-! ## Returning -/

/-- After the announcement a waiter comes closer to its return by each of its own steps, and by
those alone. -/
theorem Announced.stepsLeft_step (h : s.Announced i reason) {j : Nat} {w : Waiter}
    (hw : s.waiters[j]? = some w) (move : Move) :
    ∃ w', (s.step move).waiters[j]? = some w' ∧
      w'.stepsLeft = w.stepsLeft - [move].count (.waiter j) := by
  obtain ⟨hlt, -⟩ := List.getElem?_eq_some_iff.mp hw
  cases move with
  | newWaiter => exact ⟨w, by rw [ShutdownRace.step, List.getElem?_append_left hlt, hw], by simp⟩
  | newTrigger reason' => exact ⟨w, hw, by simp⟩
  | waiter k =>
    by_cases hk : k = j
    · subst hk
      refine ⟨w.step true, ?_, ?_⟩
      · simp only [ShutdownRace.step, hw, h.flag]
        exact List.getElem?_set_self hlt
      · simpa using Waiter.stepsLeft_step (h.unblocked w (List.mem_of_getElem? hw))
    · refine ⟨w, ?_, by simp [hk]⟩
      simp only [ShutdownRace.step]
      split
      · rw [List.getElem?_set_ne hk, hw]
      · exact hw
  | trigger k =>
    simp only [ShutdownRace.step]
    split
    · rename_i t ht
      cases t with
      | starting reason' => exact ⟨w, by rw [stepTrigger, if_pos h.flag, hw], by simp⟩
      | claimed reason' =>
        refine ⟨w.deliver reason', ?_, by simp⟩
        simp [stepTrigger, hw]
      | sent reason' => exact ⟨w, hw, by simp⟩
      | late reason' => exact ⟨w, hw, by simp⟩
    · exact ⟨w, hw, by simp⟩

theorem Announced.stepsLeft_run (h : s.Announced i reason) {j : Nat} {w : Waiter}
    (hw : s.waiters[j]? = some w) (more : List Move) :
    ∃ w', (s.run more).waiters[j]? = some w' ∧
      w'.stepsLeft = w.stepsLeft - more.count (.waiter j) := by
  induction more generalizing s w with
  | nil => exact ⟨w, hw, rfl⟩
  | cons move more ih =>
    obtain ⟨w₁, hw₁, hleft₁⟩ := h.stepsLeft_step hw move
    obtain ⟨w₂, hw₂, hleft₂⟩ := ih (h.step move) hw₁
    refine ⟨w₂, hw₂, ?_⟩
    rw [hleft₂, hleft₁, Nat.sub_sub, ← List.count_append, List.singleton_append]

/-- **No wake-up is lost.**  Whatever the order of steps, a waiter has returned only if some trigger
has claimed the flag, and has returned a forced reason only if that of the first trigger is.  A
trigger that has taken both its steps is the first one; from then on no waiter is blocked, and a
waiter returns by its second step at the latest.  No waiter ever has more than one message to
take. -/
theorem no_wake_up_lost (moves : List Move) :
    let s := run fresh moves
    (∀ r, .returned r ∈ s.waiters → s.flag = true ∧ (∃ i t, s.LedBy i t ∧ t.leads = true) ∧
      (r = .force → first? moves = some .force)) ∧
    (∀ i reason, s.triggers[i]? = some (.sent reason) →
      s.LedBy i (.sent reason) ∧ first? moves = some reason ∧
      (∀ w ∈ s.waiters, w.isBlocked = false) ∧
      ∀ j < s.waiters.length, ∀ more : List Move, 2 ≤ more.count (.waiter j) →
        ∃ r, (s.run more).waiters[j]? = some (.returned r)) ∧
    ∀ w ∈ s.waiters, w.inbox.length ≤ 1 := by
  intro s
  refine ⟨fun r hr => ?_, fun i reason hsent => ?_, fun w hw => ?_⟩
  · have hsome : (first? moves).isSome = true := by
      rcases returned_cases hr with hfirst | ⟨-, -, hfirst⟩
      · rw [hfirst]
        rfl
      · exact hfirst
    obtain ⟨reason, hfirst⟩ := Option.isSome_iff_exists.mp hsome
    refine ⟨(matches_run moves).flag.trans hsome, ?_, ?_⟩
    · obtain ⟨i, hclaimed | hannounced⟩ := phase_run hfirst
      · exact ⟨i, _, hclaimed.toLedBy, rfl⟩
      · exact ⟨i, _, hannounced.toLedBy, rfl⟩
    · rintro rfl
      exact (returned_cases hr).resolve_right fun h => by cases h.1
  · obtain ⟨hfirst, hannounced⟩ := announced_of_sent hsent
    refine ⟨hannounced.toLedBy, hfirst, hannounced.unblocked, fun j hj more hmore => ?_⟩
    obtain ⟨w, hw, hleft⟩ := hannounced.stepsLeft_run (List.getElem?_eq_getElem hj) more
    have hle := (s.waiters[j]).stepsLeft_le
    obtain ⟨r, rfl⟩ := Waiter.stepsLeft_eq_zero_iff.mp (show w.stepsLeft = 0 by omega)
    exact ⟨r, hw⟩
  · cases hfirst : first? moves with
    | none =>
      have hempty : w.inbox = [] := List.eq_nil_iff_forall_not_mem.mpr fun r hr => by
        have hsome := (matches_run moves).inboxes w hw r hr
        rw [← first?, hfirst] at hsome
        cases hsome
      rw [hempty]
      exact Nat.zero_le 1
    | some reason =>
      obtain ⟨i, hclaimed | hannounced⟩ := phase_run hfirst
      · rw [hclaimed.empty w hw]
        exact Nat.zero_le 1
      · exact hannounced.single w hw

/-- One waiter receives before a forced trigger claims the flag, and another subscribes between the
claim and the sending.  Both return: the first is told by the message, the second by the flag. -/
theorem told_by_message_and_by_flag :
    let moves : List Move := [.newWaiter, .newWaiter, .newTrigger .force, .waiter 0, .waiter 0,
      .trigger 0, .waiter 1, .trigger 0]
    let more : List Move := [.waiter 1, .waiter 0, .waiter 0, .waiter 1]
    let s := run fresh moves
    s.triggers[0]? = some (.sent .force) ∧ s.waiters = [.receiving [.force], .subscribed [.force]] ∧
    ∃ r₀ r₁, (s.run more).waiters[0]? = some (.returned r₀) ∧
      (s.run more).waiters[1]? = some (.returned r₁) := by
  intro moves more s
  have hsent : s.triggers[0]? = some (.sent .force) := by decide
  obtain ⟨-, -, -, hreturns⟩ := (no_wake_up_lost moves).2.1 0 .force hsent
  obtain ⟨r₀, h₀⟩ := hreturns 0 (by decide) more (by decide)
  obtain ⟨r₁, h₁⟩ := hreturns 1 (by decide) more (by decide)
  exact ⟨hsent, by decide, r₀, r₁, h₀, h₁⟩

end ShutdownRace
end AffinityGate
