import AffinityGate.Lifecycle.Broadcast
import AffinityGate.Proofs.Lifecycle.Reasons

/-!
# Delivery of the shutdown message

A shutdown is broadcast at most once, with the reason of its first trigger.
`first_trigger_delivered_once` says, for any steps of any number of receivers and triggers, who gets
the message and when, and that the bounded channel behind the shutdown never runs over:
`Relay.Carries` ties the queues of the receivers to the flag and the channel.
-/

namespace AffinityGate

namespace Shutdown

variable {s : Shutdown} {r : Relay}

/-! ## The channel carries the queues -/

/-- A flag and a channel stand for a shutdown: each receiver has what is in front of its cursor, and
nothing is sent before the flag is up, and one message at most after it. -/
structure Relay.Carries (r : Relay) (s : Shutdown) : Prop where
  flag : r.flag = s.initiated
  queues : r.channel.cursors.map r.channel.sent.drop = s.receivers
  behind : ∀ p ∈ r.channel.cursors, p ≤ r.channel.sent.length
  single : r.channel.sent.length ≤ r.flag.toNat

namespace Relay

theorem carries_fresh : Relay.fresh.Carries Shutdown.fresh where
  flag := rfl
  queues := rfl
  behind := List.forall_mem_nil _
  single := Nat.le_refl 0

theorem Carries.getElem?_queues (h : r.Carries s) (i : Nat) :
    s.receivers[i]? = r.channel.cursors[i]?.map r.channel.sent.drop := by
  rw [← h.queues, List.getElem?_map]

/-- No receiver is further behind than the channel keeps messages. -/
theorem Carries.not_lags (h : r.Carries s) (p : Nat) :
    ¬channelCapacity < r.channel.sent.length - p := by
  have hsingle := h.single
  have hflag : r.flag.toNat ≤ 1 := r.flag.toNat_le
  unfold channelCapacity
  omega

/-- What a receiver is told by the channel is what it is answered. -/
theorem Carries.receive (h : r.Carries s) (i : Nat) :
    (s.step (.receive i)).2 = .received ((r.channel.receive i).2.map Broadcast.Reply.message?) ∧
      (∀ missed, (r.channel.receive i).2 ≠ some (.lagged missed)) ∧
      (r.step (.receive i)).Carries (s.step (.receive i)).1 := by
  have hqueue := h.getElem?_queues i
  cases hcursor : r.channel.cursors[i]? with
  | none =>
    rw [hcursor, Option.map_none] at hqueue
    simp only [Shutdown.step, Relay.step, Broadcast.receive, hqueue, hcursor]
    exact ⟨rfl, by simp, h⟩
  | some p =>
    rw [hcursor, Option.map_some] at hqueue
    simp only [Shutdown.step, Relay.step, Broadcast.receive, hqueue, hcursor, h.not_lags, if_false]
    cases hmessage : r.channel.sent[p]? with
    | none =>
      rw [List.drop_eq_nil_of_le (List.getElem?_eq_none_iff.mp hmessage)]
      exact ⟨rfl, by simp, h⟩
    | some m =>
      obtain ⟨hlt, hget⟩ := List.getElem?_eq_some_iff.mp hmessage
      rw [List.drop_eq_getElem_cons hlt, hget]
      refine ⟨rfl, by simp, h.flag, ?_, fun q hq => ?_, h.single⟩
      · simp only
        rw [List.map_set, h.queues]
      · rcases List.mem_or_eq_of_mem_set hq with hq | rfl
        · exact h.behind q hq
        · exact hlt

theorem Carries.step (h : r.Carries s) (step : Step) : (r.step step).Carries (s.step step).1 := by
  cases step with
  | subscribe =>
    refine ⟨h.flag, ?_, fun p hp => ?_, h.single⟩
    · simp [Relay.step, Broadcast.subscribe, Shutdown.step, h.queues]
    · rcases List.mem_append.mp hp with hp | hp
      · exact h.behind p hp
      · exact Nat.le_of_eq (List.mem_singleton.mp hp)
  | trigger reason =>
    simp only [Relay.step, Shutdown.step, trigger, ← h.flag]
    cases hflag : r.flag with
    | true => exact h
    | false =>
      have hnone : r.channel.sent.length = 0 := by
        have hsingle := h.single
        rw [hflag] at hsingle
        exact Nat.le_zero.mp hsingle
      simp only [Bool.false_eq_true, if_false, Broadcast.send]
      refine ⟨rfl, ?_, fun p hp => ?_, ?_⟩
      · rw [← h.queues, List.map_map]
        exact List.map_congr_left fun p hp => List.drop_append_of_le_length (h.behind p hp)
      · rw [List.length_append]
        exact Nat.le_add_right_of_le (h.behind p hp)
      · rw [List.length_append, hnone]
        exact Nat.le_refl 1
  | receive i => exact (h.receive i).2.2
  | wait => exact h
  | spawnWaiter => exact ⟨h.flag, h.queues, h.behind, h.single⟩
  | join i =>
    simp only [Relay.step, Shutdown.step]
    split
    · exact h
    · exact h
    · exact ⟨h.flag, h.queues, h.behind, h.single⟩

theorem run_concat (r : Relay) (steps : List Step) (step : Step) :
    r.run (steps ++ [step]) = (r.run steps).step step := by
  rw [run, List.foldl_append]
  rfl

theorem carries_play (steps : List Step) : (Relay.fresh.run steps).Carries (play steps).1 := by
  induction steps using List.reverseRecOn with
  | nil => exact carries_fresh
  | append_singleton steps step ih =>
    rw [run_concat, play_concat]
    exact ih.step step

theorem sent_step (r : Relay) (step : Step) :
    (r.step step).channel.sent =
      if r.flag then r.channel.sent else r.channel.sent ++ step.reason?.toList := by
  cases step with
  | trigger reason =>
    simp only [Relay.step]
    split
    · rfl
    · rfl
  | receive i =>
    simp only [Relay.step, Broadcast.receive, Step.reason?, Option.toList_none, List.append_nil,
      ite_self]
    split
    · rfl
    · split
      · rfl
      · split <;> rfl
  | _ => simp [Relay.step, Broadcast.subscribe, Step.reason?]

/-- All that is ever sent is the reason of the first trigger. -/
theorem sent_run (steps : List Step) :
    (Relay.fresh.run steps).channel.sent = (first? steps).toList := by
  induction steps using List.reverseRecOn with
  | nil => rfl
  | append_singleton steps step ih =>
    rw [run_concat, sent_step, (carries_play steps).flag, initiated_play, ih, first?_concat]
    cases first? steps with
    | none => rfl
    | some reason => rfl

end Relay

/-! ## What receivers take -/

/-- What a receiver has not taken yet. -/
def pending (s : Shutdown) (i : Nat) : List ShutdownReason :=
  s.receivers[i]?.getD []

/-- The message that a receiver takes by a step with this answer. -/
def Step.takes? (i : Nat) : Step → Answer → Option ShutdownReason
  | .receive j, .received (some message) => if j = i then message else none
  | _, _ => none

/-- The messages that a receiver takes in the course of some steps. -/
def taken (steps : List Step) (i : Nat) : List ShutdownReason :=
  (steps.zip (play steps).2).filterMap fun p => p.1.takes? i p.2

theorem length_answers (steps : List Step) : (play steps).2.length = steps.length := by
  induction steps using List.reverseRecOn with
  | nil => rfl
  | append_singleton steps step ih =>
    rw [play_concat, List.length_append, List.length_append, ih]
    rfl

theorem taken_concat (steps : List Step) (step : Step) (i : Nat) :
    taken (steps ++ [step]) i =
      taken steps i ++ (step.takes? i ((play steps).1.step step).2).toList := by
  rw [taken, play_concat, List.zip_append (length_answers steps).symm, List.filterMap_append]
  refine congrArg (taken steps i ++ ·) ?_
  cases htaken : step.takes? i ((play steps).1.step step).2 <;> simp [htaken]

theorem length_receivers_play (steps : List Step) :
    (play steps).1.receivers.length = steps.count .subscribe := by
  induction steps using List.reverseRecOn with
  | nil => rfl
  | append_singleton steps step ih =>
    rw [play_concat, List.count_append, ← ih]
    cases step with
    | subscribe => simp [Shutdown.step]
    | trigger reason =>
      simp only [Shutdown.step, trigger]
      split <;> simp
    | receive i =>
      simp only [Shutdown.step]
      split <;> simp
    | join i =>
      simp only [Shutdown.step]
      split <;> simp
    | wait => simp [Shutdown.step]
    | spawnWaiter => simp [Shutdown.step]

/-- What one step does to a receiver: its own receiving takes the next message, and the trigger that
initiates the shutdown leaves one with those that have subscribed. -/
theorem pending_step (s : Shutdown) (step : Step) (i : Nat) :
    (s.step step).1.pending i =
        (if step = .receive i then (s.pending i).tail
        else if s.initiated = false ∧ i < s.receivers.length then s.pending i ++ step.reason?.toList
        else s.pending i) ∧
      step.takes? i (s.step step).2 = if step = .receive i then (s.pending i).head? else none := by
  cases step with
  | subscribe =>
    refine ⟨?_, rfl⟩
    simp only [Shutdown.step, pending, Step.reason?, Option.toList_none, List.append_nil, ite_self,
      reduceCtorEq, if_false, List.getElem?_append, List.getElem?_singleton]
    split
    · rfl
    · rename_i hle
      rw [List.getElem?_eq_none (Nat.le_of_not_lt hle)]
      split <;> rfl
  | trigger reason =>
    refine ⟨?_, rfl⟩
    simp only [Shutdown.step, trigger, reduceCtorEq, if_false, Step.reason?, Option.toList_some]
    cases hinitiated : s.initiated with
    | true => simp
    | false =>
      simp only [Bool.false_eq_true, if_false, true_and, pending, List.getElem?_map]
      split
      · rename_i hlt
        rw [List.getElem?_eq_getElem hlt]
        rfl
      · rename_i hle
        rw [List.getElem?_eq_none (Nat.le_of_not_lt hle)]
        rfl
  | receive j =>
    simp only [Shutdown.step, Step.reason?, Option.toList_none, List.append_nil, ite_self,
      Step.receive.injEq]
    split
    · rename_i hget
      by_cases hj : j = i
      · subst hj
        simp [pending, hget, Step.takes?]
      · simp [hj, Step.takes?]
    · rename_i hget
      by_cases hj : j = i
      · subst hj
        simp [pending, hget, Step.takes?]
      · simp [hj, Step.takes?]
    · rename_i m rest hget
      obtain ⟨hlt, hqueue⟩ := List.getElem?_eq_some_iff.mp hget
      by_cases hj : j = i
      · subst hj
        simp [pending, hlt, hqueue, Step.takes?]
      · simp [pending, hj, Step.takes?]
  | wait => simp [Shutdown.step, Step.reason?, Step.takes?, pending]
  | spawnWaiter => simp [Shutdown.step, Step.reason?, Step.takes?, pending]
  | join j =>
    simp only [Shutdown.step, Step.reason?, Option.toList_none, List.append_nil, ite_self,
      reduceCtorEq, if_false]
    split <;> exact ⟨rfl, rfl⟩

/-- Before a trigger nobody has anything to take. -/
theorem nothing_before_trigger {steps : List Step} (h : first? steps = none) (i : Nat) :
    (play steps).1.pending i = [] ∧ taken steps i = [] := by
  induction steps using List.reverseRecOn with
  | nil => exact ⟨rfl, rfl⟩
  | append_singleton steps step ih =>
    rw [first?_concat, Option.or_eq_none_iff] at h
    obtain ⟨hpending, htaken⟩ := ih h.1
    obtain ⟨hpending', htakes⟩ := pending_step (play steps).1 step i
    rw [taken_concat, play_concat, hpending', htakes, htaken, hpending, h.2]
    simp

theorem first?_split {before : List Step} (h : first? before = none) (reason : ShutdownReason)
    (after : List Step) : first? (before ++ .trigger reason :: after) = some reason := by
  rw [first?, List.findSome?_append, ← first?, h]
  rfl

/-- After the first trigger a receiver that had subscribed has its reason to take until it receives
for the first time, and has taken it from then on; any other receiver has nothing. -/
theorem delivered_after_trigger {before : List Step} (h : first? before = none)
    (reason : ShutdownReason) (after : List Step) (i : Nat) :
    ((play (before ++ .trigger reason :: after)).1.pending i,
        taken (before ++ .trigger reason :: after) i) =
      if i < before.count .subscribe then
        if .receive i ∈ after then ([], [reason]) else ([reason], [])
      else ([], []) := by
  induction after using List.reverseRecOn with
  | nil =>
    obtain ⟨hpending, htaken⟩ := nothing_before_trigger h i
    obtain ⟨hpending', htakes⟩ := pending_step (play before).1 (.trigger reason) i
    have hinitiated : (play before).1.initiated = false := by rw [initiated_play, h]; rfl
    rw [taken_concat, play_concat, hpending', htakes, htaken, hpending, hinitiated,
      length_receivers_play]
    by_cases hearly : i < before.count .subscribe
    · simp [hearly, Step.reason?]
    · simp [hearly]
  | append_singleton after step ih =>
    rw [← List.cons_append, ← List.append_assoc]
    obtain ⟨hpending', htakes⟩ :=
      pending_step (play (before ++ .trigger reason :: after)).1 step i
    have hinitiated : (play (before ++ .trigger reason :: after)).1.initiated = true := by
      rw [initiated_play, first?_split h]
      rfl
    rw [taken_concat, play_concat, hpending', htakes, hinitiated]
    by_cases hearly : i < before.count .subscribe
    · by_cases hread : .receive i ∈ after
      · rw [if_pos hearly, if_pos hread] at ih
        obtain ⟨hpending, htaken⟩ := Prod.mk.inj ih
        simp [hearly, hread, hpending, htaken]
      · rw [if_pos hearly, if_neg hread] at ih
        obtain ⟨hpending, htaken⟩ := Prod.mk.inj ih
        by_cases hstep : step = .receive i
        · simp [hearly, hstep, hpending, htaken]
        · simp [hearly, hread, hstep, Ne.symm hstep, hpending, htaken]
    · rw [if_neg hearly] at ih
      obtain ⟨hpending, htaken⟩ := Prod.mk.inj ih
      simp [hearly, hpending, htaken]

theorem first?_isSome_iff (steps : List Step) :
    (first? steps).isSome = true ↔ ∃ reason, .trigger reason ∈ steps := by
  rw [first?, List.findSome?_isSome_iff]
  constructor
  · rintro ⟨step, hstep, hreason⟩
    cases step with
    | trigger reason => exact ⟨reason, hstep⟩
    | _ => cases hreason
  · rintro ⟨reason, hstep⟩
    exact ⟨_, hstep, rfl⟩

/-- **The first trigger is delivered once.**  After any steps, the shutdown is initiated exactly if
there was a trigger; one more trigger reports success, whatever came before; all that was ever sent
over the channel is the reason of the first trigger; and no receiver is told that it lags, so that
what the channel tells it is what it is answered.  A receiver takes nothing before the first
trigger.  After it, one that had subscribed takes its reason once, by the first receiving that
follows, and one that had not takes nothing. -/
theorem first_trigger_delivered_once (steps : List Step) :
    let s := (play steps).1
    let channel := (Relay.fresh.run steps).channel
    (s.initiated = true ↔ ∃ reason, .trigger reason ∈ steps) ∧
    (∀ reason, (play (steps ++ [.trigger reason])).2 = (play steps).2 ++ [.triggered]) ∧
    channel.sent = (first? steps).toList ∧
    (∀ i, (∀ missed, (channel.receive i).2 ≠ some (.lagged missed)) ∧
      (s.step (.receive i)).2 = .received ((channel.receive i).2.map Broadcast.Reply.message?)) ∧
    (first? steps = none → ∀ i, taken steps i = []) ∧
    ∀ before reason after, steps = before ++ .trigger reason :: after → first? before = none →
      first? steps = some reason ∧ ∀ i, taken steps i =
        if i < before.count .subscribe ∧ .receive i ∈ after then [reason] else [] := by
  intro s channel
  have hcarries := Relay.carries_play steps
  refine ⟨?_, fun reason => ?_, Relay.sent_run steps, fun i => ?_,
    fun h i => (nothing_before_trigger h i).2, ?_⟩
  · rw [initiated_play, first?_isSome_iff]
  · rw [play_concat]
    rfl
  · obtain ⟨hanswer, hlags, -⟩ := hcarries.receive i
    exact ⟨hlags, hanswer⟩
  · rintro before reason after rfl hbefore
    refine ⟨first?_split hbefore reason after, fun i => ?_⟩
    refine (congrArg Prod.snd (delivered_after_trigger hbefore reason after i)).trans ?_
    rw [ite_and, apply_ite Prod.snd, apply_ite Prod.snd]

/-- Two receivers, one before and one after a forced trigger that a graceful one follows: the first
takes the forced reason, by one of its two receivings, and the second takes nothing. -/
theorem early_and_late_receiver :
    let before : List Step := [.receive 0, .subscribe, .receive 0]
    let after : List Step := [.subscribe, .trigger .graceful, .receive 1, .receive 0, .receive 0]
    let steps := before ++ .trigger .force :: after
    (play steps).1.initiated = true ∧ (Relay.fresh.run steps).channel.sent = [.force] ∧
    taken before 0 = [] ∧ taken steps 0 = [.force] ∧ taken steps 1 = [] := by
  intro before after steps
  obtain ⟨hinitiated, -, hsent, -, -, hdelivered⟩ := first_trigger_delivered_once steps
  obtain ⟨hfirst, htaken⟩ := hdelivered before .force after rfl (by decide)
  obtain ⟨-, -, -, -, hnothing, -⟩ := first_trigger_delivered_once before
  refine ⟨hinitiated.mpr ⟨.force, by decide⟩, ?_, hnothing (by decide) 0, ?_, ?_⟩
  · rw [hsent, hfirst]
    rfl
  · rw [htaken 0]
    decide
  · rw [htaken 1]
    decide

end Shutdown
end AffinityGate
