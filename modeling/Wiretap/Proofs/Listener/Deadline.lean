import Mathlib.Data.List.Basic
import Mathlib.Data.Nat.Basic
import Mathlib.Tactic.Common
import Wiretap.Listener.Drain
import Wiretap.Proofs.Listener.Turns

/-!
# How long a stop waits

A stop with a deadline looks at the connections again and again.  Those that finish between its last
look and the deadline are not seen to have finished: the stop then fails, although it counts none
that is open.  What a wait comes to is therefore truthful (`Truthful`) unless the last of the
connections finishes just then.

When the looks are is up to the clock.  A wait is truthful whatever the connections do exactly if it
looks at the deadline itself, whenever it looks otherwise (`truthful_verdict_forall_iff`).  By a
clock that is never late this is so when the interval between two looks divides the deadline
(`outcome_truthful_iff`).

While a stop waits, everything else in the service goes on (`Waiting`), and no step but its own look
or its deadline brings it back (`draining_of_step`).  So it returns what the moments say at which the
connections finish (`wait_returns`).
-/

namespace Wiretap.Listener

set_option autoImplicit false

namespace Drain

/-! ## Looks at given moments -/

theorem openAt_eq_zero_iff {ends : List Nat} {moment : Nat} :
    openAt ends moment = 0 ↔ ∀ e ∈ ends, e ≤ moment := by
  simp [openAt, List.filter_eq_nil_iff]

theorem openAt_pos_iff {ends : List Nat} {moment : Nat} :
    1 ≤ openAt ends moment ↔ ∃ e ∈ ends, moment < e := by
  rw [Nat.one_le_iff_ne_zero, ne_eq, openAt_eq_zero_iff]
  simp

theorem any_look_iff {looks ends : List Nat} :
    (looks.any fun t => openAt ends t = 0) = true ↔ ∃ t ∈ looks, ∀ e ∈ ends, e ≤ t := by
  simp only [List.any_eq_true, decide_eq_true_eq, openAt_eq_zero_iff]

theorem verdict_eq_ok {looks ends : List Nat} (seen : ∃ t ∈ looks, ∀ e ∈ ends, e ≤ t)
    (deadline : Nat) : verdict looks deadline ends = .ok () :=
  if_pos (any_look_iff.mpr seen)

theorem verdict_eq_error {looks ends : List Nat} (unseen : ¬ ∃ t ∈ looks, ∀ e ∈ ends, e ≤ t)
    (deadline : Nat) :
    verdict looks deadline ends = .error (.stillOpen (openAt ends deadline)) :=
  if_neg (mt any_look_iff.mp unseen)

/-! ## Truthful waits -/

/-- A wait fails only if a connection is open at the deadline, and counts those that are; it
succeeds if all have finished before. -/
structure Truthful (deadline : Nat) (ends : List Nat) (result : Except Failure Unit) : Prop where
  failed : ∀ failure, result = .error failure →
    1 ≤ openAt ends deadline ∧ failure = .stillOpen (openAt ends deadline)
  succeeds : (∀ e ∈ ends, e < deadline) → result = .ok ()

theorem truthful_verdict_iff {looks ends : List Nat} {deadline : Nat} :
    Truthful deadline ends (verdict looks deadline ends) ↔
      (∃ t ∈ looks, ∀ e ∈ ends, e ≤ t) ∨ ∃ e ∈ ends, deadline < e := by
  constructor
  · intro truthful
    by_cases seen : ∃ t ∈ looks, ∀ e ∈ ends, e ≤ t
    · exact .inl seen
    · exact .inr (openAt_pos_iff.mp (truthful.failed _ (verdict_eq_error seen deadline)).1)
  · rintro (seen | late)
    · rw [verdict_eq_ok seen]
      exact ⟨nofun, fun _ => rfl⟩
    · by_cases seen : ∃ t ∈ looks, ∀ e ∈ ends, e ≤ t
      · rw [verdict_eq_ok seen]
        exact ⟨nofun, fun _ => rfl⟩
      · rw [verdict_eq_error seen]
        refine ⟨fun failure same => ?_, fun early => ?_⟩
        · cases same
          exact ⟨openAt_pos_iff.mpr late, rfl⟩
        · obtain ⟨e, member, later⟩ := late
          exact absurd (early e member) (Nat.lt_asymm later)

/-- **A wait is truthful whatever the connections do exactly if it looks at the deadline**, however
its other looks are placed: no earlier look sees that a connection has finished which finishes at the
deadline. -/
theorem truthful_verdict_forall_iff {looks : List Nat} {deadline : Nat}
    (within : ∀ t ∈ looks, t ≤ deadline) :
    (∀ ends, Truthful deadline ends (verdict looks deadline ends)) ↔ deadline ∈ looks := by
  constructor
  · intro truthful
    rcases truthful_verdict_iff.mp (truthful [deadline]) with ⟨t, member, seen⟩ | ⟨e, member, late⟩
    · have same : deadline = t := Nat.le_antisymm (seen deadline (by simp)) (within t member)
      exact same ▸ member
    · rw [List.mem_singleton.mp member] at late
      exact absurd late (Nat.lt_irrefl _)
  · intro member ends
    refine truthful_verdict_iff.mpr ?_
    by_cases late : ∃ e ∈ ends, deadline < e
    · exact .inr late
    · refine .inl ⟨deadline, member, fun e there => ?_⟩
      exact Nat.not_lt.mp fun later => late ⟨e, there, later⟩

/-! ## Looks in regular intervals -/

theorem mem_looks_iff {deadline t : Nat} : t ∈ looks deadline ↔ t ≤ deadline ∧ interval ∣ t := by
  simp only [looks, List.mem_map, List.mem_range, Nat.lt_succ_iff]
  constructor
  · rintro ⟨k, few, rfl⟩
    exact ⟨Nat.le_trans (Nat.mul_le_mul_right _ few) (Nat.div_mul_le_self _ _),
      Nat.dvd_mul_left _ _⟩
  · rintro ⟨early, k, rfl⟩
    refine ⟨k, ?_, Nat.mul_comm _ _⟩
    rw [Nat.le_div_iff_mul_le (by decide), Nat.mul_comm]
    exact early

/-- The moment of the last look. -/
def lastLook (deadline : Nat) : Nat := deadline / interval * interval

theorem lastLook_mem (deadline : Nat) : lastLook deadline ∈ looks deadline :=
  mem_looks_iff.mpr ⟨Nat.div_mul_le_self _ _, Nat.dvd_mul_left _ _⟩

theorem le_lastLook {deadline t : Nat} (member : t ∈ looks deadline) : t ≤ lastLook deadline := by
  obtain ⟨early, k, rfl⟩ := mem_looks_iff.mp member
  rw [lastLook, Nat.mul_comm]
  refine Nat.mul_le_mul_right _ ?_
  rw [Nat.le_div_iff_mul_le (by decide), Nat.mul_comm]
  exact early

/-- Connections that have finished at some look have finished at the last one. -/
theorem seen_iff {deadline : Nat} {ends : List Nat} :
    (∃ t ∈ looks deadline, ∀ e ∈ ends, e ≤ t) ↔ ∀ e ∈ ends, e ≤ lastLook deadline := by
  constructor
  · rintro ⟨t, member, seen⟩ e there
    exact Nat.le_trans (seen e there) (le_lastLook member)
  · intro seen
    exact ⟨lastLook deadline, lastLook_mem deadline, seen⟩

end Drain

namespace Service

/-! ## Waiting stops -/

/-- A call changes only where it stands itself.  One that waits for the connections goes on with a
look at them, or when its deadline passes. -/
theorem calls_of_step {s t : Service} {a : Action} (step : s.step a = some t) :
    t.calls = s.calls ∨ (∃ c, t.calls = s.calls ++ [c]) ∨
      ∃ i c, t.calls = s.calls.set i c ∧
        (s.calls[i]? = some .draining → a = .polled i ∨ a = .expired i) := by
  cases a with
  | start =>
    cases step
    unfold start
    split <;> exact .inr (.inl ⟨_, rfl⟩)
  | stop drains =>
    cases step
    unfold stop
    split <;> exact .inr (.inl ⟨_, rfl⟩)
  | bound i result =>
    simp only [Service.step] at step
    split at step
    · next binding =>
      cases step
      have stays : s.calls[i]? = some .draining →
          Action.bound i result = .polled i ∨ Action.bound i result = .expired i := by simp [binding]
      unfold bind
      split
      · exact .inr (.inr ⟨i, _, rfl, stays⟩)
      · split <;> exact .inr (.inr ⟨i, _, rfl, stays⟩)
    · cases step
  | joined i =>
    simp only [Service.step] at step
    split at step
    · next joining =>
      split at step
      · cases step
        exact .inr (.inr ⟨i, _, rfl, by simp [joining]⟩)
      · cases step
    · cases step
  | polled i =>
    simp only [Service.step] at step
    split at step
    · split at step <;> cases step
      · exact .inr (.inr ⟨i, _, rfl, fun _ => .inl rfl⟩)
      · exact .inl rfl
    · cases step
  | expired i =>
    simp only [Service.step] at step
    split at step <;> cases step
    exact .inr (.inr ⟨i, _, rfl, fun _ => .inr rfl⟩)
  | loop i e => exact .inl (quiet_advanceLoop step).calls
  | task i => exact .inl (quiet_advanceTask step).calls
  | attended i attendance => exact .inl (quiet_concludeTask step).calls
  | install executor => cases step; exact .inl rfl

/-- A stop waits on while others go on. -/
theorem draining_of_step {s t : Service} {a : Action} {call : Nat} (step : s.step a = some t)
    (leaves : a ≠ .polled call ∧ a ≠ .expired call) (draining : s.calls[call]? = some .draining) :
    t.calls[call]? = some .draining := by
  rcases calls_of_step step with same | ⟨c, grown⟩ | ⟨i, c, changed, own⟩
  · rw [same, draining]
  · rw [grown, List.getElem?_append_left (List.getElem?_eq_some_iff.mp draining).1, draining]
  · have other : i ≠ call := by
      rintro rfl
      rcases own draining with looked | expired
      · exact leaves.1 looked
      · exact leaves.2 expired
    rw [changed, List.getElem?_set_ne other, draining]

theorem draining_of_run {s t : Service} {actions : List Action} {call : Nat}
    (run : s.run actions = some t)
    (leaves : ∀ a ∈ actions, a ≠ .polled call ∧ a ≠ .expired call)
    (draining : s.calls[call]? = some .draining) : t.calls[call]? = some .draining := by
  induction actions generalizing s with
  | nil =>
    cases run
    exact draining
  | cons a actions ih =>
    rw [Service.run, List.foldlM_cons] at run
    obtain ⟨next, step, rest⟩ := Option.bind_eq_some_iff.mp run
    have still := draining_of_step step (leaves a (.head _)) draining
    exact ih rest (fun b member => leaves b (.tail _ member)) still

/-- A stop waits in the course of the service, from one millisecond to the next. -/
structure Waiting (call : Nat) (course : Nat → Service) : Prop where
  draining : (course 0).calls[call]? = some .draining
  goesOn : ∀ t, ∃ actions, (course t).run actions = some (course (t + 1)) ∧
    ∀ a ∈ actions, a ≠ .polled call ∧ a ≠ .expired call

namespace Waiting

variable {call : Nat} {course : Nat → Service}

/-- The stop waits at every moment of the course, which is a run of the service. -/
theorem at_moment (waiting : Waiting call course) (t : Nat) :
    (course t).calls[call]? = some .draining ∧
      ∃ actions, (course 0).run actions = some (course t) := by
  induction t with
  | zero => exact ⟨waiting.draining, [], rfl⟩
  | succ t ih =>
    obtain ⟨still, before, run⟩ := ih
    obtain ⟨actions, goesOn, leaves⟩ := waiting.goesOn t
    refine ⟨draining_of_run goesOn leaves still, before ++ actions, ?_⟩
    rw [Service.run, List.foldlM_append]
    exact Option.bind_eq_some_iff.mpr ⟨course t, run, goesOn⟩

/-- A step at some moment of the course ends a run of the service. -/
theorem exists_run_of_step (waiting : Waiting call course) {t : Nat} {a : Action} {s : Service}
    (step : (course t).step a = some s) : ∃ actions, (course 0).run actions = some s := by
  obtain ⟨-, actions, run⟩ := waiting.at_moment t
  refine ⟨actions ++ [a], ?_⟩
  rw [Service.run, List.foldlM_append]
  refine Option.bind_eq_some_iff.mpr ⟨course t, run, ?_⟩
  rw [List.foldlM_cons, step]
  rfl

end Waiting

theorem isIdle_iff {s : Service} : s.tracker.isIdle = true ↔ s.active = 0 := by
  rw [Tracker.isIdle, List.isEmpty_iff, active, Tracker.count, List.length_eq_zero_iff]

/-- **A stop returns what the moments say at which its connections finish**, and by way of a run of
the service. -/
theorem wait_returns {call deadline : Nat} {course : Nat → Service} {looks ends : List Nat}
    (waiting : Waiting call course) (within : ∀ t ∈ looks, t ≤ deadline)
    (times : ∀ t ≤ deadline, (course t).active = Drain.openAt ends t) :
    ∃ s actions, wait course call looks deadline = some s ∧ (course 0).run actions = some s ∧
      s.calls[call]? = some (.stopped (Drain.verdict looks deadline ends)) := by
  have idle_iff : ∀ t ∈ looks, (course t).tracker.isIdle = true ↔ ∀ e ∈ ends, e ≤ t := by
    intro t look
    rw [isIdle_iff, times t (within t look), Drain.openAt_eq_zero_iff]
  cases seen : looks.find? fun t => (course t).tracker.isIdle with
  | some t =>
    have look := List.mem_of_find?_eq_some seen
    have idle : (course t).tracker.isIdle = true := by simpa using List.find?_some seen
    have draining := (waiting.at_moment t).1
    have step : (course t).step (.polled call) =
        some ((course t).setCall call (.stopped (.ok ()))) := by
      simp only [Service.step, draining, idle, if_true]
    obtain ⟨actions, run⟩ := waiting.exists_run_of_step step
    refine ⟨_, actions, by simp only [wait, seen, step], run, ?_⟩
    rw [Drain.verdict_eq_ok ⟨t, look, (idle_iff t look).mp idle⟩]
    exact List.getElem?_set_self (List.getElem?_eq_some_iff.mp draining).1
  | none =>
    have unseen : ¬ ∃ t ∈ looks, ∀ e ∈ ends, e ≤ t := by
      rintro ⟨t, look, ended⟩
      exact List.find?_eq_none.mp seen t look ((idle_iff t look).mpr ended)
    have draining := (waiting.at_moment deadline).1
    have step : (course deadline).step (.expired call) = some ((course deadline).setCall call
        (.stopped (.error (.stillOpen (course deadline).active)))) := by
      simp only [Service.step, draining]
    obtain ⟨actions, run⟩ := waiting.exists_run_of_step step
    refine ⟨_, actions, by simp only [wait, seen, step], run, ?_⟩
    rw [Drain.verdict_eq_error unseen, ← times deadline (Nat.le_refl _)]
    exact List.getElem?_set_self (List.getElem?_eq_some_iff.mp draining).1

end Service

namespace Drain

open Service (Waiting)

/-- **By a clock that is never late a stop is truthful about the connections whatever they do exactly
if the interval of its looks divides the deadline.**  For given connections it is unless the last of
them finishes behind the last look but not behind the deadline.  By any clock it is truthful whatever
they do exactly if it looks at the deadline.  And whatever goes on in the service while a stop waits,
it returns what the moments say at which the connections finish. -/
theorem outcome_truthful_iff (deadline : Nat) :
    ((∀ ends, Truthful deadline ends (outcome deadline ends)) ↔ interval ∣ deadline) ∧
    (∀ ends, Truthful deadline ends (outcome deadline ends) ↔
      (∀ e ∈ ends, e ≤ lastLook deadline) ∨ ∃ e ∈ ends, deadline < e) ∧
    (∀ ends, outcome deadline ends =
      if ∀ e ∈ ends, e ≤ lastLook deadline then .ok ()
      else .error (.stillOpen (openAt ends deadline))) ∧
    (∀ looks : List Nat, (∀ t ∈ looks, t ≤ deadline) →
      ((∀ ends, Truthful deadline ends (verdict looks deadline ends)) ↔ deadline ∈ looks) ∧
      ∀ (call : Nat) (course : Nat → Service) (ends : List Nat), Waiting call course →
        (∀ t ≤ deadline, (course t).active = openAt ends t) →
          ∃ s actions, Service.wait course call looks deadline = some s ∧
            (course 0).run actions = some s ∧
            s.calls[call]? = some (.stopped (verdict looks deadline ends))) := by
  have within : ∀ t ∈ looks deadline, t ≤ deadline := fun t look => (mem_looks_iff.mp look).1
  refine ⟨?_, fun ends => ?_, fun ends => ?_, fun looks early => ⟨?_, ?_⟩⟩
  · simp only [outcome, truthful_verdict_forall_iff within, mem_looks_iff]
    exact and_iff_right (Nat.le_refl _)
  · rw [outcome, truthful_verdict_iff, seen_iff]
  · rw [outcome]
    split
    · next seen => exact verdict_eq_ok (seen_iff.mpr seen) deadline
    · next unseen => exact verdict_eq_error (mt seen_iff.mp unseen) deadline
  · exact truthful_verdict_forall_iff early
  · intro call course ends waiting times
    exact Service.wait_returns waiting early times

/-- A listener accepts a connection and is stopped while it is attended. -/
def parting : List Action :=
  [.start, .bound 0 (.ok { ip := .v4 0, port := 8080 }), .loop 0 .acquired, .loop 0 .accepted,
    .task 0, .stop true, .loop 0 .acquired, .loop 0 .stopped, .joined 1]

def withGuest : Service := ((Service.fresh none).run parting).getD (Service.fresh none)

/-- The connection has been attended. -/
def withoutGuest : Service :=
  (withGuest.step (.attended 0 ⟨⟨some .http, none⟩, none⟩)).getD withGuest

theorem run_parting : (Service.fresh none).run parting = some withGuest := rfl

/-- The connection finishes after 28 milliseconds. -/
def leaving (t : Nat) : Service := if t < 28 then withGuest else withoutGuest

theorem active_leaving (t : Nat) : (leaving t).active = openAt [28] t := by
  rw [leaving, openAt, List.filter_singleton]
  split
  · next before =>
    rw [decide_eq_true before]
    rfl
  · next after =>
    rw [decide_eq_false after]
    rfl

theorem waiting_leaving : Waiting 1 leaving where
  draining := rfl
  goesOn t := by
    rcases Nat.lt_trichotomy t 27 with before | rfl | after
    · refine ⟨[], ?_, by simp⟩
      rw [leaving, leaving, if_pos (by omega), if_pos (by omega)]
      rfl
    · exact ⟨[.attended 0 ⟨⟨some .http, none⟩, none⟩], rfl, by simp⟩
    · refine ⟨[], ?_, by simp⟩
      rw [leaving, leaving, if_neg (by omega), if_neg (by omega)]
      rfl

/-- The stop that waits for 42 milliseconds fails with no connection open. -/
theorem outcome_truthful_with_guest : Service.Reachable none (leaving 0) ∧
    ∃ s, Service.wait leaving 1 (looks 42) 42 = some s ∧
      s.calls[1]? = some (.stopped (.error (.stillOpen 0))) := by
  have within : ∀ t ∈ looks 42, t ≤ 42 := by decide
  obtain ⟨s, -, waited, -, returned⟩ := ((outcome_truthful_iff 42).2.2.2 (looks 42) within).2
    1 leaving [28] waiting_leaving fun t _ => active_leaving t
  exact ⟨Service.Reachable.fresh.run run_parting, s, waited, returned⟩

/-- A connection that finishes after 28 milliseconds is not seen to have finished by a stop that
waits for 42, which fails and counts none. -/
theorem not_truthful_of_late_end :
    ¬ ∀ (deadline : Nat) (ends : List Nat), Truthful deadline ends (outcome deadline ends) := by
  intro truthful
  have counted := ((truthful 42 [28]).failed (.stillOpen 0) rfl).1
  exact absurd counted (by decide)

end Drain

end Wiretap.Listener
