import Mathlib.Tactic.Common
import Wiretap.Listener.Service

/-!
# What a step of the listener can do

A step of the service leaves most of it alone.  `Move` lists what a step can do to the loops, to the
connections and to the tracker (`move_of_step`), so that an invariant of these needs one argument for
each kind of move and none for each kind of call.  What every step keeps, a run keeps (`run_keeps`).
-/

namespace Wiretap.Listener

set_option autoImplicit false

/-! ## Moves -/

namespace Service

/-- What a step can do to the loops, the connections and the tracker. -/
inductive Move (s : Service) : Service → Prop where
  /-- A call goes on; it tells at most one loop to stop. -/
  | call {t : Service} (told : Option Nat) (loops : t.loops = tell s.loops told)
      (tasks : t.tasks = s.tasks) (tracker : t.tracker = s.tracker) : Move s t
  /-- A start makes a loop with permits of its own, if there can be that many. -/
  | opened {t : Service} (fits : ∀ n, s.limit = some n → n ≤ permitLimit)
      (loops : t.loops = s.loops ++ [{ limit := s.limit }])
      (tasks : t.tasks = s.tasks) (tracker : t.tracker = s.tracker) : Move s t
  /-- A loop goes on; when it accepts a connection, there is one more. -/
  | looped {t : Service} (i : Nat) (e : LoopEvent) (l l' : Loop) (found : s.loops[i]? = some l)
      (step : l.step e = some l') (loops : t.loops = s.loops.set i l')
      (tasks : t.tasks = if e = .accepted then s.tasks ++ [{ loop := i }] else s.tasks)
      (tracker : t.tracker = s.tracker) : Move s t
  /-- A connection is tracked. -/
  | tracked {t : Service} (i : Nat) (task : ConnectionTask) (found : s.tasks[i]? = some task)
      (phase : task.phase = .accepted) (loops : t.loops = s.loops)
      (tasks : t.tasks = s.tasks.set i
        { task with phase := .attended s.tracker.track.1, executor := s.executor })
      (tracker : t.tracker = s.tracker.track.2) : Move s t
  /-- A connection has been attended. -/
  | attended {t : Service} (i : Nat) (task : ConnectionTask) (id : Nat) (attendance : Attendance)
      (found : s.tasks[i]? = some task) (phase : task.phase = .attended id)
      (loops : t.loops = s.loops)
      (tasks : t.tasks = s.tasks.set i { task with phase := .attendedTo attendance })
      (tracker : t.tracker = s.tracker.release id) : Move s t
  /-- A connection gives its permit back. -/
  | finished {t : Service} (i : Nat) (task : ConnectionTask) (attendance : Attendance)
      (found : s.tasks[i]? = some task) (phase : task.phase = .attendedTo attendance)
      (loops : t.loops = s.loops.modify task.loop Loop.release)
      (tasks : t.tasks = s.tasks.set i { task with phase := .finished attendance })
      (tracker : t.tracker = s.tracker) : Move s t

theorem move_start (s : Service) : s.start.limit = s.limit ∧ Move s s.start := by
  unfold start
  split <;> exact ⟨rfl, .call none rfl rfl rfl⟩

theorem move_stop (s : Service) (drains : Bool) :
    (s.stop drains).limit = s.limit ∧ Move s (s.stop drains) := by
  unfold stop
  split
  · exact ⟨rfl, .call s.lifecycle.signal rfl rfl rfl⟩
  · exact ⟨rfl, .call none rfl rfl rfl⟩

theorem move_bind (s : Service) (i : Nat) (result : Except IoFault Address.Socket) :
    (s.bind i result).limit = s.limit ∧ Move s (s.bind i result) := by
  unfold bind
  split
  · exact ⟨rfl, .call none rfl rfl rfl⟩
  · split
    · exact ⟨rfl, .call none rfl rfl rfl⟩
    · next small =>
      have fits : ∀ n, s.limit = some n → n ≤ permitLimit := by
        intro n limited
        simpa [limited] using small
      exact ⟨rfl, .opened fits rfl rfl rfl⟩

theorem move_advanceLoop {s t : Service} {i : Nat} {e : LoopEvent}
    (step : s.advanceLoop i e = some t) : t.limit = s.limit ∧ Move s t := by
  simp only [advanceLoop, Option.bind_eq_bind, Option.bind_eq_some_iff, Option.pure_def] at step
  obtain ⟨l, found, l', moved, step⟩ := step
  cases step
  by_cases accepts : e = .accepted
  · rw [if_pos accepts]
    exact ⟨rfl, .looped i e l l' found moved rfl (if_pos accepts).symm rfl⟩
  · rw [if_neg accepts]
    exact ⟨rfl, .looped i e l l' found moved rfl (if_neg accepts).symm rfl⟩

theorem move_advanceTask {s t : Service} {i : Nat} (step : s.advanceTask i = some t) :
    t.limit = s.limit ∧ Move s t := by
  simp only [advanceTask, Option.bind_eq_bind, Option.bind_eq_some_iff] at step
  obtain ⟨task, found, step⟩ := step
  cases phase : task.phase with
  | accepted =>
    simp only [phase, Option.pure_def, Option.some.injEq] at step
    subst step
    exact ⟨rfl, .tracked i task found phase rfl rfl rfl⟩
  | attended id => simp [phase] at step
  | attendedTo attendance =>
    simp only [phase, Option.pure_def, Option.some.injEq] at step
    subst step
    exact ⟨rfl, .finished i task attendance found phase rfl rfl rfl⟩
  | finished attendance => simp [phase] at step

theorem move_concludeTask {s t : Service} {i : Nat} {attendance : Attendance}
    (step : s.concludeTask i attendance = some t) : t.limit = s.limit ∧ Move s t := by
  simp only [concludeTask, Option.bind_eq_bind, Option.bind_eq_some_iff] at step
  obtain ⟨task, found, step⟩ := step
  cases phase : task.phase with
  | attended id =>
    simp only [phase, Option.pure_def, Option.some.injEq] at step
    subst step
    exact ⟨rfl, .attended i task id attendance found phase rfl rfl rfl⟩
  | accepted => simp [phase] at step
  | attendedTo attendance => simp [phase] at step
  | finished attendance => simp [phase] at step

/-- **Every step is one of the moves, and keeps the limit.** -/
theorem move_of_step {s t : Service} {a : Action} (step : s.step a = some t) :
    t.limit = s.limit ∧ Move s t := by
  cases a with
  | start => cases step; exact move_start s
  | stop drains => cases step; exact move_stop s drains
  | bound i result =>
    simp only [Service.step] at step
    split at step <;> cases step
    exact move_bind s i result
  | joined i =>
    simp only [Service.step] at step
    split at step
    · split at step <;> cases step
      exact ⟨rfl, .call none rfl rfl rfl⟩
    · cases step
  | polled i =>
    simp only [Service.step] at step
    split at step
    · split at step <;> cases step <;> exact ⟨rfl, .call none rfl rfl rfl⟩
    · cases step
  | expired i =>
    simp only [Service.step] at step
    split at step <;> cases step
    exact ⟨rfl, .call none rfl rfl rfl⟩
  | loop i e => exact move_advanceLoop step
  | task i => exact move_advanceTask step
  | attended i attendance => exact move_concludeTask step
  | install executor => cases step; exact ⟨rfl, .call none rfl rfl rfl⟩

/-! ## Runs -/

/-- What every step keeps, a run keeps. -/
theorem run_keeps {P : Service → Prop}
    (keeps : ∀ {s t : Service} {a : Action}, s.step a = some t → P s → P t) {s t : Service}
    {actions : List Action} (run : s.run actions = some t) (before : P s) : P t := by
  induction actions generalizing s with
  | nil =>
    cases run
    exact before
  | cons a actions ih =>
    rw [Service.run, List.foldlM_cons] at run
    obtain ⟨next, step, rest⟩ := Option.bind_eq_some_iff.mp run
    exact ih rest (keeps step before)

/-- What a listener comes to in a run is a state that it can come to. -/
theorem Reachable.run {limit : Option Nat} {s t : Service} (reachable : Reachable limit s)
    {actions : List Action} (run : s.run actions = some t) : Reachable limit t :=
  run_keeps (fun step before => before.step step) run reachable

theorem Reachable.limit_eq {limit : Option Nat} {s : Service} (reachable : Reachable limit s) :
    s.limit = limit := by
  induction reachable with
  | fresh => rfl
  | step _ step before => exact (move_of_step step).1.trans before

end Service

/-! ## Loops under a step -/

namespace Loop

@[simp] theorem limit_release (l : Loop) : l.release.limit = l.limit := by
  unfold release
  split <;> rfl

@[simp] theorem phase_release (l : Loop) : l.release.phase = l.phase := by
  unfold release
  split <;> rfl

theorem limit_step {l l' : Loop} {e : LoopEvent} (step : l.step e = some l') :
    l'.limit = l.limit := by
  unfold Loop.step at step
  split at step
  · unfold acquire at step
    split at step <;> cases step <;> rfl
  · split at step <;> cases step
    rfl
  · cases step; rfl
  · cases step; rfl
  · split at step <;> cases step
    exact limit_release l
  · cases step
    exact limit_release l
  · cases step

end Loop

namespace Service

/-- No loop is taken away, and one that has exited goes on no more. -/
theorem Move.loop_stays {s t : Service} (move : Move s t) {i : Nat} {l : Loop}
    (found : s.loops[i]? = some l) :
    ∃ l', t.loops[i]? = some l' ∧ (l.phase = .exited → l'.phase = .exited) := by
  cases move with
  | call told loops tasks tracker =>
    rw [loops]
    cases told with
    | none => exact ⟨l, found, id⟩
    | some k =>
      rw [tell, List.getElem?_modify, found]
      refine ⟨_, rfl, fun exited => ?_⟩
      split <;> exact exited
  | opened fits loops tasks tracker =>
    rw [loops, List.getElem?_append_left (List.getElem?_eq_some_iff.mp found).1]
    exact ⟨l, found, id⟩
  | looped k e m m' own step loops tasks tracker =>
    rw [loops, List.getElem?_set]
    split
    · next here =>
      subst here
      rw [found] at own
      cases own
      rw [if_pos (List.getElem?_eq_some_iff.mp found).1]
      exact ⟨m', rfl, fun exited => absurd step (by simp [Loop.step, exited])⟩
    · exact ⟨l, found, id⟩
  | tracked k task own phase loops tasks tracker => exact ⟨l, loops ▸ found, id⟩
  | attended k task _ attendance own phase loops tasks tracker => exact ⟨l, loops ▸ found, id⟩
  | finished k task attendance own phase loops tasks tracker =>
    rw [loops, List.getElem?_modify, found]
    refine ⟨_, rfl, fun exited => ?_⟩
    split
    · exact (Loop.phase_release l).trans exited
    · exact exited

end Service

end Wiretap.Listener
