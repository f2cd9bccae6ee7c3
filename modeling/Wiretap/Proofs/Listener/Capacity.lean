import Mathlib.Algebra.BigOperators.Group.Finset.Piecewise
import Mathlib.Algebra.Order.BigOperators.Group.Finset
import Wiretap.Proofs.Listener.Permits

/-!
# How many connections there are at once

Every loop has permits of its own, and with them it keeps its connections within the limit: a
connection takes over the permit that its loop held before it was accepted, and gives it back after
it has been attended (`conserves_permits`).

A stop ends no connection, so a listener that is started again may attend those of its earlier loops
beside the new ones.  The limit therefore bounds the connections of each loop, and those of the
listener only as long as no second loop is made (`within_limit_iff`).
-/

namespace Wiretap.Listener

set_option autoImplicit false

namespace Service

/-! ## The permit of a connection -/

/-- What a step does to the permit of a connection that loop `i` accepts or has accepted. -/
inductive Passage (s : Service) (i k : Nat) (l l' : Loop) (task' : ConnectionTask) : Prop where
  /-- The connection is new, and takes over the permit that the loop held. -/
  | taken (new : s.tasks.length = k) (before : l.held = 1) (after : l'.held = 0)
      (available : l'.available = l.available) (held : task'.held = 1)
  /-- The connection holds what it held. -/
  | kept (task : ConnectionTask) (found : s.tasks[k]? = some task) (loop : task.loop = i)
      (held : task'.held = task.held)
  /-- The connection, tracked no more, gives its permit back to the loop. -/
  | returned (task : ConnectionTask) (attendance : Attendance) (found : s.tasks[k]? = some task)
      (loop : task.loop = i) (phase : task.phase = .attendedTo attendance) (before : task.held = 1)
      (after : task'.held = 0) (held : l'.held = l.held)
      (available : l'.available = l.available + 1)

/-- A connection that a step does not touch holds what it held. -/
theorem Passage.of_same {s : Service} {i k : Nat} {l l' : Loop} {task : ConnectionTask}
    (found : s.tasks[k]? = some task) (loop : task.loop = i) : Passage s i k l l' task :=
  .kept task found loop rfl

/-- Where one connection goes on with the permit that it holds, all do. -/
theorem Passage.of_set {s : Service} {i j k : Nat} {l l' : Loop} {task after task' : ConnectionTask}
    (found : s.tasks[j]? = some task) (there : (s.tasks.set j after)[k]? = some task')
    (same : after.loop = task.loop) (held : after.held = task.held) (loop : task'.loop = i) :
    Passage s i k l l' task' := by
  rcases getElem?_set_cases there with ⟨rfl, rfl⟩ | ⟨_, before⟩
  · exact .kept task found (same.symm.trans loop) held
  · exact .of_same before loop

/-- The loop that accepts a connection hands its permit over. -/
theorem Passage.of_accepted {s : Service} {l l' : Loop} {n : Nat} (limited : l.limit = some n)
    (step : l.step .accepted = some l') {i k : Nat} {task : ConnectionTask}
    (new : s.tasks.length = k) (held : task.held = 1) : Passage s i k l l' task := by
  cases phase : l.phase with
  | accepting =>
    simp only [Loop.step, phase, Option.some.injEq] at step
    subst step
    exact .taken new (Loop.held_eq_one limited (.inl phase)) (Loop.held_eq_zero (.inl rfl)) rfl held
  | acquiring => simp [Loop.step, phase] at step
  | resting => simp [Loop.step, phase] at step
  | exited => simp [Loop.step, phase] at step

/-- **A connection takes its permit from its loop when it is accepted, and holds it until it is
tracked no more.** -/
theorem Move.passage {s t : Service} {n : Nat} (sound : Sound s) (limited : s.limit = some n)
    (move : Move s t) {i k : Nat} {l l' : Loop} {task' : ConnectionTask}
    (found : s.loops[i]? = some l) (found' : t.loops[i]? = some l')
    (there : t.tasks[k]? = some task') (loop : task'.loop = i) : Passage s i k l l' task' := by
  have limited' : l.limit = some n := (sound.limits l (List.mem_of_getElem? found)).trans limited
  cases move with
  | call told loops tasks tracker => exact .of_same (tasks ▸ there) loop
  | opened fits loops tasks tracker => exact .of_same (tasks ▸ there) loop
  | looped j e m m' own step loops tasks tracker =>
    rw [tasks] at there
    split at there
    · next accepts =>
      rcases getElem?_concat_cases there with ⟨new, rfl⟩ | before
      · subst accepts loop
        rw [found] at own
        rw [loops, List.getElem?_set_self (List.getElem?_eq_some_iff.mp found).1] at found'
        cases own
        cases found'
        exact .of_accepted limited' step new rfl
      · exact .of_same before loop
    · exact .of_same there loop
  | tracked j task own phase loops tasks tracker =>
    rw [tasks] at there
    exact .of_set own there rfl (by simp [ConnectionTask.held, phase]) loop
  | attended j task id attendance own phase loops tasks tracker =>
    rw [tasks] at there
    exact .of_set own there rfl (by simp [ConnectionTask.held, phase]) loop
  | finished j task attendance own phase loops tasks tracker =>
    rw [tasks] at there
    rcases getElem?_set_cases there with ⟨rfl, rfl⟩ | ⟨_, before⟩
    · have own_loop : task.loop = i := loop
      rw [loops, List.getElem?_modify, found, Option.map_eq_map, Option.map_some, if_pos own_loop,
        Option.some.injEq] at found'
      subst found'
      have held : task.held = 1 := by simp [ConnectionTask.held, phase]
      exact .returned task attendance own own_loop phase held rfl (Loop.held_release l)
        (Loop.available_release limited')
    · exact .of_same before loop

/-- Connections that have finished hold no permit. -/
theorem permitsOut_eq_zero_of_finished {s : Service} {i : Nat}
    (finished : ∀ task ∈ s.tasks, task.loop = i → ∃ attendance, task.phase = .finished attendance) :
    s.permitsOut i = 0 := by
  refine List.sum_eq_zero fun held member => ?_
  obtain ⟨task, accepted, rfl⟩ := List.mem_map.mp member
  split
  · next own =>
    obtain ⟨attendance, phase⟩ := finished task accepted own
    simp [ConnectionTask.held, phase]
  · rfl

/-- A connection holds one permit until it has finished. -/
theorem held_cases (task : ConnectionTask) :
    task.held = 1 ∨ task.held = 0 ∧ ∃ attendance, task.phase = .finished attendance := by
  cases phase : task.phase <;> simp [ConnectionTask.held, phase]

/-- **A loop loses no permit.**  Those that are available, the one that it may hold and those of its
unfinished connections are as many as the limit; a connection holds one from before it is accepted
until it is tracked no more, the tracker counting those that are attended; and behind the exit of
the loop and the end of its connections all are available. -/
theorem conserves_permits {n : Nat} {s : Service} (reachable : Reachable (some n) s) {i : Nat}
    {l : Loop} (found : s.loops[i]? = some l) :
    l.held ≤ 1 ∧ l.available + l.held + s.permitsOut i = n ∧
      (∀ task ∈ s.tasks, task.loop = i →
        task.held = 1 ∨ task.held = 0 ∧ ∃ attendance, task.phase = .finished attendance) ∧
      s.tracker.active.Perm (s.tasks.filterMap ConnectionTask.number?) ∧
      (∀ (a : Action) (t : Service), s.step a = some t → ∃ l', t.loops[i]? = some l' ∧
        ∀ (k : Nat) (task' : ConnectionTask), t.tasks[k]? = some task' → task'.loop = i →
          Passage s i k l l' task') ∧
      (l.phase = .exited →
        (∀ task ∈ s.tasks, task.loop = i → ∃ attendance, task.phase = .finished attendance) →
        l.available = n) := by
  have sound := reachable.sound
  have balance := sound.permits n reachable.limit_eq i l found
  refine ⟨l.held_le_one, balance, fun task _ _ => held_cases task, sound.tracked, ?_, ?_⟩
  · intro a t step
    have move := (move_of_step step).2
    obtain ⟨l', found', _⟩ := move.loop_stays found
    exact ⟨l', found', fun k task' there loop =>
      move.passage sound reachable.limit_eq found found' there loop⟩
  · intro exited finished
    rw [Loop.held_eq_zero (.inr exited), permitsOut_eq_zero_of_finished finished] at balance
    exact balance

/-- While a connection is attended that a loop with two permits has accepted, one is available. -/
theorem conserves_permits_of_two : ∃ (s : Service) (l : Loop), s.loops[0]? = some l ∧
    s.permitsOut 0 = 1 ∧ l.available + l.held + s.permitsOut 0 = 2 :=
  have run : (fresh (some 2)).run [.start, .bound 0 (.ok { ip := .v4 0, port := 8080 }),
      .loop 0 .acquired, .loop 0 .accepted, .task 0] = some _ := rfl
  ⟨_, _, rfl, rfl, (conserves_permits (Reachable.fresh.run run) rfl).2.1⟩

/-! ## Connections at once -/

/-- How many connections of a loop are attended. -/
def attendedBy (s : Service) (i : Nat) : Nat :=
  s.tasks.countP fun task => task.loop = i ∧ task.number?.isSome

theorem active_eq_countP {s : Service} (sound : Sound s) :
    s.active = s.tasks.countP fun task => task.number?.isSome := by
  rw [active, Tracker.count, sound.tracked.length_eq, List.length_filterMap_eq_countP]

/-- An attended connection holds a permit. -/
theorem attendedBy_le_permitsOut (s : Service) (i : Nat) : s.attendedBy i ≤ s.permitsOut i := by
  rw [attendedBy, permitsOut]
  induction s.tasks with
  | nil => exact Nat.le_refl 0
  | cons task tasks ih =>
    rw [List.countP_cons, List.map_cons, List.sum_cons, Nat.add_comm]
    refine Nat.add_le_add ?_ ih
    cases phase : task.phase <;> simp [ConnectionTask.number?, ConnectionTask.held, phase]

/-- **A loop attends no more connections at once than the limit allows.** -/
theorem attendedBy_le {n : Nat} {s : Service} (reachable : Reachable (some n) s) (i : Nat) :
    s.attendedBy i ≤ n := by
  have sound := reachable.sound
  refine (s.attendedBy_le_permitsOut i).trans ?_
  cases found : s.loops[i]? with
  | none =>
    rw [permitsOut_eq_zero sound (List.getElem?_eq_none_iff.mp found)]
    exact Nat.zero_le n
  | some l =>
    have balance := sound.permits n reachable.limit_eq i l found
    omega

/-- The connections that are attended are those of the loops together. -/
theorem active_eq_sum {s : Service} (sound : Sound s) :
    s.active = ∑ i ∈ Finset.range s.loops.length, s.attendedBy i := by
  rw [active_eq_countP sound]
  have owners := sound.owners
  simp only [attendedBy]
  generalize s.tasks = tasks at owners ⊢
  induction tasks with
  | nil => simp
  | cons task tasks ih =>
    obtain ⟨own, others⟩ := List.forall_mem_cons.mp owners
    simp only [List.countP_cons, Finset.sum_add_distrib]
    rw [ih others]
    congr 1
    by_cases counted : task.number?.isSome <;> simp [counted, own]

/-! ## One loop after the other -/

/-- A listener that is stopped can make a loop whose permits are all available. -/
theorem exists_opened {n : Nat} {s : Service} (reachable : Reachable (some n) s)
    (small : n ≤ permitLimit) (stopped : s.lifecycle.state = .stopped) :
    ∃ t, Reachable (some n) t ∧ t.loops = s.loops ++ [{ limit := some n }] ∧
      t.lifecycle.state = .running ∧ t.lifecycle.signal = some s.loops.length ∧
      t.lifecycle.loop = some s.loops.length ∧ t.active = s.active := by
  let address : Address.Socket := { ip := .v4 0, port := 8080 }
  have started : s.step .start = some s.start := rfl
  have bound : s.start.step (.bound s.calls.length (.ok address)) =
      some (s.start.bind s.calls.length (.ok address)) := by
    simp [Service.step, start, stopped, addCall]
  have limit := reachable.limit_eq
  refine ⟨_, (reachable.step started).step bound, ?_⟩
  simp [bind, start, stopped, addCall, setCall, limit, small.not_gt, active]

/-- A loop with a permit available can attend one connection more. -/
theorem exists_attended {n m i : Nat} {s : Service} (reachable : Reachable (some n) s)
    (found : s.loops[i]? = some { limit := some n, available := m + 1 }) :
    ∃ t, Reachable (some n) t ∧ t.loops = s.loops.set i { limit := some n, available := m } ∧
      t.lifecycle = s.lifecycle ∧ t.active = s.active + 1 := by
  have within := (List.getElem?_eq_some_iff.mp found).1
  let s₁ : Service := { s with
    loops := s.loops.set i { limit := some n, available := m, phase := .accepting } }
  let s₂ : Service := { s with
    loops := s.loops.set i { limit := some n, available := m }
    tasks := s.tasks ++ [{ loop := i }] }
  have acquired : s.step (.loop i .acquired) = some s₁ := by
    simp [Service.step, advanceLoop, found, Loop.step, Loop.acquire, s₁]
  have accepted : s₁.step (.loop i .accepted) = some s₂ := by
    simp [Service.step, advanceLoop, Loop.step, s₁, s₂, within]
  have tracked : s₂.step (.task s.tasks.length) = some { s₂ with
      tracker := s.tracker.track.2
      tasks := s₂.tasks.set s.tasks.length
        { loop := i, phase := .attended s.tracker.track.1, executor := s.executor } } := by
    simp [Service.step, advanceTask, s₂]
  refine ⟨_, ((reachable.step acquired).step accepted).step tracked, rfl, rfl, ?_⟩
  simp [active, Tracker.count, Tracker.track]

/-- A loop can attend as many connections as it has permits available. -/
theorem exists_filled {n m i : Nat} {s : Service} (reachable : Reachable (some n) s)
    (found : s.loops[i]? = some { limit := some n, available := m }) :
    ∃ t, Reachable (some n) t ∧ t.loops = s.loops.set i { limit := some n, available := 0 } ∧
      t.lifecycle = s.lifecycle ∧ t.active = s.active + m := by
  have within := (List.getElem?_eq_some_iff.mp found).1
  induction m generalizing s with
  | zero =>
    have same : s.loops.set i { limit := some n, available := 0 } = s.loops := by
      rw [← (List.getElem?_eq_some_iff.mp found).2, List.set_getElem_self within]
    exact ⟨s, reachable, same.symm, rfl, rfl⟩
  | succ m ih =>
    obtain ⟨t, reachable', loops, lifecycle, active⟩ := exists_attended reachable found
    have found' : t.loops[i]? = some { limit := some n, available := m } := by
      rw [loops, List.getElem?_set_self within]
    have within' : i < t.loops.length := (List.getElem?_eq_some_iff.mp found').1
    obtain ⟨u, reachable'', loops', lifecycle', active'⟩ := ih reachable' found' within'
    refine ⟨u, reachable'', ?_, lifecycle'.trans lifecycle, by omega⟩
    rw [loops', loops, List.set_set]

/-- A listener whose loop waits for a permit can be stopped, whatever the connections do. -/
theorem exists_closed {n m i : Nat} {s : Service} (reachable : Reachable (some n) s)
    (running : s.lifecycle.state = .running) (signal : s.lifecycle.signal = some i)
    (loop : s.lifecycle.loop = some i)
    (found : s.loops[i]? = some { limit := some n, available := m }) :
    ∃ t, Reachable (some n) t ∧ t.lifecycle.state = .stopped ∧
      t.loops.length = s.loops.length ∧ t.active = s.active := by
  have within := (List.getElem?_eq_some_iff.mp found).1
  let s₁ := s.stop false
  let s₂ : Service := { s₁ with
    loops := s₁.loops.set i
      { limit := some n, available := m, phase := .exited, signalled := true } }
  have stopping : s.step (.stop false) = some s₁ := rfl
  have exited : s₁.step (.loop i .stopped) = some s₂ := by
    simp [Service.step, advanceLoop, stop, running, signal, loop, tell, addCall, Loop.step, found,
      s₁, s₂]
  have joined : s₂.step (.joined s.calls.length) = some (s₂.join s.calls.length false) := by
    simp [Service.step, hasExited, stop, running, signal, loop, tell, addCall, within, s₁, s₂]
  refine ⟨_, ((reachable.step stopping).step exited).step joined, rfl, ?_, ?_⟩
  · simp [join, setCall, stop, running, signal, tell, addCall, s₁, s₂]
  · simp [join, setCall, stop, running, signal, tell, addCall, active, s₁, s₂]

/-- **Loops made one after the other can attend as many connections each as the limit allows, all of
them at once.** -/
theorem exists_active_eq {n : Nat} (small : n ≤ permitLimit) (r : Nat) :
    ∃ s, Reachable (some n) s ∧ s.lifecycle.state = .stopped ∧ s.loops.length = r ∧
      s.active = n * r := by
  induction r with
  | zero => exact ⟨fresh (some n), .fresh, rfl, rfl, rfl⟩
  | succ r ih =>
    obtain ⟨s₀, reachable₀, stopped, count, active₀⟩ := ih
    obtain ⟨s₁, reachable₁, loops₁, running, signal, loop, active₁⟩ :=
      exists_opened reachable₀ small stopped
    have found : s₁.loops[s₀.loops.length]? = some { limit := some n, available := n } := by
      rw [loops₁, List.getElem?_concat_length]
      rfl
    obtain ⟨s₂, reachable₂, loops₂, lifecycle, active₂⟩ := exists_filled reachable₁ found
    rw [← lifecycle] at running signal loop
    have found' : s₂.loops[s₀.loops.length]? = some { limit := some n, available := 0 } := by
      rw [loops₂, List.getElem?_set_self (List.getElem?_eq_some_iff.mp found).1]
    obtain ⟨s₃, reachable₃, stopped', count', active₃⟩ :=
      exists_closed reachable₂ running signal loop found'
    refine ⟨s₃, reachable₃, stopped', ?_, ?_⟩
    · rw [count', loops₂, List.length_set, loops₁, List.length_append, count]
      rfl
    · rw [active₃, active₂, active₁, active₀, Nat.mul_succ]

/-- Where the limit is too great to make permits for, no loop is ever made. -/
theorem loops_eq_nil {n : Nat} (great : permitLimit < n) {s : Service}
    (reachable : Reachable (some n) s) : s.loops = [] := by
  induction reachable with
  | fresh => rfl
  | step before step ih =>
    cases (move_of_step step).2 with
    | call told loops tasks tracker => cases told <;> simp [loops, ih, tell]
    | opened fits loops tasks tracker =>
      exact absurd (fits n before.limit_eq) (Nat.not_le.mpr great)
    | looped i e l l' found step loops tasks tracker => rw [ih] at found; cases found
    | tracked i task found phase loops tasks tracker => rw [loops, ih]
    | attended i task id attendance found phase loops tasks tracker => rw [loops, ih]
    | finished i task attendance found phase loops tasks tracker => simp [loops, ih]

/-- **The limit bounds the connections of each loop, and those of the listener as long as no second
loop is made.**  From the second loop on, every loop may add as many to those of the earlier ones as
the limit allows. -/
theorem within_limit_iff {n : Nat} (positive : 1 ≤ n) :
    (∀ s, Reachable (some n) s → (∀ i, s.attendedBy i ≤ n) ∧
      s.active = ∑ i ∈ Finset.range s.loops.length, s.attendedBy i) ∧
    (∀ r, (∀ s, Reachable (some n) s → s.loops.length = r → s.active ≤ n) ↔
      r ≤ 1 ∨ permitLimit < n) ∧
    (∀ r, n ≤ permitLimit → ∃ s, Reachable (some n) s ∧ s.loops.length = r ∧ s.active = n * r) := by
  have attained : ∀ r, n ≤ permitLimit →
      ∃ s, Reachable (some n) s ∧ s.loops.length = r ∧ s.active = n * r := by
    intro r small
    obtain ⟨s, reachable, _, count, active⟩ := exists_active_eq small r
    exact ⟨s, reachable, count, active⟩
  refine ⟨fun s reachable => ⟨attendedBy_le reachable, active_eq_sum reachable.sound⟩, ?_, attained⟩
  refine fun r => ⟨fun within => ?_, fun few s reachable count => ?_⟩
  · by_contra many
    obtain ⟨two, small⟩ := not_or.mp many
    obtain ⟨s, reachable, count, active⟩ := attained r (Nat.not_lt.mp small)
    have bounded := within s reachable count
    have more : n * 2 ≤ n * r := Nat.mul_le_mul_left n (by omega)
    omega
  · have at_most : s.active ≤ s.loops.length * n := by
      rw [active_eq_sum reachable.sound]
      simpa using Finset.sum_le_card_nsmul (Finset.range s.loops.length) s.attendedBy n
        fun i _ => attendedBy_le reachable i
    rcases few with one | great
    · calc s.active ≤ s.loops.length * n := at_most
        _ ≤ 1 * n := Nat.mul_le_mul_right n (count ▸ one)
        _ = n := Nat.one_mul n
    · rw [loops_eq_nil great reachable, List.length_nil, Nat.zero_mul] at at_most
      exact at_most.trans (Nat.zero_le n)

/-- With two permits for each, three loops can attend six connections at once. -/
theorem within_limit_of_two :
    1 ≤ 2 ∧ ∃ s, Reachable (some 2) s ∧ s.loops.length = 3 ∧ s.active = 2 * 3 :=
  ⟨by decide, (within_limit_iff (by decide)).2.2 3 (by decide)⟩

/-- A listener that is limited to one connection attends two of them when it was stopped and started
again during the first. -/
theorem exceeds_limit_of_restart : ¬ ∀ s, Reachable (some 1) s → s.active ≤ 1 := by
  let address : Address.Socket := { ip := .v4 0, port := 8080 }
  have run : (fresh (some 1)).run [.start, .bound 0 (.ok address), .loop 0 .acquired,
      .loop 0 .accepted, .task 0, .stop false, .loop 0 .stopped, .joined 1,
      .start, .bound 2 (.ok address), .loop 1 .acquired, .loop 1 .accepted, .task 1] = some _ := rfl
  intro bounded
  exact absurd (bounded _ (Reachable.fresh.run run)) (by decide)

end Service

end Wiretap.Listener
