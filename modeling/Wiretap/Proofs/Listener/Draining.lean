import Wiretap.Proofs.Listener.Permits

/-!
# What a stop waits for

A stop with a deadline lets its loop exit and then waits until the tracker is idle.  The tracker
counts the connections that are attended.  One that has been accepted is counted only when its own
task has begun, so between the two the tracker can be idle although a connection is left.

When such a stop succeeds, all connections are over, and none is attended afterwards, exactly if
none was left in between (`drained_iff`).
-/

namespace Wiretap.Listener

set_option autoImplicit false

namespace ConnectionTask

/-- The connection has been attended to its end, and is tracked no more. -/
def IsOver (t : ConnectionTask) : Prop :=
  ∃ attendance, t.phase = .attendedTo attendance ∨ t.phase = .finished attendance

/-- A connection that is over has no number. -/
theorem IsOver.number?_eq_none {t : ConnectionTask} (ended : t.IsOver) : t.number? = none := by
  obtain ⟨attendance, phase | phase⟩ := ended <;> simp [number?, phase]

/-- A connection is over when it is neither attended nor still to be. -/
theorem isOver_of_number?_eq_none {t : ConnectionTask} (without : t.number? = none)
    (begun : t.phase ≠ .accepted) : t.IsOver := by
  cases phase : t.phase with
  | accepted => exact absurd phase begun
  | attended id => simp [number?, phase] at without
  | attendedTo attendance => exact ⟨attendance, .inl phase⟩
  | finished attendance => exact ⟨attendance, .inr phase⟩

end ConnectionTask

namespace Service

/-! ## Connections under a step -/

/-- Where one connection goes on without beginning anew, all do. -/
theorem exists_of_set {tasks : List ConnectionTask} {j k : Nat}
    {task after task' : ConnectionTask} (found : tasks[j]? = some task)
    (there : (tasks.set j after)[k]? = some task') (same : after.loop = task.loop)
    (ended : task.IsOver → after.IsOver) :
    ∃ before, tasks[k]? = some before ∧ task'.loop = before.loop ∧
      (before.IsOver → task'.IsOver) := by
  rcases getElem?_set_cases there with ⟨rfl, rfl⟩ | ⟨_, before⟩
  · exact ⟨task, found, same, ended⟩
  · exact ⟨task', before, rfl, id⟩

/-- A connection is an earlier one, which goes on if it is not over, or a new one of a loop that has
not exited. -/
theorem Move.task_cases {s t : Service} (move : Move s t) {k : Nat} {task' : ConnectionTask}
    (there : t.tasks[k]? = some task') :
    (∃ task, s.tasks[k]? = some task ∧ task'.loop = task.loop ∧ (task.IsOver → task'.IsOver)) ∨
      s.tasks.length = k ∧ ∃ l, s.loops[task'.loop]? = some l ∧ l.phase ≠ .exited := by
  cases move with
  | call told loops tasks tracker => exact .inl ⟨task', tasks ▸ there, rfl, id⟩
  | opened fits loops tasks tracker => exact .inl ⟨task', tasks ▸ there, rfl, id⟩
  | looped j e l l' found step loops tasks tracker =>
    rw [tasks] at there
    split at there
    · next accepts =>
      rcases getElem?_concat_cases there with ⟨new, rfl⟩ | before
      · subst accepts
        refine .inr ⟨new, l, found, fun exited => ?_⟩
        simp [Loop.step, exited] at step
      · exact .inl ⟨task', before, rfl, id⟩
    · exact .inl ⟨task', there, rfl, id⟩
  | tracked j task found phase loops tasks tracker =>
    rw [tasks] at there
    refine .inl (exists_of_set found there rfl fun ended => ?_)
    obtain ⟨attendance, phase' | phase'⟩ := ended <;> rw [phase] at phase' <;> cases phase'
  | attended j task id attendance found phase loops tasks tracker =>
    rw [tasks] at there
    exact .inl (exists_of_set found there rfl fun _ => ⟨attendance, .inl rfl⟩)
  | finished j task attendance found phase loops tasks tracker =>
    rw [tasks] at there
    exact .inl (exists_of_set found there rfl fun _ => ⟨attendance, .inr rfl⟩)

/-- No connection is forgotten. -/
theorem Move.length_tasks_le {s t : Service} (move : Move s t) :
    s.tasks.length ≤ t.tasks.length := by
  cases move with
  | call told loops tasks tracker => exact Nat.le_of_eq (congrArg List.length tasks.symm)
  | opened fits loops tasks tracker => exact Nat.le_of_eq (congrArg List.length tasks.symm)
  | looped j e l l' found step loops tasks tracker =>
    rw [tasks]
    split
    · rw [List.length_append]
      exact Nat.le_add_right _ _
    · exact Nat.le_refl _
  | tracked j task found phase loops tasks tracker => simp [tasks]
  | attended j task id attendance found phase loops tasks tracker => simp [tasks]
  | finished j task attendance found phase loops tasks tracker => simp [tasks]

/-! ## What a successful stop leaves behind -/

/-- A loop has exited, and so will stay. -/
def Exited (i : Option Nat) (s : Service) : Prop :=
  ∀ k, i = some k → ∃ l, s.loops[k]? = some l ∧ l.phase = .exited

theorem Exited.of_hasExited {s : Service} {i : Option Nat} (exited : s.hasExited i = true) :
    Exited i s := by
  rintro k rfl
  rw [hasExited, Option.any_eq_true] at exited
  obtain ⟨l, found, phase⟩ := exited
  exact ⟨l, found, by simpa using phase⟩

theorem Exited.move {s t : Service} {i : Option Nat} (exited : Exited i s) (move : Move s t) :
    Exited i t := by
  intro k same
  obtain ⟨l, found, phase⟩ := exited k same
  obtain ⟨l', found', stays⟩ := move.loop_stays found
  exact ⟨l', found', stays phase⟩

/-- A loop has exited, and the first so many connections are over, as are all that it accepted. -/
structure Drained (i : Option Nat) (count : Nat) (s : Service) : Prop where
  exited : Exited i s
  count_le : count ≤ s.tasks.length
  ended : ∀ (k : Nat) (task : ConnectionTask), s.tasks[k]? = some task →
    k < count ∨ some task.loop = i → task.IsOver

theorem Drained.move {s t : Service} {i : Option Nat} {count : Nat} (drained : Drained i count s)
    (move : Move s t) : Drained i count t where
  exited := drained.exited.move move
  count_le := Nat.le_trans drained.count_le move.length_tasks_le
  ended k task' there counts := by
    rcases move.task_cases there with ⟨task, found, loop, stays⟩ | ⟨new, l, found, open_yet⟩
    · rw [loop] at counts
      exact stays (drained.ended k task found counts)
    · rcases counts with early | own
      · exact absurd early (new ▸ Nat.not_lt.mpr drained.count_le)
      · obtain ⟨l', found', exited⟩ := drained.exited task'.loop own.symm
        rw [found] at found'
        cases found'
        exact absurd exited open_yet

/-- A stop goes on only behind the exit of its loop. -/
theorem hasExited_of_joined {s t : Service} {i : Nat} {j : Option Nat} {drains : Bool}
    (joining : s.calls[i]? = some (.joining j drains)) (joined : s.step (.joined i) = some t) :
    s.hasExited j = true := by
  simp only [Service.step, joining] at joined
  split at joined
  · next exited => exact exited
  · cases joined

/-- A look at the connections lets a stop succeed only when the tracker is idle. -/
theorem idle_of_polled {s t : Service} {i : Nat} (polled : s.step (.polled i) = some t)
    (returned : t.calls[i]? = some (.stopped (.ok ()))) : t.tracker.active = [] := by
  simp only [Service.step] at polled
  split at polled
  · next draining =>
    split at polled
    · next idle =>
      cases polled
      exact List.isEmpty_iff.mp idle
    · cases polled
      rw [draining] at returned
      cases returned
  · cases polled

/-- An idle tracker leaves no connection but those that are over and those not yet begun. -/
theorem isOver_of_idle {s : Service} (sound : Sound s) (idle : s.tracker.active = [])
    {task : ConnectionTask} (member : task ∈ s.tasks) (begun : task.phase ≠ .accepted) :
    task.IsOver := by
  have numbers : s.tasks.filterMap ConnectionTask.number? = [] := (idle ▸ sound.tracked).nil_eq.symm
  exact ConnectionTask.isOver_of_number?_eq_none (List.filterMap_eq_nil_iff.mp numbers task member)
    begun

/-- A connection that has been accepted can be attended at once. -/
theorem step_of_accepted {s : Service} {k : Nat} {task : ConnectionTask}
    (found : s.tasks[k]? = some task) (phase : task.phase = .accepted) :
    ∃ (t : Service) (task' : ConnectionTask), s.step (.task k) = some t ∧
      t.tasks[k]? = some task' ∧ task'.number? = some s.tracker.track.1 := by
  have within := (List.getElem?_eq_some_iff.mp found).1
  refine ⟨{ s with
    tracker := s.tracker.track.2
    tasks := s.tasks.set k
      { task with phase := .attended s.tracker.track.1, executor := s.executor } }, _, ?_,
    List.getElem?_set_self within, rfl⟩
  simp [Service.step, advanceTask, found, phase]

/-- **A stop that waits for the connections and succeeds leaves them all over, and none to begin
later, exactly if none of them was still to begin when it looked.**  The connections are those that
have been accepted by then and whatever the loop that was stopped accepts; one that is still to begin
can do so in the very next step. -/
theorem drained_iff {limit : Option Nat} {s₀ s₁ s t : Service} {i : Nat} {j : Option Nat}
    {actions : List Action} (reachable : Reachable limit s₀)
    (joining : s₀.calls[i]? = some (.joining j true)) (joined : s₀.step (.joined i) = some s₁)
    (waited : s₁.run actions = some s) (polled : s.step (.polled i) = some t)
    (returned : t.calls[i]? = some (.stopped (.ok ()))) :
    ((∀ task ∈ t.tasks, task.IsOver) ↔ ∀ task ∈ t.tasks, task.phase ≠ .accepted) ∧
    ((∀ (later : List Action) (u : Service), t.run later = some u →
        ∀ (k : Nat) (task : ConnectionTask), u.tasks[k]? = some task →
          k < t.tasks.length ∨ some task.loop = j → task.number? = none) ↔
      ∀ task ∈ t.tasks, task.phase ≠ .accepted) := by
  have idle := idle_of_polled polled returned
  have sound : Sound t := (((reachable.step joined).run waited).step polled).sound
  have exited : Exited j t := by
    have before : Exited j s₀ := .of_hasExited (hasExited_of_joined joining joined)
    have after := run_keeps (P := Exited j) (fun step => (·.move (move_of_step step).2)) waited
      (before.move (move_of_step joined).2)
    exact after.move (move_of_step polled).2
  have all_over : (∀ task ∈ t.tasks, task.phase ≠ .accepted) → ∀ task ∈ t.tasks, task.IsOver := by
    intro begun task member
    exact isOver_of_idle sound idle member (begun task member)
  refine ⟨⟨?_, all_over⟩, ?_, ?_⟩
  · intro ended task member accepted
    obtain ⟨attendance, phase | phase⟩ := ended task member <;>
      rw [accepted] at phase <;> cases phase
  · intro never task member accepted
    obtain ⟨k, found⟩ := List.mem_iff_getElem?.mp member
    obtain ⟨u, task', step, found', number⟩ := step_of_accepted found accepted
    have run : t.run [.task k] = some u := by
      rw [Service.run, List.foldlM_cons, step]
      rfl
    have early := (List.getElem?_eq_some_iff.mp found).1
    rw [never [.task k] u run k task' found' (.inl early)] at number
    cases number
  · intro begun later u run k task found counts
    have drained : Drained j t.tasks.length t :=
      { exited
        count_le := Nat.le_refl _
        ended := fun k task found _ => all_over begun task (List.mem_of_getElem? found) }
    have drained' := run_keeps (P := Drained j t.tasks.length)
      (fun step => (·.move (move_of_step step).2)) run drained
    exact (drained'.ended k task found counts).number?_eq_none

/-- A stop that waits for a connection to end is such a stop. -/
theorem drained_of_attended : ∃ t : Service, t.calls[1]? = some (.stopped (.ok ())) ∧
    t.tasks.length = 1 ∧ ∀ task ∈ t.tasks, task.IsOver := by
  have reached : (fresh none).run [.start, .bound 0 (.ok { ip := .v4 0, port := 8080 }),
      .loop 0 .acquired, .loop 0 .accepted, .task 0, .stop true, .loop 0 .acquired,
      .loop 0 .stopped] = some _ := rfl
  have drained := drained_iff (i := 1) (j := some 0) (Reachable.fresh.run reached) rfl rfl
    (show Service.run _ [.attended 0 ⟨⟨some .http, none⟩, none⟩] = some _ from rfl) rfl rfl
  refine ⟨_, ?_, ?_, drained.1.mpr (by decide)⟩ <;> rfl

/-- A stop that looks between the accepting of a connection and its beginning succeeds, and the
connection is attended afterwards. -/
theorem not_drained_of_accepted : ¬ ∀ (s t u : Service) (i : Nat) (later : List Action),
    Reachable none s → s.calls[i]? = some .draining → s.step (.polled i) = some t →
      t.calls[i]? = some (.stopped (.ok ())) → t.run later = some u →
        (∀ task ∈ t.tasks, task.IsOver) ∧ ∀ task ∈ u.tasks, task.number? = none := by
  have reached : (fresh none).run [.start, .bound 0 (.ok { ip := .v4 0, port := 8080 }),
      .loop 0 .acquired, .loop 0 .accepted, .stop true, .loop 0 .acquired, .loop 0 .stopped,
      .joined 1] = some _ := rfl
  intro drains
  have none_attended := (drains _ _ _ 1 [.task 0] (Reachable.fresh.run reached) rfl rfl rfl rfl).2
  cases none_attended _ (.head _)

end Service

end Wiretap.Listener
