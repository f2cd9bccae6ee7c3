import Mathlib.Algebra.BigOperators.Group.List.Basic
import Mathlib.Algebra.GroupWithZero.Nat
import Wiretap.Proofs.Listener.Moves

/-!
# Permits of the listener's loops

The permits of a loop are conserved: those that are available, the one that the loop may hold, and
those of the connections that it accepted and that have not finished are together as many as the
limit (`Sound.permits`).  The tracker counts the connections that are attended and no others
(`Sound.tracked`).  Both are kept by every move (`Sound.move`), and so hold in every state that a
listener can come to (`Reachable.sound`).
-/

namespace Wiretap.Listener

set_option autoImplicit false

open scoped List

/-! ## Permits of one loop -/

namespace Loop

@[simp] theorem held_release (l : Loop) : l.release.held = l.held := by
  simp [held]

theorem available_release {l : Loop} {n : Nat} (limited : l.limit = some n) :
    l.release.available = l.available + 1 := by
  simp [release, limited]

theorem held_le_one (l : Loop) : l.held ≤ 1 := by
  unfold held
  split <;> omega

/-- A loop that waits for a permit, or has exited, holds none. -/
theorem held_eq_zero {l : Loop} (idle : l.phase = .acquiring ∨ l.phase = .exited) : l.held = 0 := by
  rcases idle with phase | phase <;> simp [held, phase]

/-- A loop that waits for a connection, or rests, holds one. -/
theorem held_eq_one {l : Loop} {n : Nat} (limited : l.limit = some n)
    (busy : l.phase = .accepting ∨ l.phase = .resting) : l.held = 1 := by
  rcases busy with phase | phase <;> simp [held, limited, phase]

theorem acquire_eq_some {l l' : Loop} {n : Nat} (limited : l.limit = some n)
    (step : l.acquire = some l') :
    l.available = l'.available + 1 ∧ l'.phase = .accepting ∧ l'.limit = some n := by
  unfold acquire at step
  split at step
  · next unlimited => rw [limited] at unlimited; cases unlimited
  · cases step
  · next available _ counted =>
    cases step
    exact ⟨counted, rfl, limited⟩

/-- **A step of a loop loses no permit**: what it has less, it has passed on to a connection. -/
theorem permits_step {l l' : Loop} {e : LoopEvent} {n : Nat} (limited : l.limit = some n)
    (step : l.step e = some l') :
    l'.available + l'.held + (if e = .accepted then 1 else 0) = l.available + l.held := by
  unfold Loop.step at step
  split at step
  · next phase =>
    obtain ⟨taken, phase', limited'⟩ := acquire_eq_some limited step
    rw [held_eq_one limited' (.inl phase'), held_eq_zero (.inl phase), if_neg nofun, taken]
  · next phase =>
    split at step <;> cases step
    rw [held_eq_zero (.inl phase), held_eq_zero (.inr rfl), if_neg nofun]
  · next phase =>
    cases step
    rw [held_eq_one limited (.inl phase), held_eq_zero (.inl rfl), if_pos rfl]
  · next phase =>
    cases step
    have rests : ({ l with phase := .resting } : Loop).held = 1 := held_eq_one limited (.inr rfl)
    rw [held_eq_one limited (.inl phase), rests, if_neg nofun]
  · next phase =>
    split at step <;> cases step
    rw [held_eq_one limited (.inl phase), held_eq_zero (.inr rfl), if_neg nofun]
    exact available_release limited
  · next phase =>
    cases step
    rw [held_eq_one limited (.inr phase), held_eq_zero (.inl rfl), if_neg nofun]
    exact available_release limited
  · cases step

end Loop

/-! ## Permits and numbers of the connections -/

namespace ConnectionTask

/-- The number under which the tracker counts the connection, while it is attended. -/
def number? (t : ConnectionTask) : Option Nat :=
  match t.phase with
  | .attended id => some id
  | _ => none

end ConnectionTask

/-- An entry of a list and whatever replaces it stand beside the same others. -/
theorem exists_perm_set {α : Type} {entries : List α} {i : Nat} {a : α}
    (found : entries[i]? = some a) :
    ∃ others : List α, entries ~ a :: others ∧ ∀ b, entries.set i b ~ b :: others := by
  obtain ⟨within, rfl⟩ := List.getElem?_eq_some_iff.mp found
  exact ⟨entries.eraseIdx i, (List.getElem_cons_eraseIdx_perm within).symm,
    List.set_perm_cons_eraseIdx within⟩

/-- What stands in a list after an entry is replaced is the new entry or stood there before. -/
theorem getElem?_set_cases {α : Type} {entries : List α} {i j : Nat} {a b : α}
    (found : (entries.set i a)[j]? = some b) :
    i = j ∧ a = b ∨ i ≠ j ∧ entries[j]? = some b := by
  rw [List.getElem?_set] at found
  split at found
  · next same => exact .inl ⟨same, Option.some.inj (Option.ite_none_right_eq_some.mp found).2⟩
  · next other => exact .inr ⟨other, found⟩

/-- What stands in a list after an entry is added is the new entry or stood there before. -/
theorem getElem?_concat_cases {α : Type} {entries : List α} {j : Nat} {a b : α}
    (found : (entries ++ [a])[j]? = some b) :
    entries.length = j ∧ a = b ∨ entries[j]? = some b := by
  rw [List.getElem?_append] at found
  split at found
  · exact .inr found
  · next behind =>
    rw [List.getElem?_singleton] at found
    obtain ⟨first, same⟩ := Option.ite_none_right_eq_some.mp found
    exact .inl ⟨by omega, Option.some.inj same⟩

/-- Replacing an entry changes a sum by what the two contribute. -/
theorem sum_map_set {α : Type} (f : α → Nat) {entries : List α} {i : Nat} {a : α} (b : α)
    (found : entries[i]? = some a) :
    ((entries.set i b).map f).sum + f a = (entries.map f).sum + f b := by
  obtain ⟨others, before, after⟩ := exists_perm_set found
  rw [((after b).map f).sum_eq, (before.map f).sum_eq, List.map_cons, List.map_cons, List.sum_cons,
    List.sum_cons]
  omega

/-- A connection that goes on exchanges the number it had for the one it has. -/
theorem numbers_set {tasks : List ConnectionTask} {i : Nat} {task : ConnectionTask}
    (task' : ConnectionTask) (found : tasks[i]? = some task) :
    task.number?.toList ++ (tasks.set i task').filterMap ConnectionTask.number? ~
      task'.number?.toList ++ tasks.filterMap ConnectionTask.number? := by
  obtain ⟨others, before, after⟩ := exists_perm_set found
  have split : ∀ one : ConnectionTask, (one :: others).filterMap ConnectionTask.number? =
      one.number?.toList ++ others.filterMap ConnectionTask.number? := by
    intro one
    cases number : one.number? <;> simp [number]
  have before' := before.filterMap ConnectionTask.number?
  have after' := (after task').filterMap ConnectionTask.number?
  rw [split] at before' after'
  calc task.number?.toList ++ (tasks.set i task').filterMap ConnectionTask.number?
      ~ task.number?.toList ++ (task'.number?.toList ++
          others.filterMap ConnectionTask.number?) := after'.append_left _
    _ ~ task'.number?.toList ++ (task.number?.toList ++
          others.filterMap ConnectionTask.number?) := List.perm_append_comm_assoc _ _ _
    _ ~ task'.number?.toList ++ tasks.filterMap ConnectionTask.number? :=
      (before'.append_left _).symm

namespace Service

/-- How many permits of a loop its connections hold. -/
def permitsOut (s : Service) (i : Nat) : Nat :=
  (s.tasks.map fun task => if task.loop = i then task.held else 0).sum

/-- What holds of the permits and of the tracker in every state. -/
structure Sound (s : Service) : Prop where
  limits : ∀ l ∈ s.loops, l.limit = s.limit
  owners : ∀ task ∈ s.tasks, task.loop < s.loops.length
  permits : ∀ n, s.limit = some n → ∀ (i : Nat) (l : Loop), s.loops[i]? = some l →
    l.available + l.held + s.permitsOut i = n
  tracked : s.tracker.active ~ s.tasks.filterMap ConnectionTask.number?

theorem sound_fresh (limit : Option Nat) : Sound (fresh limit) where
  limits _ member := by simp [fresh] at member
  owners _ member := by simp [fresh] at member
  permits _ _ _ _ found := by simp [fresh] at found
  tracked := .nil

/-- Telling a loop to stop leaves every loop with its limit and its permits. -/
theorem getElem?_tell {loops : List Loop} {told : Option Nat} {i : Nat} {l : Loop}
    (found : (tell loops told)[i]? = some l) :
    ∃ before, loops[i]? = some before ∧ l.limit = before.limit ∧ l.available = before.available ∧
      l.held = before.held := by
  cases told with
  | none => exact ⟨l, found, rfl, rfl, rfl⟩
  | some k =>
    rw [tell, List.getElem?_modify] at found
    obtain ⟨before, there, rfl⟩ := Option.map_eq_some_iff.mp found
    refine ⟨before, there, ?_⟩
    split <;> exact ⟨rfl, rfl, rfl⟩

@[simp] theorem length_tell (loops : List Loop) (told : Option Nat) :
    (tell loops told).length = loops.length := by
  cases told <;> simp [tell]

theorem Sound.call {s t : Service} (sound : Sound s) (limit : t.limit = s.limit) {told : Option Nat}
    (loops : t.loops = tell s.loops told) (tasks : t.tasks = s.tasks)
    (tracker : t.tracker = s.tracker) : Sound t where
  limits l member := by
    rw [loops] at member
    obtain ⟨i, found⟩ := List.mem_iff_getElem?.mp member
    obtain ⟨before, there, same, _, _⟩ := getElem?_tell found
    rw [same, limit]
    exact sound.limits before (List.mem_of_getElem? there)
  owners task member := by
    rw [tasks] at member
    rw [loops, length_tell]
    exact sound.owners task member
  permits n limited i l found := by
    rw [loops] at found
    obtain ⟨before, there, _, available, held⟩ := getElem?_tell found
    rw [permitsOut, tasks, available, held]
    exact sound.permits n (limit ▸ limited) i before there
  tracked := by
    rw [tracker, tasks]
    exact sound.tracked

/-- No connection holds a permit of a loop that is not made yet. -/
theorem permitsOut_eq_zero {s : Service} (sound : Sound s) {i : Nat}
    (none_yet : s.loops.length ≤ i) : s.permitsOut i = 0 := by
  refine List.sum_eq_zero fun held member => ?_
  obtain ⟨task, accepted, rfl⟩ := List.mem_map.mp member
  have earlier := sound.owners task accepted
  exact if_neg (by omega)

theorem Sound.opened {s t : Service} (sound : Sound s) (limit : t.limit = s.limit)
    (loops : t.loops = s.loops ++ [{ limit := s.limit }]) (tasks : t.tasks = s.tasks)
    (tracker : t.tracker = s.tracker) : Sound t where
  limits l member := by
    rw [loops, List.mem_append, List.mem_singleton] at member
    rw [limit]
    rcases member with before | rfl
    · exact sound.limits l before
    · rfl
  owners task member := by
    rw [tasks] at member
    rw [loops, List.length_append]
    exact Nat.lt_add_right _ (sound.owners task member)
  permits n limited i l found := by
    rw [limit] at limited
    rw [permitsOut, tasks]
    change l.available + l.held + s.permitsOut i = n
    rw [loops] at found
    rcases getElem?_concat_cases found with ⟨rfl, rfl⟩ | before
    · rw [permitsOut_eq_zero sound (Nat.le_refl _), Loop.held_eq_zero (.inl rfl)]
      simp [limited]
    · exact sound.permits n limited i l before
  tracked := by
    rw [tracker, tasks]
    exact sound.tracked

theorem Sound.looped {s t : Service} (sound : Sound s) (limit : t.limit = s.limit) {i : Nat}
    {e : LoopEvent} {l l' : Loop} (found : s.loops[i]? = some l) (step : l.step e = some l')
    (loops : t.loops = s.loops.set i l')
    (tasks : t.tasks = if e = .accepted then s.tasks ++ [{ loop := i }] else s.tasks)
    (tracker : t.tracker = s.tracker) : Sound t where
  limits l₁ member := by
    rw [loops] at member
    rw [limit]
    rcases List.mem_or_eq_of_mem_set member with before | rfl
    · exact sound.limits l₁ before
    · exact (Loop.limit_step step).trans (sound.limits l (List.mem_of_getElem? found))
  owners task member := by
    rw [loops, List.length_set]
    rw [tasks] at member
    split at member
    · rcases List.mem_append.mp member with before | new
      · exact sound.owners task before
      · rw [List.mem_singleton.mp new]
        exact (List.getElem?_eq_some_iff.mp found).1
    · exact sound.owners task member
  permits n limited j l₁ found₁ := by
    rw [limit] at limited
    have passed : t.permitsOut j = s.permitsOut j + if e = .accepted ∧ i = j then 1 else 0 := by
      rw [permitsOut, tasks]
      split_ifs <;> simp_all [permitsOut, ConnectionTask.held]
    rw [loops] at found₁
    rcases getElem?_set_cases found₁ with ⟨rfl, rfl⟩ | ⟨other, before⟩
    · have balance := sound.permits n limited i l found
      have moved := Loop.permits_step
        ((sound.limits l (List.mem_of_getElem? found)).trans limited) step
      simp only [and_true] at passed
      omega
    · simp only [other, and_false, if_false, Nat.add_zero] at passed
      rw [passed]
      exact sound.permits n limited j l₁ before
  tracked := by
    rw [tracker, tasks]
    split
    · rw [List.filterMap_append]
      change s.tracker.active.Perm (_ ++ [])
      rw [List.append_nil]
      exact sound.tracked
    · exact sound.tracked

/-- What a connection holds of a loop's permits. -/
theorem permitsOut_set {s t : Service} {k : Nat} {task task' : ConnectionTask}
    (found : s.tasks[k]? = some task) (tasks : t.tasks = s.tasks.set k task')
    (loop : task'.loop = task.loop) (i : Nat) :
    t.permitsOut i + (if task.loop = i then task.held else 0) =
      s.permitsOut i + (if task.loop = i then task'.held else 0) := by
  have replaced := sum_map_set (fun task => if task.loop = i then task.held else 0) task' found
  rw [loop] at replaced
  rw [permitsOut, tasks]
  exact replaced

theorem owners_set {s : Service} (sound : Sound s) {k : Nat} {task : ConnectionTask}
    (task' : ConnectionTask) (found : s.tasks[k]? = some task) (loop : task'.loop = task.loop) :
    ∀ other ∈ s.tasks.set k task', other.loop < s.loops.length := by
  intro other member
  rcases List.mem_or_eq_of_mem_set member with before | rfl
  · exact sound.owners other before
  · rw [loop]
    exact sound.owners task (List.mem_of_getElem? found)

/-- A connection that goes on without giving its permit back leaves the permits as they are. -/
theorem Sound.kept {s t : Service} (sound : Sound s) (limit : t.limit = s.limit) {k : Nat}
    {task : ConnectionTask} (task' : ConnectionTask) (found : s.tasks[k]? = some task)
    (tasks : t.tasks = s.tasks.set k task') (loop : task'.loop = task.loop)
    (held : task'.held = task.held) (loops : t.loops = s.loops)
    (tracked : t.tracker.active ~ t.tasks.filterMap ConnectionTask.number?) : Sound t where
  limits l member := by
    rw [loops] at member
    rw [limit]
    exact sound.limits l member
  owners other member := by
    rw [tasks] at member
    rw [loops]
    exact owners_set sound task' found loop other member
  permits n limited i l found' := by
    have same := permitsOut_set found tasks loop i
    rw [held] at same
    rw [Nat.add_right_cancel same]
    rw [loops] at found'
    exact sound.permits n (limit ▸ limited) i l found'
  tracked := tracked

theorem Sound.finished {s t : Service} (sound : Sound s) (limit : t.limit = s.limit) {k : Nat}
    {task : ConnectionTask} {attendance : Attendance} (found : s.tasks[k]? = some task)
    (phase : task.phase = .attendedTo attendance)
    (loops : t.loops = s.loops.modify task.loop Loop.release)
    (tasks : t.tasks = s.tasks.set k { task with phase := .finished attendance })
    (tracker : t.tracker = s.tracker) : Sound t where
  limits l member := by
    rw [loops] at member
    obtain ⟨i, found'⟩ := List.mem_iff_getElem?.mp member
    rw [List.getElem?_modify] at found'
    obtain ⟨before, there, rfl⟩ := Option.map_eq_some_iff.mp found'
    have same : before.limit = s.limit := sound.limits before (List.mem_of_getElem? there)
    rw [limit, ← same]
    split
    · exact Loop.limit_release before
    · rfl
  owners other member := by
    rw [tasks] at member
    rw [loops, List.length_modify]
    exact owners_set sound { task with phase := .finished attendance } found rfl other member
  permits n limited i l found' := by
    rw [limit] at limited
    have returned := permitsOut_set found tasks rfl i
    rw [loops, List.getElem?_modify] at found'
    obtain ⟨before, there, rfl⟩ := Option.map_eq_some_iff.mp found'
    have balance := sound.permits n limited i before there
    have limited' : before.limit = some n :=
      (sound.limits before (List.mem_of_getElem? there)).trans limited
    by_cases own : task.loop = i
    · have held : task.held = 1 := by simp [ConnectionTask.held, phase]
      have released : ({ task with phase := .finished attendance } : ConnectionTask).held = 0 := rfl
      rw [if_pos own, if_pos own, held, released] at returned
      rw [if_pos own, Loop.held_release, Loop.available_release limited']
      omega
    · rw [if_neg own, if_neg own] at returned
      rw [if_neg own]
      omega
  tracked := by
    have numbers := numbers_set { task with phase := .finished attendance } found
    have without : task.number? = none := by simp [ConnectionTask.number?, phase]
    rw [without] at numbers
    rw [tracker, tasks]
    exact sound.tracked.trans numbers.symm

/-- The number of an attended connection is one that the tracker counts. -/
theorem Sound.counted {s : Service} (sound : Sound s) {k id : Nat} {task : ConnectionTask}
    (found : s.tasks[k]? = some task) (phase : task.phase = .attended id) :
    id ∈ s.tracker.active := by
  refine sound.tracked.mem_iff.mpr (List.mem_filterMap.mpr ⟨task, List.mem_of_getElem? found, ?_⟩)
  simp [ConnectionTask.number?, phase]

/-- **Every move keeps the permits and the tracker as they should be.**  A connection that begins
gets the number that the tracker adds at its end, and one that is over gives up its number, which is
in the tracker once. -/
theorem Sound.move {s t : Service} (sound : Sound s) (limit : t.limit = s.limit) (move : Move s t) :
    Sound t := by
  cases move with
  | call told loops tasks tracker => exact sound.call limit loops tasks tracker
  | opened _ loops tasks tracker => exact sound.opened limit loops tasks tracker
  | looped i e l l' found step loops tasks tracker =>
    exact sound.looped limit found step loops tasks tracker
  | tracked k task found phase loops tasks tracker =>
    let task' : ConnectionTask :=
      { task with phase := .attended s.tracker.track.1, executor := s.executor }
    have held : task'.held = task.held := by simp [task', ConnectionTask.held, phase]
    refine sound.kept limit task' found tasks rfl held loops ?_
    have numbers := numbers_set task' found
    have without : task.number? = none := by simp [ConnectionTask.number?, phase]
    rw [without] at numbers
    rw [tracker, tasks]
    calc s.tracker.active ++ [s.tracker.begun + 1]
        ~ (s.tracker.begun + 1) :: s.tracker.active := List.perm_append_singleton _ _
      _ ~ (s.tracker.begun + 1) :: s.tasks.filterMap ConnectionTask.number? := sound.tracked.cons _
      _ ~ (s.tasks.set k task').filterMap ConnectionTask.number? := numbers.symm
  | attended k task id attendance found phase loops tasks tracker =>
    let task' : ConnectionTask := { task with phase := .attendedTo attendance }
    have held : task'.held = task.held := by simp [task', ConnectionTask.held, phase]
    refine sound.kept limit task' found tasks rfl held loops ?_
    have numbers := numbers_set task' found
    have had : task.number? = some id := by simp [ConnectionTask.number?, phase]
    have without : task'.number? = none := rfl
    rw [had, without] at numbers
    rw [tracker, tasks]
    have counted := List.perm_cons_erase (sound.counted found phase)
    exact ((counted.symm.trans sound.tracked).trans numbers.symm).cons_inv
  | finished k task attendance found phase loops tasks tracker =>
    exact sound.finished limit found phase loops tasks tracker

/-- **In every state that a listener can come to, the permits of every loop are as many as the limit
and the tracker counts the connections that are attended.** -/
theorem Reachable.sound {limit : Option Nat} {s : Service} (reachable : Reachable limit s) :
    Sound s := by
  induction reachable with
  | fresh => exact sound_fresh limit
  | step _ step before =>
    obtain ⟨same, move⟩ := move_of_step step
    exact before.move same move

end Service

end Wiretap.Listener
