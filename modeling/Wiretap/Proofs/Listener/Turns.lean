import Mathlib.Data.List.Basic
import Mathlib.Tactic.Common
import Wiretap.Proofs.Listener.Moves

/-!
# What a step does to the calls of the listener

Only the calls change the lifecycle, and each of them in few ways.  `Turn` lists what a step can do
to the lifecycle and to the calls together (`turn_of_step`): a call is made and refused, or goes on
with the listener, or a step leaves both as they are.  No step but the binding of an address makes a
loop.
-/

namespace Wiretap.Listener

set_option autoImplicit false

open Address (Socket)

namespace Call

/-- The call is on its way with the listener, which is between two of its states. -/
def isPending : Call → Bool
  | .binding => true
  | .joining _ _ => true
  | _ => false

/-- The call has brought the listener back to its stopped state. -/
def hasEnded : Call → Bool
  | .started (.error (.bind _)) => true
  | .draining => true
  | .stopped (.ok _) => true
  | .stopped (.error (.stillOpen _)) => true
  | _ => false

end Call

namespace Service

/-- A loop is there and has not exited. -/
def Alive (s : Service) (i : Nat) : Prop := ∃ l, s.loops[i]? = some l ∧ l.phase ≠ .exited

/-! ## Loops -/

theorem not_alive_of_hasExited {s : Service} {i : Nat} (exited : s.hasExited (some i) = true) :
    ¬ s.Alive i := by
  rintro ⟨l, found, phase⟩
  simp only [hasExited, found, Option.any_some, beq_iff_eq] at exited
  exact phase exited

theorem alive_of_tell {s t : Service} {told : Option Nat} (loops : t.loops = tell s.loops told)
    {i : Nat} (alive : t.Alive i) : s.Alive i := by
  obtain ⟨l, found, phase⟩ := alive
  rw [loops] at found
  cases told with
  | none => exact ⟨l, found, phase⟩
  | some k =>
    rw [tell, List.getElem?_modify] at found
    obtain ⟨before, there, rfl⟩ := Option.map_eq_some_iff.mp found
    refine ⟨before, there, fun exited => phase ?_⟩
    split <;> exact exited

theorem alive_of_same {s t : Service} (loops : t.loops = s.loops) {i : Nat} (alive : t.Alive i) :
    s.Alive i := by
  have told_none : t.loops = tell s.loops none := loops
  exact alive_of_tell told_none alive

/-- A loop that is alive behind a step was alive before it, or is new. -/
theorem Move.alive_cases {s t : Service} (move : Move s t) {i : Nat} (alive : t.Alive i) :
    s.Alive i ∨ t.loops = s.loops ++ [{ limit := s.limit }] := by
  cases move with
  | call told loops tasks tracker => exact .inl (alive_of_tell loops alive)
  | opened fits loops tasks tracker => exact .inr loops
  | looped k e l l' found step loops tasks tracker =>
    obtain ⟨after, there, phase⟩ := alive
    rw [loops, List.getElem?_set] at there
    split at there
    · next same =>
      subst same
      refine .inl ⟨l, found, fun exited => ?_⟩
      simp [Loop.step, exited] at step
    · exact .inl ⟨after, there, phase⟩
  | tracked k task found phase loops tasks tracker => exact .inl (alive_of_same loops alive)
  | attended k task _ attendance found phase loops tasks tracker =>
    exact .inl (alive_of_same loops alive)
  | finished k task attendance found phase loops tasks tracker =>
    obtain ⟨after, there, open_yet⟩ := alive
    rw [loops, List.getElem?_modify] at there
    obtain ⟨before, was, rfl⟩ := Option.map_eq_some_iff.mp there
    refine .inl ⟨before, was, fun exited => open_yet ?_⟩
    split
    · exact (Loop.phase_release before).trans exited
    · exact exited

/-! ## Turns -/

/-- What a step can do to the lifecycle and the calls, and which loops it leaves alive. -/
inductive Turn (s : Service) : Service → Prop where
  /-- No call goes on. -/
  | kept {t : Service} (lifecycle : t.lifecycle = s.lifecycle) (calls : t.calls = s.calls)
      (alive : ∀ i, t.Alive i → s.Alive i) : Turn s t
  /-- A call is refused where it is made. -/
  | refused {t : Service} (c : Call) (past : c.isPending = false) (refused : c.hasEnded = false)
      (lifecycle : t.lifecycle = s.lifecycle) (calls : t.calls = s.calls ++ [c])
      (alive : ∀ i, t.Alive i → s.Alive i) : Turn s t
  | starting {t : Service} (stopped : s.lifecycle.state = .stopped)
      (lifecycle : t.lifecycle = { s.lifecycle with state := .starting })
      (calls : t.calls = s.calls ++ [.binding]) (alive : ∀ i, t.Alive i → s.Alive i) : Turn s t
  /-- A start has found its address taken, or could not use it. -/
  | unbound {t : Service} (k : Nat) (e : IoFault) (found : s.calls[k]? = some .binding)
      (lifecycle : t.lifecycle = { s.lifecycle with state := .stopped })
      (calls : t.calls = s.calls.set k (.started (.error (.bind e))))
      (alive : ∀ i, t.Alive i → s.Alive i) : Turn s t
  /-- A start has ended where it stood. -/
  | crashed {t : Service} (k : Nat) (found : s.calls[k]? = some .binding)
      (lifecycle : t.lifecycle = s.lifecycle) (calls : t.calls = s.calls.set k .crashed)
      (alive : ∀ i, t.Alive i → s.Alive i) : Turn s t
  /-- A start has made a loop. -/
  | running {t : Service} (k : Nat) (address : Socket) (found : s.calls[k]? = some .binding)
      (lifecycle : t.lifecycle =
        ⟨.running, some address, some s.loops.length, some s.loops.length⟩)
      (calls : t.calls = s.calls.set k (.started (.ok address)))
      (loops : t.loops = s.loops ++ [{ limit := s.limit }]) : Turn s t
  | stopping {t : Service} (drains : Bool) (running : s.lifecycle.state = .running)
      (lifecycle : t.lifecycle =
        { s.lifecycle with state := .stopping, signal := none, loop := none })
      (calls : t.calls = s.calls ++ [.joining s.lifecycle.loop drains])
      (alive : ∀ i, t.Alive i → s.Alive i) : Turn s t
  /-- A stop goes on behind the exit of its loop. -/
  | joined {t : Service} (k : Nat) (i : Option Nat) (drains : Bool)
      (found : s.calls[k]? = some (.joining i drains)) (exited : s.hasExited i = true)
      (lifecycle : t.lifecycle = { s.lifecycle with state := .stopped, address := none })
      (calls : t.calls = s.calls.set k (if drains then .draining else .stopped (.ok ())))
      (alive : ∀ i, t.Alive i → s.Alive i) : Turn s t
  /-- A stop has waited for the connections. -/
  | returned {t : Service} (k : Nat) (c : Call) (found : s.calls[k]? = some .draining)
      (past : c.isPending = false) (ended : c.hasEnded = true)
      (lifecycle : t.lifecycle = s.lifecycle) (calls : t.calls = s.calls.set k c)
      (alive : ∀ i, t.Alive i → s.Alive i) : Turn s t

theorem turn_start (s : Service) : Turn s s.start := by
  unfold start
  split
  · next stopped => exact .starting stopped rfl rfl fun _ => alive_of_same rfl
  · exact .refused _ rfl rfl rfl rfl fun _ => alive_of_same rfl

theorem turn_stop (s : Service) (drains : Bool) : Turn s (s.stop drains) := by
  unfold stop
  split
  · next running => exact .stopping drains running rfl rfl fun _ => alive_of_tell rfl
  · exact .refused _ rfl rfl rfl rfl fun _ => alive_of_same rfl

theorem turn_bind {s : Service} {k : Nat} (found : s.calls[k]? = some .binding)
    (result : Except IoFault Socket) : Turn s (s.bind k result) := by
  unfold bind
  split
  · next e => exact .unbound k e found rfl rfl fun _ => alive_of_same rfl
  · next address =>
    split
    · exact .crashed k found rfl rfl fun _ => alive_of_same rfl
    · exact .running k address found rfl rfl rfl

/-- No call goes on, and no loop is made. -/
structure Quiet (s t : Service) : Prop where
  lifecycle : t.lifecycle = s.lifecycle
  calls : t.calls = s.calls
  count : t.loops.length = s.loops.length

theorem Quiet.turn {s t : Service} (quiet : Quiet s t) (move : Move s t) : Turn s t := by
  refine .kept quiet.lifecycle quiet.calls fun i alive => ?_
  rcases move.alive_cases alive with before | grown
  · exact before
  · have count := quiet.count
    rw [grown, List.length_append] at count
    simp at count

theorem quiet_advanceLoop {s t : Service} {i : Nat} {e : LoopEvent}
    (step : s.advanceLoop i e = some t) : Quiet s t := by
  simp only [advanceLoop, Option.bind_eq_bind, Option.bind_eq_some_iff, Option.pure_def] at step
  obtain ⟨l, found, l', moved, step⟩ := step
  cases step
  split <;> exact ⟨rfl, rfl, List.length_set ..⟩

theorem quiet_advanceTask {s t : Service} {i : Nat} (step : s.advanceTask i = some t) :
    Quiet s t := by
  simp only [advanceTask, Option.bind_eq_bind, Option.bind_eq_some_iff] at step
  obtain ⟨task, found, step⟩ := step
  cases phase : task.phase with
  | accepted =>
    simp only [phase, Option.pure_def, Option.some.injEq] at step
    subst step
    exact ⟨rfl, rfl, rfl⟩
  | attended id => simp [phase] at step
  | attendedTo attendance =>
    simp only [phase, Option.pure_def, Option.some.injEq] at step
    subst step
    exact ⟨rfl, rfl, List.length_modify ..⟩
  | finished attendance => simp [phase] at step

theorem quiet_concludeTask {s t : Service} {i : Nat} {attendance : Attendance}
    (step : s.concludeTask i attendance = some t) : Quiet s t := by
  simp only [concludeTask, Option.bind_eq_bind, Option.bind_eq_some_iff] at step
  obtain ⟨task, found, step⟩ := step
  cases phase : task.phase with
  | attended id =>
    simp only [phase, Option.pure_def, Option.some.injEq] at step
    subst step
    exact ⟨rfl, rfl, rfl⟩
  | accepted => simp [phase] at step
  | attendedTo attendance => simp [phase] at step
  | finished attendance => simp [phase] at step

/-- **Every step is one of the turns.** -/
theorem turn_of_step {s t : Service} {a : Action} (step : s.step a = some t) : Turn s t := by
  cases a with
  | start => cases step; exact turn_start s
  | stop drains => cases step; exact turn_stop s drains
  | bound k result =>
    simp only [Service.step] at step
    split at step
    · next found => cases step; exact turn_bind found result
    · cases step
  | joined k =>
    simp only [Service.step] at step
    split at step
    · next i drains found =>
      split at step
      · next exited =>
        cases step
        exact .joined k i drains found exited rfl rfl fun _ => alive_of_same rfl
      · cases step
    · cases step
  | polled k =>
    simp only [Service.step] at step
    split at step
    · next found =>
      split at step
      · cases step
        exact .returned k (.stopped (.ok ())) found rfl rfl rfl rfl fun _ => alive_of_same rfl
      · cases step
        exact .kept rfl rfl fun _ => alive_of_same rfl
    · cases step
  | expired k =>
    simp only [Service.step] at step
    split at step
    · next found =>
      cases step
      exact .returned k (.stopped (.error (.stillOpen s.active))) found rfl rfl rfl rfl
        fun _ => alive_of_same rfl
    · cases step
  | loop i e => exact (quiet_advanceLoop step).turn (move_advanceLoop step).2
  | task i => exact (quiet_advanceTask step).turn (move_advanceTask step).2
  | attended i attendance => exact (quiet_concludeTask step).turn (move_concludeTask step).2
  | install executor => cases step; exact .kept rfl rfl fun _ => alive_of_same rfl

end Service

end Wiretap.Listener
