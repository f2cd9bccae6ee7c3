import Mathlib.Tactic.Common
import Wiretap.Proofs.Listener.Subscriptions
import Wiretap.Proofs.Listener.Turns

/-!
# The signal of a loop

Every start makes a signal, to which its loop is the only subscriber.  The stop that ends the loop
sends it, and the loop hears of it where it waits, exits and goes away (`Service.signalling`).  Of
all this the loop itself has but one flag, whether it has been told to stop.

That is enough: in every run of the service the signal is what its loop shows (`Loop.signal`,
`Service.signal_of_run`).  So a loop that goes on hears the signal when it listens next just when it
has been told, and one that has exited has gone away (`Service.heard_of_run`).
-/

namespace Wiretap.Listener

set_option autoImplicit false

open Signal (Act heardIn ofScript)

/-! ## What a loop shows -/

/-- The signal of a loop, as the loop shows it. -/
def Loop.signal (l : Loop) : Signal :=
  if l.phase = .exited then ⟨1, [none]⟩ else ⟨if l.signalled then 1 else 0, [some 0]⟩

namespace Loop

variable {l l' : Loop} {e : LoopEvent}

@[simp] theorem signalled_release (l : Loop) : l.release.signalled = l.signalled := by
  unfold release
  split <;> rfl

/-- A loop exits only by hearing the signal, which has been sent then. -/
theorem step_cases (step : l.step e = some l') :
    l'.signalled = l.signalled ∧ l.phase ≠ .exited ∧
      (e = .stopped ∧ l.signalled ∧ l'.phase = .exited ∨ e ≠ .stopped ∧ l'.phase ≠ .exited) := by
  unfold Loop.step at step
  split at step
  · next phase =>
    unfold acquire at step
    split at step <;> cases step <;> exact ⟨rfl, by simp [phase], .inr ⟨nofun, nofun⟩⟩
  · next phase =>
    split at step
    · next heard =>
      cases step
      exact ⟨rfl, by simp [phase], .inl ⟨rfl, (Bool.and_eq_true_iff.mp heard).1, rfl⟩⟩
    · cases step
  · next phase => cases step; exact ⟨rfl, by simp [phase], .inr ⟨nofun, nofun⟩⟩
  · next phase => cases step; exact ⟨rfl, by simp [phase], .inr ⟨nofun, nofun⟩⟩
  · next phase =>
    split at step
    · next heard =>
      cases step
      exact ⟨signalled_release l, by simp [phase], .inl ⟨rfl, heard, rfl⟩⟩
    · cases step
  · next phase =>
    cases step
    exact ⟨signalled_release l, by simp [phase], .inr ⟨nofun, nofun⟩⟩
  · cases step

/-- A permit that is given back makes no difference to the signal. -/
theorem signal_release (l : Loop) : l.release.signal = l.signal := by
  rw [signal, signal, signalled_release, phase_release]

/-- A step of a loop is one that hears the signal, or leaves it alone. -/
theorem signal_step (step : l.step e = some l') :
    l'.signal = l.signal.run (if e = .stopped then [.listen 0, .leave 0] else []) := by
  obtain ⟨signalled, goesOn, ⟨rfl, told, exited⟩ | ⟨other, stays⟩⟩ := step_cases step
  · rw [signal, signal, if_pos exited, if_neg goesOn, told]
    rfl
  · rw [signal, signal, if_neg stays, if_neg goesOn, if_neg other, signalled]
    rfl

end Loop

namespace Service

/-! ## What is done with the signal -/

/-- What a step does with the signal of a loop, where the step can be taken. -/
def signalling (i : Nat) (s : Service) : Action → List Act
  | .bound _ (.ok _) =>
    if s.loops.length = i ∧ ¬ s.limit.any (permitLimit < ·) then [.subscribe] else []
  | .stop _ =>
    if s.lifecycle.state = .running ∧ s.lifecycle.signal = some i then [.trigger] else []
  | .loop j .stopped => if j = i then [.listen 0, .leave 0] else []
  | _ => []

/-- What a run does with the signal of a loop. -/
def signalScript (i : Nat) : Service → List Action → List Act
  | _, [] => []
  | s, a :: rest => s.signalling i a ++ ((s.step a).map (signalScript i · rest)).getD []

/-- The signal of a loop, as the service shows it; before the loop is made there is none. -/
def signal (s : Service) (i : Nat) : Signal := (s.loops[i]?.map Loop.signal).getD {}

/-- The signal that the next stop sends has its subscriber, and has not been sent. -/
def Untold (s : Service) : Prop := ∀ i, s.lifecycle.signal = some i → s.signal i = ⟨0, [some 0]⟩

variable {s t : Service} {i j : Nat}

/-! ## One step -/

theorem signal_of_same (loops : t.loops = s.loops) (i : Nat) : t.signal i = s.signal i := by
  rw [signal, signal, loops]

/-- A loop that is told has its signal sent. -/
theorem signal_of_told (loops : t.loops = s.loops.modify j fun l => { l with signalled := true })
    (unsent : s.signal j = ⟨0, [some 0]⟩) (i : Nat) :
    t.signal i = (s.signal i).run (if j = i then [.trigger] else []) := by
  by_cases own : j = i
  · subst own
    rw [if_pos rfl, unsent]
    rw [signal] at unsent ⊢
    rw [loops, List.getElem?_modify_eq]
    cases found : s.loops[j]? with
    | none => simp [found] at unsent
    | some l =>
      rw [found] at unsent
      have goesOn : l.phase ≠ .exited := fun exited => by
        simp [Loop.signal, exited] at unsent
      simp [Loop.signal, goesOn]
      rfl
  · rw [signal, loops, List.getElem?_modify_ne _ _ own, if_neg own]
    rfl

/-- A loop that is made subscribes. -/
theorem signal_of_made (loops : t.loops = s.loops ++ [{ limit := s.limit }]) (i : Nat) :
    t.signal i = (s.signal i).run (if s.loops.length = i then [.subscribe] else []) := by
  rw [signal, signal, loops]
  obtain before | rfl | behind := Nat.lt_trichotomy i s.loops.length
  · rw [List.getElem?_append_left before, if_neg (Nat.ne_of_gt before)]
    rfl
  · rw [List.getElem?_concat_length, List.getElem?_eq_none (Nat.le_refl _), if_pos rfl]
    rfl
  · rw [List.getElem?_eq_none (by simp; omega), List.getElem?_eq_none (Nat.le_of_lt behind),
      if_neg (Nat.ne_of_lt behind)]
    rfl

/-- A stop sends the signal of the loop that it tells. -/
theorem signal_stop (untold : s.Untold) (drains : Bool) (i : Nat) :
    (s.stop drains).signal i = (s.signal i).run (s.signalling i (.stop drains)) := by
  by_cases running : s.lifecycle.state = .running
  · rw [stop, if_pos running, signalling]
    cases stored : s.lifecycle.signal with
    | none =>
      rw [if_neg (by simp)]
      exact signal_of_same rfl i
    | some k =>
      simp only [running, true_and, Option.some.injEq]
      exact signal_of_told rfl (untold k stored) i
  · rw [stop, if_neg running, signalling, if_neg fun both => running both.1]
    exact signal_of_same rfl i

/-- A start subscribes for the loop that it makes. -/
theorem signal_bind (s : Service) (k : Nat) (result : Except IoFault Address.Socket) (i : Nat) :
    (s.bind k result).signal i = (s.signal i).run (s.signalling i (.bound k result)) := by
  cases result with
  | error e => exact signal_of_same rfl i
  | ok address =>
    rw [bind, signalling]
    dsimp only
    by_cases great : s.limit.any (permitLimit < ·)
    · rw [if_pos great, if_neg fun both => both.2 great]
      exact signal_of_same rfl i
    · simp only [great, Bool.false_eq_true, if_false, not_false_eq_true, and_true]
      exact signal_of_made rfl i

theorem signal_advanceLoop {e : LoopEvent} (step : s.advanceLoop j e = some t) (i : Nat) :
    t.signal i = (s.signal i).run (s.signalling i (.loop j e)) := by
  simp only [advanceLoop, Option.bind_eq_bind, Option.bind_eq_some_iff, Option.pure_def] at step
  obtain ⟨l, found, l', moved, step⟩ := step
  have loops : t.loops = s.loops.set j l' := by
    cases step
    split <;> rfl
  have does : s.signalling i (.loop j e) =
      if j = i then (if e = .stopped then [.listen 0, .leave 0] else []) else [] := by
    cases e <;> simp [signalling]
  rw [signal, signal, loops, does]
  by_cases own : j = i
  · subst own
    rw [List.getElem?_set_self (List.getElem?_eq_some_iff.mp found).1, found, if_pos rfl]
    exact Loop.signal_step moved
  · rw [List.getElem?_set_ne own, if_neg own]
    rfl

theorem signal_advanceTask (step : s.advanceTask j = some t) (i : Nat) :
    t.signal i = s.signal i := by
  simp only [advanceTask, Option.bind_eq_bind, Option.bind_eq_some_iff] at step
  obtain ⟨task, found, step⟩ := step
  cases phase : task.phase with
  | accepted =>
    simp only [phase, Option.pure_def, Option.some.injEq] at step
    subst step
    exact signal_of_same rfl i
  | attended id => simp [phase] at step
  | attendedTo attendance =>
    simp only [phase, Option.pure_def, Option.some.injEq] at step
    subst step
    rw [signal, signal, List.getElem?_modify]
    cases s.loops[i]? with
    | none => rfl
    | some l =>
      by_cases own : task.loop = i
      · simp [own, Loop.signal_release]
      · simp [own]
  | finished attendance => simp [phase] at step

/-- **A step of the service does with the signal of a loop what the loop shows.** -/
theorem signal_of_step {a : Action} (untold : s.Untold) (step : s.step a = some t) (i : Nat) :
    t.signal i = (s.signal i).run (s.signalling i a) := by
  cases a with
  | start =>
    cases step
    unfold start
    split <;> exact signal_of_same rfl i
  | stop drains => cases step; exact signal_stop untold drains i
  | bound k result =>
    simp only [Service.step] at step
    split at step <;> cases step
    exact signal_bind s k result i
  | joined k =>
    simp only [Service.step] at step
    split at step
    · split at step <;> cases step
      exact signal_of_same rfl i
    · cases step
  | polled k =>
    simp only [Service.step] at step
    split at step
    · split at step <;> cases step <;> exact signal_of_same rfl i
    · cases step
  | expired k =>
    simp only [Service.step] at step
    split at step <;> cases step
    exact signal_of_same rfl i
  | loop j e => exact signal_advanceLoop step i
  | task j => exact signal_advanceTask step i
  | attended j attendance =>
    simp only [Service.step, concludeTask, Option.bind_eq_bind, Option.bind_eq_some_iff] at step
    obtain ⟨task, found, step⟩ := step
    split at step
    · cases step
      exact signal_of_same rfl i
    · cases step
  | install executor => cases step; exact signal_of_same rfl i

/-- A step leaves the stored signal, or takes it, or stores that of the loop that it makes. -/
theorem Turn.stored (turn : Turn s t) :
    t.lifecycle.signal = s.lifecycle.signal ∨ t.lifecycle.signal = none ∨
      (t.lifecycle.signal = some s.loops.length ∧ t.loops = s.loops ++ [{ limit := s.limit }]) := by
  cases turn with
  | kept lifecycle => exact .inl (by rw [lifecycle])
  | refused c past refused lifecycle => exact .inl (by rw [lifecycle])
  | starting stopped lifecycle => exact .inl (by rw [lifecycle])
  | unbound k e found lifecycle => exact .inl (by rw [lifecycle])
  | crashed k found lifecycle => exact .inl (by rw [lifecycle])
  | joined k i drains found exited lifecycle => exact .inl (by rw [lifecycle])
  | returned k c found past ended lifecycle => exact .inl (by rw [lifecycle])
  | running k address found lifecycle calls loops => exact .inr (.inr ⟨by rw [lifecycle], loops⟩)
  | stopping drains running lifecycle => exact .inr (.inl (by rw [lifecycle]))

/-- Nothing is done with a signal that has its subscriber, by a step that leaves it stored. -/
theorem signalling_of_stored {a : Action} (step : s.step a = some t)
    (unsent : s.signal i = ⟨0, [some 0]⟩) (stored : t.lifecycle.signal = some i) :
    s.signalling i a = [] := by
  cases a with
  | stop drains =>
    rw [signalling, if_neg]
    rintro ⟨running, -⟩
    cases step
    rw [stop, if_pos running] at stored
    cases stored
  | bound k result =>
    cases result with
    | error e => rfl
    | ok address =>
      rw [signalling, if_neg]
      rintro ⟨rfl, -⟩
      rw [signal, List.getElem?_eq_none (Nat.le_refl _)] at unsent
      cases unsent
  | loop j e =>
    cases e with
    | stopped =>
      rw [signalling, if_neg]
      rintro rfl
      simp only [Service.step, advanceLoop, Option.bind_eq_bind, Option.bind_eq_some_iff] at step
      obtain ⟨l, found, l', moved, -⟩ := step
      obtain ⟨-, goesOn, ⟨-, told, -⟩ | ⟨other, -⟩⟩ := Loop.step_cases moved
      · rw [signal, found, Option.map_some, Option.getD_some, Loop.signal, if_neg goesOn,
          told] at unsent
        cases unsent
      · exact other rfl
    | _ => rfl
  | _ => rfl

theorem Untold.step {a : Action} (untold : s.Untold) (step : s.step a = some t) : t.Untold := by
  intro i stored
  rcases (turn_of_step step).stored with same | none | ⟨new, loops⟩
  · have unsent := untold i (same ▸ stored)
    rw [signal_of_step untold step, signalling_of_stored step unsent stored]
    exact unsent
  · rw [none] at stored
    cases stored
  · rw [new] at stored
    cases stored
    rw [signal, loops, List.getElem?_concat_length]
    rfl

/-! ## Runs -/

theorem signalScript_cons {a : Action} (step : s.step a = some t) (i : Nat) (rest : List Action) :
    s.signalScript i (a :: rest) = s.signalling i a ++ t.signalScript i rest := by
  rw [signalScript, step]
  rfl

/-- **Throughout every run the signal of a loop is what the loop shows.** -/
theorem signal_of_run {actions : List Action} (untold : s.Untold)
    (ran : s.run actions = some t) (i : Nat) :
    t.signal i = (s.signal i).run (s.signalScript i actions) := by
  induction actions generalizing s with
  | nil =>
    cases ran
    rfl
  | cons a actions ih =>
    rw [Service.run, List.foldlM_cons] at ran
    obtain ⟨next, step, ran⟩ := Option.bind_eq_some_iff.mp ran
    rw [ih (untold.step step) ran, signal_of_step untold step, ← Signal.run_append,
      signalScript_cons step]

/-- **The flag of a loop is its signal.**  A loop that goes on hears the signal when it listens next
if it has been told to stop, and nothing otherwise; one that has exited has gone away. -/
theorem heard_of_run {limit : Option Nat} {actions : List Action}
    (ran : (fresh limit).run actions = some s) {l : Loop} (there : s.loops[i]? = some l) :
    (ofScript ((fresh limit).signalScript i actions)).heard? 0 =
      if l.phase = .exited then none else some (if l.signalled then .signal else .nothing) := by
  have untold : (fresh limit).Untold := nofun
  have shows : ofScript ((fresh limit).signalScript i actions) = l.signal := by
    rw [ofScript, ← Option.getD_some (a := l.signal) (b := {}), ← Option.map_some, ← there]
    exact (signal_of_run untold ran i).symm
  rw [shows, Loop.signal]
  split
  · rfl
  · cases l.signalled <;> rfl

end Service

end Wiretap.Listener
