import Wiretap.Listener.House
import Wiretap.Proofs.Listener.Permits
import Wiretap.Proofs.Session.Ensembles
import Wiretap.Proofs.Session.Hearings

/-!
# What happens in the house

What a connection tells is written down under its task and changes nothing else, since no call of an
executor panics through its handle (`House.hears_hearAll`).  So an event in the house is a step of
the service that attends nobody, the beginning or the end of a visit, or a cue of one
(`House.steps_of_step`), and it touches the journal of one task at most (`House.entries_append`).
-/

namespace Wiretap.Listener

set_option autoImplicit false

open Observer (Ended Executor HookCall Metric Peer)
open Session (Context Cue Ensemble Note)
open Transport (ByteStream)

variable {σ τ : Type}

/-! ## Steps that attend nobody -/

namespace Service

/-- What a step that attends nobody does to the connections and to the tracker. -/
inductive Aloof (s t : Service) : Prop where
  | keeps (tasks : t.tasks = s.tasks) (tracker : t.tracker = s.tracker)
  | accepts (loop : Nat) (tasks : t.tasks = s.tasks ++ [{ loop := loop }])
    (tracker : t.tracker = s.tracker)
  | returns (i : Nat) (task : ConnectionTask) (attendance : Attendance)
    (found : s.tasks[i]? = some task) (phase : task.phase = .attendedTo attendance)
    (tasks : t.tasks = s.tasks.set i { task with phase := .finished attendance })
    (tracker : t.tracker = s.tracker)

variable {s t : Service}

theorem Aloof.tracker_eq (aloof : s.Aloof t) : t.tracker = s.tracker := by
  cases aloof with
  | keeps tasks tracker => exact tracker
  | accepts loop tasks tracker => exact tracker
  | returns i task attendance found phase tasks tracker => exact tracker

theorem aloof_of_loop {i : Nat} {e : LoopEvent} (step : s.advanceLoop i e = some t) :
    s.Aloof t := by
  simp only [advanceLoop, Option.bind_eq_bind, Option.bind_eq_some_iff, Option.pure_def] at step
  obtain ⟨l, _, l', _, step⟩ := step
  cases step
  by_cases accepts : e = .accepted
  · rw [if_pos accepts]
    exact .accepts i rfl rfl
  · rw [if_neg accepts]
    exact .keeps rfl rfl

theorem aloof_of_task {i : Nat} (step : s.advanceTask i = some t)
    (tracked : ∀ task, s.tasks[i]? = some task → task.phase ≠ .accepted) : s.Aloof t := by
  simp only [advanceTask, Option.bind_eq_bind, Option.bind_eq_some_iff] at step
  obtain ⟨task, found, step⟩ := step
  cases phase : task.phase with
  | accepted => exact absurd phase (tracked task found)
  | attended id => simp [phase] at step
  | attendedTo attendance =>
    simp only [phase, Option.pure_def, Option.some.injEq] at step
    subst step
    exact .returns i task attendance found phase rfl rfl
  | finished attendance => simp [phase] at step

end Service

namespace House

/-- **A step that attends nobody leaves the attended connections alone.** -/
theorem aloof_of_step {h : House σ τ} {a : Action} {service : Service}
    (aloof : h.attends a = false) (step : h.service.step a = some service) :
    h.service.Aloof service := by
  cases a with
  | start =>
    cases step
    unfold Service.start
    split <;> exact .keeps rfl rfl
  | stop drains =>
    cases step
    unfold Service.stop
    split <;> exact .keeps rfl rfl
  | bound i result =>
    simp only [Service.step] at step
    split at step <;> cases step
    unfold Service.bind
    split
    · exact .keeps rfl rfl
    · split <;> exact .keeps rfl rfl
  | joined i =>
    simp only [Service.step] at step
    split at step
    · split at step <;> cases step
      exact .keeps rfl rfl
    · cases step
  | polled i =>
    simp only [Service.step] at step
    split at step
    · split at step <;> cases step <;> exact .keeps rfl rfl
    · cases step
  | expired i =>
    simp only [Service.step] at step
    split at step <;> cases step
    exact .keeps rfl rfl
  | loop i e => exact Service.aloof_of_loop step
  | task i =>
    apply Service.aloof_of_task step
    intro task found accepted
    rw [attends, found, Option.any_some, accepted] at aloof
    cases aloof
  | attended i attendance => cases aloof
  | install executor =>
    cases step
    exact .keeps rfl rfl

end House

/-! ## What is heard -/

/-- What is written down of a note where this executor hears of it. -/
def Entry.of (executor : Option Nat) : Note → Option Entry
  | .log _ => none
  | .metric m => some (.counted m)
  | .hook c => if c.isMade then executor.map (.called · c) else none

namespace Entry

/-- What may be written down of a note. -/
theorem of_cases {executor : Option Nat} {n : Note} {x : Entry} (written : of executor n = some x) :
    (∃ m, n = .metric m ∧ x = .counted m) ∨
      ∃ k c, n = .hook c ∧ executor = some k ∧ x = .called k c := by
  cases n with
  | log entry => cases written
  | metric m =>
    cases written
    exact .inl ⟨m, rfl, rfl⟩
  | hook c =>
    rw [of] at written
    obtain ⟨_, written⟩ := Option.ite_none_right_eq_some.mp written
    obtain ⟨k, rfl, rfl⟩ := Option.map_eq_some_iff.mp written
    exact .inr ⟨k, c, rfl, rfl, rfl⟩

/-- What is written down of some notes. -/
def written (executor : Option Nat) (ns : List Note) : List Entry := ns.filterMap (of executor)

variable (executor : Option Nat)

@[simp] theorem written_nil : written executor [] = [] := rfl

theorem written_cons (n : Note) (ns : List Note) :
    written executor (n :: ns) = (of executor n).toList ++ written executor ns := by
  rw [written, List.filterMap_cons]
  cases of executor n <;> rfl

theorem written_append (ns more : List Note) :
    written executor (ns ++ more) = written executor ns ++ written executor more :=
  List.filterMap_append

end Entry

namespace House

/-- Some notes of a task have been written down, and nothing else has changed but the log and what
the executors have been called with. -/
structure Hears (h h' : House σ τ) (task : Nat) (ns : List Note) : Prop where
  service : h'.service = h.service
  visits : h'.visits = h.visits
  journal : h'.journal = h.journal ++ (Entry.written (h.executor? task) ns).map (task, ·)

variable {h h' : House σ τ} {task : Nat} {ns : List Note}

theorem Hears.executor? (hears : Hears h h' task ns) : h'.executor? task = h.executor? task := by
  rw [House.executor?, House.executor?, hears.service]

/-- **A task that is heard goes on, whatever its executor does.** -/
theorem hears_hear (f : Furnishing) (h : House σ τ) (task : Nat) (peer : Peer) (n : Note) :
    ∃ h', h.hear f task peer n = (h', .returned ()) ∧ Hears h h' task [n] := by
  cases n with
  | log entry => exact ⟨_, rfl, rfl, rfl, (List.append_nil _).symm⟩
  | metric m => exact ⟨_, rfl, rfl, rfl, rfl⟩
  | hook c =>
    have one (executor : Option Nat) : Entry.written executor [.hook c] =
        (if c.isMade then executor.map (Entry.called · c) else none).toList := by
      rw [Entry.written_cons, Entry.written_nil, List.append_nil]
      rfl
    rw [hear]
    cases executor : h.executor? task with
    | none =>
      refine ⟨h, rfl, rfl, rfl, ?_⟩
      rw [executor, one]
      cases c.isMade <;> exact (List.append_nil _).symm
    | some k =>
      obtain ⟨delivered, _⟩ := (f.executors k).deliver_eq (h.histories k) peer c
      dsimp only
      rw [delivered]
      refine ⟨_, rfl, ?_⟩
      cases made : c.isMade with
      | true =>
        refine ⟨rfl, rfl, ?_⟩
        rw [executor, one, made]
        rfl
      | false =>
        refine ⟨rfl, rfl, ?_⟩
        rw [executor, one, made]
        exact (List.append_nil _).symm

theorem hears_hearAll (f : Furnishing) (h : House σ τ) (task : Nat) (peer : Peer)
    (ns : List Note) :
    ∃ h', h.hearAll f task peer ns = (h', .returned ()) ∧ Hears h h' task ns := by
  induction ns generalizing h with
  | nil => exact ⟨h, rfl, rfl, rfl, (List.append_nil _).symm⟩
  | cons n ns ih =>
    obtain ⟨middle, heard, first⟩ := hears_hear f h task peer n
    obtain ⟨h', rest, last⟩ := ih middle
    refine ⟨h', ?_, last.service.trans first.service, last.visits.trans first.visits, ?_⟩
    · rw [hearAll, heard]
      exact rest
    · rw [last.journal, first.journal, first.executor?, List.append_assoc, ← List.map_append,
        ← Entry.written_append]
      rfl

/-! ## Events -/

/-- What an event leads to, where it can happen. -/
inductive Steps [ByteStream σ] [ByteStream τ] (f : Furnishing) (h : House σ τ) :
    Event σ τ → House σ τ → Prop where
  | serves {a : Action} {service : Service} (went : h.service.step a = some service)
    (aloof : h.service.Aloof service) : h.Steps f (.service a) { h with service }
  | enters {task id : Nat} {t : ConnectionTask} {stream : σ} {address : String}
    {panic : Option Nat} {service : Service} {context : Context}
    (found : h.service.tasks[task]? = some t) (accepted : t.phase = .accepted)
    (numbered : id = h.service.tracker.track.1) (known : context = ⟨f.settings, ⟨id, address⟩⟩)
    (went : h.service.step (.task task) = some service) :
    h.Steps f (.enter task stream address panic)
      (({ h with service }.setVisit task {
          context
          ensemble := .start f.settings.bufferSize stream (Session.attendCaught panic context)
        }).write task (.tracked id h.service.executor))
  | cues {task : Nat} {q : Cue σ τ} {v : Visit σ τ} {ensemble : Ensemble σ τ} {heard : House σ τ}
    (here : h.visits task = some v) (goesOn : v.lost = false)
    (steps : v.ensemble.Steps v.context q ensemble)
    (hears : Hears h heard task
      ((ensemble.told.drop v.ensemble.told.length).map (·.2))) :
    h.Steps f (.cue task q) (heard.setVisit task { v with ensemble })
  | leaves {task id : Nat} {t : ConnectionTask} {v : Visit σ τ} {attendance : Attendance}
    {service : Service} (found : h.service.tasks[task]? = some t) (phase : t.phase = .attended id)
    (here : h.visits task = some v) (came : v.attendance? = some attendance)
    (went : h.service.step (.attended task attendance) = some service) :
    h.Steps f (.leave task) ({ h with service }.write task (.released id))

/-- **An event does one of these things.** -/
theorem steps_of_step [ByteStream σ] [ByteStream τ] {f : Furnishing} {event : Event σ τ}
    (went : h.step f event = some h') : h.Steps f event h' := by
  cases event with
  | service a =>
    obtain ⟨aloof, went⟩ := Option.ite_none_left_eq_some.mp went
    obtain ⟨service, moved, ⟨⟩⟩ := Option.map_eq_some_iff.mp went
    exact .serves moved (aloof_of_step (Bool.not_eq_true _ ▸ aloof) moved)
  | enter task stream address panic =>
    obtain ⟨t, found, went⟩ := Option.bind_eq_some_iff.mp went
    obtain ⟨accepted, went⟩ := Option.ite_none_right_eq_some.mp went
    obtain ⟨service, moved, ⟨⟩⟩ := Option.bind_eq_some_iff.mp went
    exact .enters found accepted rfl rfl moved
  | cue task q =>
    obtain ⟨v, here, went⟩ := Option.bind_eq_some_iff.mp went
    obtain ⟨goesOn, went⟩ := Option.ite_none_left_eq_some.mp went
    obtain ⟨ensemble, moved, went⟩ := Option.bind_eq_some_iff.mp went
    obtain ⟨heard, all, hears⟩ := hears_hearAll f h task v.context.peer
      ((ensemble.told.drop v.ensemble.told.length).map (·.2))
    dsimp only at went
    rw [all] at went
    cases went
    exact .cues here (Bool.not_eq_true _ ▸ goesOn) (Ensemble.steps_of_step moved) hears
  | leave task =>
    obtain ⟨t, found, went⟩ := Option.bind_eq_some_iff.mp went
    obtain ⟨v, here, went⟩ := Option.bind_eq_some_iff.mp went
    obtain ⟨attendance, came, went⟩ := Option.bind_eq_some_iff.mp went
    cases phase : t.phase with
    | attended id =>
      rw [phase] at went
      obtain ⟨service, moved, ⟨⟩⟩ := Option.bind_eq_some_iff.mp went
      exact .leaves found phase here came moved
    | accepted => rw [phase] at went; cases went
    | attendedTo attendance => rw [phase] at went; cases went
    | finished attendance => rw [phase] at went; cases went

/-- What every event keeps, a run keeps. -/
theorem run_keeps [ByteStream σ] [ByteStream τ] {f : Furnishing} {P : House σ τ → Prop}
    (keeps : ∀ {h h' : House σ τ} {event : Event σ τ}, h.Steps f event h' → P h → P h')
    {events : List (Event σ τ)} (ran : h.run f events = some h') (before : P h) : P h' := by
  induction events generalizing h with
  | nil =>
    cases ran
    exact before
  | cons event events ih =>
    rw [run, List.foldlM_cons] at ran
    obtain ⟨middle, went, ran⟩ := Option.bind_eq_some_iff.mp ran
    exact ih ran (keeps (steps_of_step went) before)

/-! ## The journal -/

/-- What is written for one task is not written for another. -/
theorem entries_append (es : List Entry) (journal : h'.journal = h.journal ++ es.map (task, ·))
    (i : Nat) : h'.entries i = h.entries i ++ if task = i then es else [] := by
  rw [entries, journal, List.filter_append, List.map_append]
  clear journal
  refine congrArg (h.entries i ++ ·) ?_
  by_cases same : task = i
  · rw [if_pos same]
    induction es with
    | nil => rfl
    | cons e es ih =>
      rw [List.map_cons, List.filter_cons_of_pos (by simpa using same), List.map_cons, ih]
  · rw [if_neg same]
    induction es with
    | nil => rfl
    | cons e es ih => rw [List.map_cons, List.filter_cons_of_neg (by simpa using same), ih]

theorem entries_write (h : House σ τ) (task : Nat) (x : Entry) (i : Nat) :
    (h.write task x).entries i = h.entries i ++ if task = i then [x] else [] :=
  entries_append [x] rfl i

end House

end Wiretap.Listener
