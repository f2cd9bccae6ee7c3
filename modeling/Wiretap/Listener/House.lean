import Wiretap.Listener.Service
import Wiretap.Observer.Handle
import Wiretap.Session.Crash
import Wiretap.Session.Ensemble

/-!
# The listener with its connections

Every accepted connection is attended by a task of its own.  The task is tracked, takes the executor
of hooks that is installed then, attends the connection, and is tracked no more.  Meanwhile the other
connections go on, the listener is started and stopped, and executors are installed and taken away.

A journal says what was done for which connection, in order: that it was tracked and is tracked no
more, what was counted, and which executor was called.  If a panic got through to a task, it would be
tracked no more and do nothing else.
-/

namespace Wiretap.Listener

set_option autoImplicit false

open Observer (Ended Executor HookCall Log Metric Peer)
open Session (Answered Context Cue Ensemble Note)
open Transport (ByteStream)

/-- Something that was done for a connection. -/
inductive Entry where
  /-- It was tracked under a number, and took this executor. -/
  | tracked (id : Nat) (executor : Option Nat)
  | counted (m : Metric)
  | called (executor : Nat) (c : HookCall)
  | released (id : Nat)
  deriving DecidableEq, Repr

namespace Entry

def metric? : Entry → Option Metric
  | counted m => some m
  | _ => none

def isTracked : Entry → Bool
  | tracked .. => true
  | _ => false

def isReleased : Entry → Bool
  | released _ => true
  | _ => false

end Entry

/-- A connection that is or was attended. -/
structure Visit (σ τ : Type) where
  context : Context
  ensemble : Ensemble σ τ
  /-- Whether a panic has got through to its task. -/
  lost : Bool := false

/-- What kept a connection from being closed, if anything did. -/
def closingFault (past : List Answered) : Option IoFault :=
  past.findSome? fun
    | ⟨.close, .error e⟩ => some e
    | _ => none

namespace Visit

/-- How attending the connection came out, once it has.  Of a task that was lost nothing is known. -/
def attendance? {σ τ : Type} (v : Visit σ τ) : Option Attendance :=
  if v.lost then some ⟨⟨none, none⟩, none⟩
  else match v.ensemble.standing.rest with
    | .finish o => some ⟨o, closingFault v.ensemble.standing.past⟩
    | _ => none

end Visit

/-- What does not change: the settings, and the executors by their numbers. -/
structure Furnishing where
  settings : Settings.Effective
  executors : Nat → Executor

/-- A listener with its connections. -/
structure House (σ τ : Type) where
  service : Service
  /-- The connections that are or were attended, by their tasks. -/
  visits : Nat → Option (Visit σ τ) := fun _ => none
  /-- The calls that each executor has had, the last one first. -/
  histories : Nat → List (Peer × HookCall) := fun _ => []
  logs : List Log := []
  /-- What was done, and for which task. -/
  journal : List (Nat × Entry) := []

/-- One thing that happens in the house. -/
inductive Event (σ τ : Type) where
  /-- The service takes a step that is not about attending a connection. -/
  | service (a : Action)
  /-- A connection that was accepted begins to be attended.  Its processor may panic behind so many
  turns. -/
  | enter (task : Nat) (stream : σ) (address : String) (panic : Option Nat)
  /-- Something happens to a connection that is or was attended. -/
  | cue (task : Nat) (cue : Cue σ τ)
  /-- A connection has been attended. -/
  | leave (task : Nat)

namespace House

variable {σ τ : Type}

/-- A house in which nothing has happened. -/
def fresh (limit : Option Nat) : House σ τ := { service := .fresh limit }

/-- What was done for one task, in order. -/
def entries (h : House σ τ) (task : Nat) : List Entry :=
  (h.journal.filter (·.1 = task)).map (·.2)

/-- How many connections are active, by what was counted. -/
def gauge (h : House σ τ) : Int :=
  ((Metric.totals (h.journal.filterMap fun x => x.2.metric?)).lookup Metric.activeSeries).getD 0

/-- Something is done for a task. -/
def write (h : House σ τ) (task : Nat) (x : Entry) : House σ τ :=
  { h with journal := h.journal ++ [(task, x)] }

/-- The connection of a task has come so far. -/
def setVisit (h : House σ τ) (task : Nat) (v : Visit σ τ) : House σ τ :=
  { h with visits := fun i => if i = task then some v else h.visits i }

/-- The executor that hears of a task. -/
def executor? (h : House σ τ) (task : Nat) : Option Nat :=
  (h.service.tasks[task]?).bind (·.executor)

/-- Whether a step of the service is about attending a connection. -/
def attends (h : House σ τ) : Action → Bool
  | .task i => (h.service.tasks[i]?).any fun t => t.phase == .accepted
  | .attended .. => true
  | _ => false

/-- Takes a note of a task; whether the task goes on. -/
def hear (f : Furnishing) (h : House σ τ) (task : Nat) (peer : Peer) :
    Note → House σ τ × Ended Unit
  | .log entry => ({ h with logs := h.logs ++ [entry] }, .returned ())
  | .metric m => (h.write task (.counted m), .returned ())
  | .hook c =>
    match h.executor? task with
    | none => (h, .returned ())
    | some k =>
      let x := (f.executors k).deliver (h.histories k) peer c
      let h := { h with
        histories := fun j =>
          if j = k then Executor.remember (h.histories k) peer c else h.histories j
        logs := h.logs ++ x.logs }
      (if c.isMade then h.write task (.called k c) else h, x.ended)

/-- Takes some notes of a task in order, as long as it goes on. -/
def hearAll (f : Furnishing) (h : House σ τ) (task : Nat) (peer : Peer) :
    List Note → House σ τ × Ended Unit
  | [] => (h, .returned ())
  | n :: more =>
    match h.hear f task peer n with
    | (h, .returned ()) => h.hearAll f task peer more
    | (h, .panicked) => (h, .panicked)

/-- A connection begins to be attended. -/
def enter (f : Furnishing) (h : House σ τ) (task : Nat) (stream : σ) (address : String)
    (panic : Option Nat) : Option (House σ τ) := do
  let t ← h.service.tasks[task]?
  if t.phase = .accepted then
    let service ← h.service.step (.task task)
    let id := h.service.tracker.track.1
    let context : Context := ⟨f.settings, ⟨id, address⟩⟩
    let dialogue := Session.attendCaught panic context
    return ({ h with service }.setVisit task
      { context, ensemble := .start f.settings.bufferSize stream dialogue }).write task
        (.tracked id h.service.executor)
  else none

/-- A connection has been attended. -/
def leave (h : House σ τ) (task : Nat) : Option (House σ τ) := do
  let t ← h.service.tasks[task]?
  let v ← h.visits task
  let attendance ← v.attendance?
  match t.phase with
  | .attended id =>
    let service ← h.service.step (.attended task attendance)
    return { h with service }.write task (.released id)
  | _ => none

variable [ByteStream σ] [ByteStream τ]

/-- Something happens to a connection. -/
def cue (f : Furnishing) (h : House σ τ) (task : Nat) (q : Cue σ τ) : Option (House σ τ) := do
  let v ← h.visits task
  if v.lost then none
  else
    let ensemble ← v.ensemble.step v.context q
    let news := (ensemble.told.drop v.ensemble.told.length).map (·.2)
    match h.hearAll f task v.context.peer news with
    | (h, .returned ()) => return h.setVisit task { v with ensemble }
    | (h, .panicked) => return h.setVisit task { v with lost := true }

/-- What happens, if it can happen. -/
def step (f : Furnishing) (h : House σ τ) : Event σ τ → Option (House σ τ)
  | .service a =>
    if h.attends a then none else (h.service.step a).map fun service => { h with service }
  | .enter task stream address panic => h.enter f task stream address panic
  | .cue task q => h.cue f task q
  | .leave task => h.leave task

/-- What happens one thing after the other, if it can happen. -/
def run (f : Furnishing) (h : House σ τ) (events : List (Event σ τ)) : Option (House σ τ) :=
  events.foldlM (step f) h

end House

end Wiretap.Listener
