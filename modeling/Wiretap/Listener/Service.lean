import Wiretap.Address.Socket
import Wiretap.Listener.Loop
import Wiretap.Listener.State
import Wiretap.Listener.Tracker
import Wiretap.Session.Outcome

/-!
# The listener in service

The listener can be started and stopped any number of times, by any number of callers at once.  A
call is a sequence of steps with waiting between them: a start waits for the address to be bound, a
stop waits for its loop to exit and perhaps for the connections to finish.  What the calls share is
changed in single steps, in each of which a call sees the state that the others left.

Every start makes a loop with permits of its own.  A stop ends the loop but no connection, so there
may be connections of earlier loops beside those of the loop that runs.
-/

namespace Wiretap.Listener

set_option autoImplicit false

open Address (Socket)

/-! ## What the calls share -/

/-- Where the listener is in its life, and what a stop needs. -/
structure Lifecycle where
  state : State := .stopped
  /-- The address that is listened on. -/
  address : Option Socket := none
  /-- The loop that the signal to stop goes to. -/
  signal : Option Nat := none
  /-- The loop whose exit a stop waits for. -/
  loop : Option Nat := none
  deriving DecidableEq, Repr

/-- A call of the listener. -/
inductive Call where
  /-- A start that waits for its address. -/
  | binding
  /-- A stop that waits for its loop to exit. -/
  | joining (loop : Option Nat) (drains : Bool)
  /-- A stop that waits for the connections to finish. -/
  | draining
  | started (result : Except Failure Socket)
  | stopped (result : Except Failure Unit)
  /-- A call that did not return. -/
  | crashed

/-- How attending a connection came out. -/
structure Attendance where
  outcome : Session.Outcome
  /-- What kept the connection from being closed, if anything did. -/
  closing : Option IoFault
  deriving DecidableEq, Repr

/-- Where an accepted connection stands. -/
inductive TaskPhase where
  /-- It has been accepted and nothing more. -/
  | accepted
  /-- It is attended; the tracker counts it. -/
  | attended (id : Nat)
  /-- It has been attended and still holds its permit. -/
  | attendedTo (attendance : Attendance)
  | finished (attendance : Attendance)
  deriving DecidableEq, Repr

/-- An accepted connection. -/
structure ConnectionTask where
  /-- The loop that accepted it. -/
  loop : Nat
  phase : TaskPhase := .accepted
  /-- The executor of hooks that hears of it, once it is attended. -/
  executor : Option Nat := none
  deriving DecidableEq, Repr

namespace ConnectionTask

/-- How many permits the connection holds of a loop that limits connections. -/
def held (t : ConnectionTask) : Nat :=
  match t.phase with
  | .finished _ => 0
  | _ => 1

end ConnectionTask

/-- The listener with everything that was started on it. -/
structure Service where
  /-- How many connections of one loop may be open at once, if that is limited. -/
  limit : Option Nat
  lifecycle : Lifecycle := {}
  loops : List Loop := []
  tasks : List ConnectionTask := []
  tracker : Tracker := {}
  /-- The executor of hooks that is installed. -/
  executor : Option Nat := none
  calls : List Call := []

/-! ## Steps -/

/-- One step of the service. -/
inductive Action where
  | start
  /-- To stop, and perhaps to wait for the connections to finish. -/
  | stop (drains : Bool)
  /-- The address of a start is bound, or not. -/
  | bound (call : Nat) (result : Except IoFault Socket)
  /-- A stop sees that its loop has exited. -/
  | joined (call : Nat)
  /-- A stop looks whether all connections have finished. -/
  | polled (call : Nat)
  /-- The deadline of a stop passes. -/
  | expired (call : Nat)
  | loop (loop : Nat) (event : LoopEvent)
  /-- A connection goes on of its own accord. -/
  | task (task : Nat)
  /-- Attending a connection comes to its end, in whatever way. -/
  | attended (task : Nat) (attendance : Attendance)
  /-- An executor of hooks is installed, or taken away. -/
  | install (executor : Option Nat)

namespace Service

/-- The greatest number of permits that can be made. -/
def permitLimit : Nat := 2305843009213693951

/-- How many connections are being attended. -/
def active (s : Service) : Nat := s.tracker.count

/-- A call is made. -/
def addCall (s : Service) (c : Call) : Service := { s with calls := s.calls ++ [c] }

/-- A call goes on. -/
def setCall (s : Service) (i : Nat) (c : Call) : Service := { s with calls := s.calls.set i c }

/-- A start is called. -/
def start (s : Service) : Service :=
  if s.lifecycle.state = .stopped then
    { s with lifecycle := { s.lifecycle with state := .starting } }.addCall .binding
  else s.addCall (.started (.error (.alreadyRunning s.lifecycle.state)))

/-- Tells a loop to stop. -/
def tell (loops : List Loop) : Option Nat → List Loop
  | none => loops
  | some i => loops.modify i fun l => { l with signalled := true }

/-- A stop is called. -/
def stop (s : Service) (drains : Bool) : Service :=
  if s.lifecycle.state = .running then
    { s with
      lifecycle := { s.lifecycle with state := .stopping, signal := none, loop := none }
      loops := tell s.loops s.lifecycle.signal }.addCall (.joining s.lifecycle.loop drains)
  else s.addCall (.stopped (.error (.notRunning s.lifecycle.state)))

/-- A start goes on with its address.  A limit that is too great to make permits for ends the call
where it stands. -/
def bind (s : Service) (i : Nat) (result : Except IoFault Socket) : Service :=
  match result with
  | .error e =>
    { s with lifecycle := { s.lifecycle with state := .stopped } }.setCall i
      (.started (.error (.bind e)))
  | .ok address =>
    if s.limit.any (permitLimit < ·) then s.setCall i .crashed
    else
      let loop := s.loops.length
      let made : Loop := { limit := s.limit }
      { s with
        lifecycle := ⟨.running, some address, some loop, some loop⟩
        loops := s.loops ++ [made] }.setCall i (.started (.ok address))

/-- Whether a loop has exited. -/
def hasExited (s : Service) : Option Nat → Bool
  | none => true
  | some i => (s.loops[i]?).any fun l => l.phase == .exited

/-- A stop goes on behind the exit of its loop. -/
def join (s : Service) (i : Nat) (drains : Bool) : Service :=
  { s with lifecycle := { s.lifecycle with state := .stopped, address := none } }.setCall i
    (if drains then .draining else .stopped (.ok ()))

/-- A loop goes on.  When it accepts a connection, there is one more. -/
def advanceLoop (s : Service) (i : Nat) (e : LoopEvent) : Option Service := do
  let l ← s.loops[i]?
  let l ← l.step e
  let s := { s with loops := s.loops.set i l }
  return if e = .accepted then { s with tasks := s.tasks ++ [{ loop := i }] } else s

/-- A connection goes on: it is tracked and finds the executor that is installed, or it has been
attended and gives its permit back. -/
def advanceTask (s : Service) (i : Nat) : Option Service := do
  let t ← s.tasks[i]?
  match t.phase with
  | .accepted =>
    let (id, tracker) := s.tracker.track
    let t := { t with phase := .attended id, executor := s.executor }
    return { s with tracker, tasks := s.tasks.set i t }
  | .attended _ => none
  | .attendedTo attendance =>
    return { s with
      loops := s.loops.modify t.loop Loop.release
      tasks := s.tasks.set i { t with phase := .finished attendance } }
  | .finished _ => none

/-- A connection has been attended, and is tracked no more. -/
def concludeTask (s : Service) (i : Nat) (attendance : Attendance) : Option Service := do
  let t ← s.tasks[i]?
  match t.phase with
  | .attended id =>
    return { s with
      tracker := s.tracker.release id
      tasks := s.tasks.set i { t with phase := .attendedTo attendance } }
  | _ => none

/-- The service after a step, if the step can be taken. -/
def step (s : Service) : Action → Option Service
  | .start => some s.start
  | .stop drains => some (s.stop drains)
  | .bound i result =>
    match s.calls[i]? with
    | some .binding => some (s.bind i result)
    | _ => none
  | .joined i =>
    match s.calls[i]? with
    | some (.joining loop drains) => if s.hasExited loop then some (s.join i drains) else none
    | _ => none
  | .polled i =>
    match s.calls[i]? with
    | some .draining =>
      some (if s.tracker.isIdle then s.setCall i (.stopped (.ok ())) else s)
    | _ => none
  | .expired i =>
    match s.calls[i]? with
    | some .draining => some (s.setCall i (.stopped (.error (.stillOpen s.active))))
    | _ => none
  | .loop i e => s.advanceLoop i e
  | .task i => s.advanceTask i
  | .attended i attendance => s.concludeTask i attendance
  | .install executor => some { s with executor }

/-- The service after some steps, if they can be taken one after the other. -/
def run (s : Service) (actions : List Action) : Option Service := actions.foldlM step s

/-- A listener on which nothing has been started. -/
def fresh (limit : Option Nat) : Service := { limit }

/-- The states that a listener can come to. -/
inductive Reachable (limit : Option Nat) : Service → Prop where
  | fresh : Reachable limit (fresh limit)
  | step {s t : Service} {a : Action} : Reachable limit s → s.step a = some t → Reachable limit t

end Service

end Wiretap.Listener
