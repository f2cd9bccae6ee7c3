import Wiretap.Listener.Drain
import Wiretap.Rehearsal.Isolation
import Wiretap.Settings.Effective

/-!
# Rehearsing a listener

A script starts and stops a listener and tries to connect to it.  In a rehearsal no host can be
reached (`Isolation`), and the listener cannot be reached either.  No connection is ever accepted, so
that a stop finds none open when it looks for the first time, and it is in vain to wait for one that
is attended.
-/

namespace Wiretap.Rehearsal

set_option autoImplicit false

open Listener (Action Failure Service)
open Settings (Effective)

/-- One step of a script. -/
inductive ReceptionStep where
  | start
  | stop
  /-- To stop and wait for the connections to finish, for so many milliseconds at most. -/
  | stopWithin (millis : Nat)
  /-- To connect to the address that was bound last. -/
  | connect
  /-- To close what was connected. -/
  | leave
  | active
  /-- To wait until so many connections are attended. -/
  | awaitActive (count : Nat)
  | pause (millis : Nat)
  deriving Repr

/-- What a step gives. -/
inductive Received where
  | done
  | absent
  | unreached (e : IoFault)
  | timeout
  | started (address : Address.Socket)
  | failed (failure : Failure)
  | crashed
  | count (n : Nat)
  deriving Repr

namespace Reception

/-- The address that the listener gets. -/
def address : Address.Socket := { ip := .v4 0x7f000001, port := 40000 }

/-- Takes a step, if it can be taken. -/
def act (s : Service) (a : Action) : Service := (s.step a).getD s

/-- What a call has come to. -/
def returned (s : Service) (call : Nat) : Received :=
  match s.calls[call]? with
  | some (.started (.ok address)) => .started address
  | some (.started (.error e)) => .failed e
  | some (.stopped (.ok ())) => .done
  | some (.stopped (.error e)) => .failed e
  | _ => .crashed

/-- Stops the listener.  Its loop hears of it at once, wherever it waits, and nothing goes on while
the stop waits for the connections. -/
def stop (s : Service) (deadline : Option Nat) : Received × Service :=
  let call := s.calls.length
  let loop := s.lifecycle.loop.getD 0
  let s := act (act s (.stop deadline.isSome)) (.loop loop .acquired)
  let s := act (act s (.loop loop .stopped)) (.joined call)
  let s := match s.calls[call]?, deadline with
    | some .draining, some millis =>
      (Service.wait (fun _ => s) call (Listener.Drain.looks millis) millis).getD s
    | _, _ => s
  (returned s call, s)

def play (s : Service) : ReceptionStep → Received × Service
  | .start =>
    let call := s.calls.length
    let s := act (act s .start) (.bound call (.ok address))
    (returned s call, s)
  | .stop => stop s none
  | .stopWithin millis => stop s (some millis)
  | .connect => (.unreached Isolation.unreachable, s)
  | .leave => (.absent, s)
  | .active => (.count s.active, s)
  | .awaitActive count => (if s.active = count then .done else .timeout, s)
  | .pause _ => (.done, s)

/-- Plays a script; every answer comes with the lifecycle behind the step. -/
def playAll (settings : Effective) (script : List ReceptionStep) :
    List (Received × Listener.Lifecycle) :=
  let (answers, _) := script.foldl (fun (answers, s) step =>
    let (answer, s) := play s step
    ((answer, s.lifecycle) :: answers, s)) ([], .fresh settings.maxConnections)
  answers.reverse

end Reception

end Wiretap.Rehearsal
