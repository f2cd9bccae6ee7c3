import Wiretap.Observer.Handle
import Wiretap.Session.Ensemble
import Wiretap.Session.Record

/-!
# A connection with its observers

What a connection tells goes to the log, to the totals, and to an executor of hooks if there is one.
The executor is called in the course of the connection's own tasks, so a panic that got through would
end them.
-/

namespace Wiretap.Session

set_option autoImplicit false

open Observer (Ended Executor Peer)
open Transport (ByteStream)

namespace Record

/-- Takes a note, calling the executor through its handle. -/
def hear (executor : Option Executor) (peer : Peer) (r : Record) : Note → Ended Record
  | .log entry => .returned { r with logs := r.logs ++ [entry] }
  | .metric m => .returned { r with counted := r.counted ++ [m] }
  | .hook c =>
    match executor with
    | none => .returned r
    | some e =>
      let x := e.deliver r.history peer c
      match x.ended with
      | .returned () => .returned { r with
          history := Executor.remember r.history peer c
          logs := r.logs ++ x.logs }
      | .panicked => .panicked

/-- Takes some notes in order, as far as no panic gets through. -/
def hearAll (executor : Option Executor) (peer : Peer) (r : Record) : List Note → Ended Record
  | [] => .returned r
  | n :: more =>
    match r.hear executor peer n with
    | .returned r => r.hearAll executor peer more
    | .panicked => .panicked

end Record

/-- A connection with everything that observers have of it. -/
structure Hearing (σ τ : Type) where
  ensemble : Ensemble σ τ
  record : Record := {}
  /-- Whether a panic has got through to the tasks of the connection. -/
  lost : Bool := false

namespace Hearing

variable {σ τ : Type} [ByteStream σ] [ByteStream τ]

/-- What happens, if it can happen, under observation by an executor or none. -/
def step (executor : Option Executor) (c : Context) (h : Hearing σ τ) (cue : Cue σ τ) :
    Option (Hearing σ τ) :=
  if h.lost then none
  else (h.ensemble.step c cue).map fun ensemble =>
    let news := (ensemble.told.drop h.ensemble.told.length).map (·.2)
    match h.record.hearAll executor c.peer news with
    | .returned record => { h with ensemble, record }
    | .panicked => { h with lost := true }

/-- What happens one thing after the other, if it can happen. -/
def run (executor : Option Executor) (c : Context) (h : Hearing σ τ) (cues : List (Cue σ τ)) :
    Option (Hearing σ τ) :=
  cues.foldlM (step executor c) h

end Hearing

end Wiretap.Session
