import Wiretap.Rehearsal.Attempt
import Wiretap.Session.Dispatch
import Wiretap.Session.Record

/-!
# The proxy's side of a rehearsal

The proxy goes through its dialogue at its end of the stream.  At any moment it goes on as far as it
can; where it stops it waits for the client, or for a deadline to pass.
-/

namespace Wiretap.Rehearsal

set_option autoImplicit false

open Observer (Executor Peer)
open Session (Dialogue Effort Question Record)
open Settings (Effective)

/-- What does not change in the course of a rehearsal. -/
structure Cast where
  settings : Effective
  peer : Peer
  executor : Option Executor := none

/-- Where the proxy stands. -/
structure Scene (α : Type) where
  post : Post
  /-- What is left of the dialogue. -/
  rest : Dialogue α
  /-- How far the answer has come that the proxy waits for. -/
  effort : Option Effort := none
  record : Record := {}

namespace Scene

variable {α : Type}

/-- Goes on until an answer is missing whose deadline has not passed. -/
def play (cast : Cast) (now : Nat) :
    Dialogue α → Option Effort → Post → Record → Scene α
  | .finish a, _, post, record => { post, rest := .finish a, record }
  | .tell n rest, _, post, record =>
    play cast now rest none post (record.note cast.executor cast.peer n)
  | .ask q next, e, post, record =>
    let x := attempt (e.getD (.start now q)) post q
    let waiting : Scene α := { post := x.post, rest := .ask q next, effort := some x.effort, record }
    match x.answer, q.late? with
    | some a, _ => play cast now (next a) none x.post record
    | none, none => waiting
    | none, some late =>
      if x.effort.since + q.patience cast.settings ≤ now then
        play cast now (next late) none x.post record
      else waiting

/-- Goes on as far as possible. -/
def advance (cast : Cast) (now : Nat) (s : Scene α) : Scene α :=
  play cast now s.rest s.effort s.post s.record

/-- When the deadline of what the proxy waits for passes. -/
def deadline? (cast : Cast) (s : Scene α) : Option Nat :=
  match s.rest, s.effort with
  | .ask q _, some e => q.late?.map fun _ => e.since + q.patience cast.settings
  | _, _ => none

/-- What the dialogue ended with, if it has ended. -/
def result? (s : Scene α) : Option α :=
  match s.rest with
  | .finish a => some a
  | _ => none

end Scene

end Wiretap.Rehearsal
