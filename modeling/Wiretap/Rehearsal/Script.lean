import Wiretap.Rehearsal.Scene
import Wiretap.WebSocket.Frame

/-!
# Rehearsing a session

A script says what the client does, one step after the other.  A step that cannot be completed lets
the proxy go on; when the proxy cannot go on either, time passes until a deadline of the proxy or
the end of the step's patience.  The proxy does nothing while a step is completed at once, so a
client that sends and goes away is gone before the proxy looks at what it sent.

Behind the script the client reads until the proxy's dialogue has ended.
-/

namespace Wiretap.Rehearsal

set_option autoImplicit false

open Session (Dialogue Outcome Record)
open Transport (Duplex writeAll)
open WebSocket (Frame)

/-! ## Scripts -/

/-- One step of a script. -/
inductive ScriptStep where
  | send (data : Bytes)
  /-- To receive so many bytes, or fewer at the end of the stream. -/
  | receive (n : Nat)
  /-- To receive up to and with the next empty line, or up to the end of the stream. -/
  | receiveHead
  /-- To receive everything up to the end of the stream. -/
  | receiveRest
  /-- To receive a frame. -/
  | receiveFrame
  /-- To send nothing more. -/
  | finish
  /-- To go away. -/
  | leave
  /-- To let time pass. -/
  | pause (millis : Nat)
  /-- To wait for the proxy to reach a host, which it never does. -/
  | awaitHost
  /-- Something that the host would do if it had been reached. -/
  | asHost
  deriving DecidableEq, Repr

/-- What a step gives. -/
inductive StepResult where
  | done
  | failed
  | absent
  | timeout
  | bytes (b : Bytes)
  | frame (f : Frame.Taken)
  /-- The stream ended before a whole frame. -/
  | noFrame
  deriving DecidableEq, Repr

/-- How long a step waits, in milliseconds. -/
def stepPatience : Nat := 3000

/-! ## The stage -/

/-- Everything that changes in the course of a rehearsal. -/
structure Stage (α : Type) where
  now : Nat := 0
  scene : Scene α
  /-- What the client is about to send. -/
  sending : Bytes := []
  /-- What the client has taken from the stream and not yet used. -/
  received : Bytes := []
  /-- Whether the client is still there. -/
  present : Bool := true

namespace Stage

variable {α : Type}

/-- The stage on which the proxy is about to go through a dialogue over a pipe that buffers so many
bytes each way. -/
def start (cast : Cast) (capacity : Nat) (dialogue : Dialogue α) : Stage α :=
  { scene := { post := .fresh cast.settings.bufferSize (.fresh capacity), rest := dialogue } }

/-- The proxy goes on as far as possible. -/
def advance (cast : Cast) (s : Stage α) : Stage α :=
  { s with scene := s.scene.advance cast s.now }

/-- The client acts on its end of the stream. -/
def asClient (s : Stage α) (f : Duplex → Duplex) : Stage α :=
  { s with scene := { s.scene with post := s.scene.post.onStream fun d => (f d.flip).flip } }

/-- The client's end of the stream.  Where there is no stream any more it has ended. -/
def clientEnd (s : Stage α) : Duplex := ((s.scene.post.stream?).getD (Duplex.fresh 0).drop).flip

/-- Whether nothing more will arrive at the client. -/
def hasEnded (s : Stage α) : Bool := s.clientEnd.incoming.closed && s.clientEnd.incoming.held.isEmpty

/-- Whether something has arrived that the client has not taken. -/
def hasArrived (s : Stage α) : Bool := !s.clientEnd.incoming.held.isEmpty

/-- The client takes what has arrived. -/
def take (s : Stage α) : Stage α :=
  let arrived := s.clientEnd.incoming.held
  { s.asClient fun d => { d with incoming := { d.incoming with held := [] } } with
    received := s.received ++ arrived }

/-! ## Waiting -/

/-- What one attempt of the client comes to. -/
inductive Move where
  | done (r : StepResult)
  /-- Bytes were moved, so the proxy may be able to go on. -/
  | moved
  | stuck

/-- Whether a moment comes before the end of a patience. -/
def comesFirst (t : Nat) : (patienceEnd : Option Nat) → Bool
  | none => true
  | some e => t < e

/-- Attempts something until it is done or its patience ends, which gives `late`.  Every round moves
a byte or lets a deadline pass. -/
def wait (cast : Cast) (patienceEnd : Option Nat) (late : StepResult)
    (attempt : Stage α → Move × Stage α) : (fuel : Nat) → Stage α → StepResult × Stage α
  | 0, s => (late, s)
  | fuel + 1, s =>
    match attempt s with
    | (.done r, s) => (r, s)
    | (.moved, s) => wait cast patienceEnd late attempt fuel (s.advance cast)
    | (.stuck, s) =>
      match attempt (s.advance cast) with
      | (.done r, s) => (r, s)
      | (.moved, s) => wait cast patienceEnd late attempt fuel (s.advance cast)
      | (.stuck, s) =>
        let giveUp := (late, { s with now := patienceEnd.getD s.now })
        match s.scene.deadline? cast with
        | none => giveUp
        | some t =>
          if comesFirst t patienceEnd then
            wait cast patienceEnd late attempt fuel ({ s with now := t }.advance cast)
          else giveUp

/-- How many rounds a step takes at most: one for each byte sent, one for each byte of a reply of
the proxy's own, and one for each deadline. -/
def rounds (s : Stage α) : Nat := s.sending.length + 65536

/-- Attempts something for as long as a step waits. -/
def patiently (cast : Cast) (millis : Nat) (late : StepResult) (attempt : Stage α → Move × Stage α)
    (s : Stage α) : StepResult × Stage α :=
  wait cast (some (s.now + millis)) late attempt s.rounds s

/-! ## Steps -/

/-- One attempt to send. -/
def trySend (s : Stage α) : Move × Stage α :=
  let pipe := s.clientEnd.outgoing
  let w := writeAll s.sending s.clientEnd
  let after := { s.asClient fun _ => w.sink with sending := w.rest }
  match w.outcome with
  | .done () => (.done .done, after)
  | .failed _ => (.done .failed, after)
  | .blocked => (if pipe.held.length < pipe.capacity then .moved else .stuck, after)

/-- One attempt to receive.  The condition says what is received from the bytes that have arrived,
and what is left of them, if enough have; it is told whether the stream has ended. -/
def tryReceive (enough : (ended : Bool) → Bytes → Option (StepResult × Bytes)) (s : Stage α) :
    Move × Stage α :=
  let t := s.take
  match enough t.hasEnded t.received with
  | some (r, received) => (.done r, { t with received })
  | none => (if s.hasArrived then .moved else .stuck, t)

/-- The length of a head with its empty line, if it is there as a whole. -/
def headLength? : (before : Nat) → Bytes → Option Nat
  | _, [] => none
  | before, b :: rest =>
    if (Bytes.crlf ++ Bytes.crlf).isPrefixOf (b :: rest) then some (before + 4)
    else headLength? (before + 1) rest

/-- So many bytes, or fewer at the end. -/
def enoughBytes (n : Nat) (ended : Bool) (b : Bytes) : Option (StepResult × Bytes) :=
  if n ≤ b.length || ended then some (.bytes (b.take n), b.drop n) else none

/-- Everything up to and with the next empty line, or everything at the end. -/
def enoughHead (ended : Bool) (b : Bytes) : Option (StepResult × Bytes) :=
  match headLength? 0 b with
  | some n => some (.bytes (b.take n), b.drop n)
  | none => if ended then some (.bytes b, []) else none

/-- Everything, at the end. -/
def enoughRest (ended : Bool) (b : Bytes) : Option (StepResult × Bytes) :=
  if ended then some (.bytes b, []) else none

/-- A whole frame.  At the end the bytes that are no frame are left. -/
def enoughFrame (ended : Bool) (b : Bytes) : Option (StepResult × Bytes) :=
  match Frame.take? b with
  | some f => some (.frame f, f.rest)
  | none => if ended then some (.noFrame, b) else none

/-- Does what only a client that is there can do. -/
def ifPresent (s : Stage α) (f : Stage α → StepResult × Stage α) : StepResult × Stage α :=
  if s.present then f s else (.absent, s)

/-- Receives for as long as a step waits. -/
def receive (cast : Cast) (enough : Bool → Bytes → Option (StepResult × Bytes)) (s : Stage α) :
    StepResult × Stage α :=
  s.ifPresent (patiently cast stepPatience .timeout (tryReceive enough))

/-- Performs a step. -/
def perform (cast : Cast) (s : Stage α) : ScriptStep → StepResult × Stage α
  | .send data => s.ifPresent fun s =>
    let (r, s) := patiently cast stepPatience .timeout trySend { s with sending := data }
    (r, { s with sending := [] })
  | .receive n => s.receive cast (enoughBytes n)
  | .receiveHead => s.receive cast enoughHead
  | .receiveRest => s.receive cast enoughRest
  | .receiveFrame => s.receive cast enoughFrame
  | .finish => s.ifPresent fun s =>
    (.done, s.asClient fun d => { d with outgoing := d.outgoing.close })
  | .leave => s.ifPresent fun s => (.done, { s.asClient Duplex.drop with present := false })
  | .pause millis => patiently cast millis .done (fun s => (.stuck, s)) s
  | .awaitHost => patiently cast stepPatience .timeout (fun s => (.stuck, s)) s
  | .asHost => (.absent, s)

/-- Performs a script. -/
def performAll (cast : Cast) (s : Stage α) : List ScriptStep → List StepResult × Stage α
  | [] => ([], s)
  | step :: rest =>
    let (r, s) := s.perform cast step
    let (more, s) := s.performAll cast rest
    (r :: more, s)

/-- One attempt to see the end of the dialogue, taking whatever arrives. -/
def tryEnd (s : Stage α) : Move × Stage α :=
  let t := if s.present then s.take else s
  (if t.scene.result?.isSome then .done .done
    else if s.present && s.hasArrived then .moved
    else .stuck, t)

/-- The client reads until the dialogue has ended. -/
def drain (cast : Cast) (s : Stage α) : Stage α := (wait cast none .done tryEnd s.rounds s).2

end Stage

/-! ## Whole rehearsals -/

/-- What a rehearsal shows. -/
structure Rehearsed (α : Type) where
  steps : List StepResult
  result : α
  /-- Whether the connection still had its stream when it was closed. -/
  wasOpen : Bool
  /-- What the client received and did not use, if it was still there. -/
  unread : Option Bytes
  record : Record

/-- Rehearses a dialogue over a pipe that buffers so many bytes each way. -/
def rehearse {α : Type} (cast : Cast) (capacity : Nat) (dialogue : Dialogue α)
    (script : List ScriptStep) : Option (Rehearsed α) :=
  let (steps, s) := (Stage.start cast capacity dialogue).performAll cast script
  let s := s.drain cast
  s.scene.result?.map fun result => {
    steps, result
    wasOpen := s.scene.post.leaving.isSome
    unread := if s.present then some s.received else none
    record := s.scene.record }

/-- The dialogue of serving a connection and closing it. -/
def served (cast : Cast) : Dialogue (Outcome × Except IoFault Unit) := do
  let outcome ← Session.dispatch ⟨cast.settings, cast.peer⟩
  let closed ← Dialogue.question .close
  return (outcome, closed)

end Wiretap.Rehearsal
