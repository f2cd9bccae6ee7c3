import Wiretap.Session.Effort
import Wiretap.Transport.Traffic

/-!
# Performing a dialogue

A dialogue is performed over streams: one move after the other, the proxy goes on, a deadline passes,
somebody else answers a question, or the peers act on their ends of the streams.  Nothing is said of
when a move is made, so what holds of every run of moves holds of every timing.

A peer may do anything to its end of a stream that does not change what travels over it in all.  A
tunnel goes on by attempts of its two directions, in any order.
-/

namespace Wiretap.Session

set_option autoImplicit false

open Observer (Direction)
open Transport (Attempt ByteStream traffic)

/-- A question with its answer. -/
structure Answered where
  question : Question
  answer : question.Answer

namespace Answered

/-- The answer, if it is one to the question. -/
def to? (x : Answered) (q : Question) : Option q.Answer :=
  if same : x.question = q then some (same ▸ x.answer) else none

/-- Whether the answer is for others to give.  That a host of a tunnel has been connected to is not
just said: it comes with a stream. -/
def isForeign : Answered → Bool
  | ⟨.dial _, .got ()⟩ => false
  | ⟨.dial _, _⟩ => true
  | ⟨.exchange _, _⟩ => true
  | ⟨.responseBody, _⟩ => true
  | ⟨.freshKey, _⟩ => true
  | ⟨.upgrade _, _⟩ => true
  | ⟨.relay _, _⟩ => true
  | ⟨.elapsed, _⟩ => true
  | _ => false

end Answered

/-- Where a performance stands. -/
structure Standing (σ τ α : Type) where
  post : Post σ τ
  /-- What is left of the dialogue. -/
  rest : Dialogue α
  /-- How far the answer has come that the proxy waits for. -/
  effort : Option Effort := none
  /-- The questions that have been answered, the last one first. -/
  past : List Answered := []
  /-- What observers have been told, the last note first. -/
  told : List Note := []

/-- One move of a performance. -/
inductive Move (σ τ : Type) where
  /-- The proxy goes on, with another attempt if it waits for an answer. -/
  | go
  /-- A deadline passes. -/
  | expire
  /-- Somebody else answers. -/
  | answer (x : Answered)
  /-- The far side of a tunnel is there: the host is connected to, or a relay begins. -/
  | connect (t : τ)
  /-- The client has acted on its end of its stream, which is now this one. -/
  | client (s : σ)
  /-- The far side has acted on its end of its stream, which is now this one. -/
  | farSide (t : τ)
  /-- A direction of a tunnel attempts to read. -/
  | pull (d : Direction) (n : Nat)
  /-- A direction of a tunnel attempts to write. -/
  | push (d : Direction)

namespace Standing

variable {σ τ α : Type}

/-- The performance before the first move. -/
def start (bufferSize : Nat) (stream : σ) (dialogue : Dialogue α) : Standing σ τ α :=
  { post := .fresh bufferSize stream, rest := dialogue }

/-- The effort for the question that the proxy waits for. -/
def effortFor (s : Standing σ τ α) (q : Question) : Effort := s.effort.getD (.start 0 q)

/-- The dialogue goes on with an answer. -/
def settle (s : Standing σ τ α) (q : Question) (next : q.Answer → Dialogue α) (post : Post σ τ)
    (a : q.Answer) : Standing σ τ α :=
  { s with post, rest := next a, effort := none, past := ⟨q, a⟩ :: s.past }

/-- An attempt has been made, and may have given the answer. -/
def attempted (s : Standing σ τ α) (q : Question) (next : q.Answer → Dialogue α)
    (x : Effort.Outcome σ τ q.Answer) : Standing σ τ α :=
  match x.answer with
  | some a => s.settle q next x.post a
  | none => { s with post := x.post, effort := some x.effort }

/-- An attempt of a direction of a tunnel has been made.  If it fails, a tunnel to a host is over; a
relay finds out for itself. -/
def moved (s : Standing σ τ α) (e : Effort) :
    Attempt Effort × Post σ τ → Standing σ τ α
  | (.done e, post) => { s with post, effort := some e }
  | (.blocked, post) => { s with post, effort := some e }
  | (.failed x, post) =>
    match s.rest with
    | .ask .carry next => s.settle .carry next post (e.carried (some x))
    | _ => { s with post, effort := some e }

/-- The effort of the tunnel that the proxy carries, if it carries one. -/
def tunnel? (s : Standing σ τ α) : Option Effort :=
  match s.rest with
  | .ask .carry _ => some (s.effortFor .carry)
  | .ask (.relay ahead) _ => some (s.effortFor (.relay ahead))
  | _ => none

variable [ByteStream σ] [ByteStream τ]

/-- The far side of a tunnel is there, over a fresh stream. -/
def connect (s : Standing σ τ α) (t : τ) : Option (Standing σ τ α) :=
  if s.post.far.isNone && (traffic t).isFresh then
    let post := { s.post with far := some t }
    match s.rest with
    | .ask (.dial target) next => some (s.settle (.dial target) next post (.got ()))
    | .ask (.relay _) _ => some { s with post }
    | _ => none
  else none

/-- Makes a move, if it can be made. -/
def step (s : Standing σ τ α) : Move σ τ → Option (Standing σ τ α)
  | .go =>
    match s.rest with
    | .finish _ => none
    | .tell n rest => some { s with rest, effort := none, told := n :: s.told }
    | .ask q next => some (s.attempted q next ((s.effortFor q).attempt s.post q))
  | .expire =>
    match s.rest with
    | .ask q next => q.late?.map (s.settle q next s.post)
    | _ => none
  | .answer x =>
    match s.rest with
    | .ask q next => if x.isForeign then (x.to? q).map (s.settle q next s.post) else none
    | _ => none
  | .connect t => s.connect t
  | .client stream =>
    match s.post.stream? with
    | some old =>
      if (traffic old).Rests (traffic stream) then
        some { s with post := s.post.onStream fun _ => stream }
      else none
    | none => none
  | .farSide stream =>
    match s.post.far with
    | some old =>
      if (traffic old).Rests (traffic stream) then
        some { s with post := { s.post with far := some stream } }
      else none
    | none => none
  | .pull d n => s.tunnel?.map fun e => s.moved e (e.pull d (n + 1) s.post)
  | .push d => s.tunnel?.map fun e => s.moved e (e.push d s.post)

/-- Makes moves one after the other, if they can be made. -/
def run (s : Standing σ τ α) : List (Move σ τ) → Option (Standing σ τ α)
  | [] => some s
  | m :: rest => (s.step m).bind fun s => s.run rest

end Standing

end Wiretap.Session
