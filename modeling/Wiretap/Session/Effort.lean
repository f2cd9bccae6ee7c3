import Wiretap.Message.HeadStream
import Wiretap.Message.Takeover
import Wiretap.Session.Dialogue
import Wiretap.Session.Post
import Wiretap.Settings.Effective
import Wiretap.Transport.Copy

/-!
# Answering questions

The questions of a dialogue about the client's stream and about an open tunnel are answered from the
streams at the post.  An answer may take several attempts; an effort remembers what the attempts
before have moved, so that the next one goes on where the last one stopped.  Any other question is
answered by somebody else.

A connection that is closed gives up its stream, but what was written is still to be passed on, so
the stream stays at the post until that is done.
-/

namespace Wiretap.Session

set_option autoImplicit false

open Message (HeadReader)
open Observer (Direction)
open Settings (Effective)
open Transport (Attempt BufferedSink BufferedSource ByteSink ByteSource Copy collect writeAll)

/-- How far the answer to a question has come. -/
structure Effort where
  /-- When the question was asked. -/
  since : Nat := 0
  reader : HeadReader := {}
  /-- What was read towards a fixed number of bytes, in pieces, the last piece first. -/
  pieces : List Bytes := []
  /-- How many bytes are still to be read. -/
  missing : Nat := 0
  /-- What is still to be written. -/
  rest : Bytes := []
  /-- Whether the connection has given up its stream in an attempt before. -/
  begun : Bool := false
  /-- The direction of a tunnel that takes from the client. -/
  outbound : Copy := {}
  /-- The direction of a tunnel that gives to the client. -/
  inbound : Copy := {}

namespace Effort

/-- The effort before the first attempt. -/
def start (now : Nat) : Question → Effort
  | .greeting => { since := now, missing := 2 }
  | .body n => { since := now, missing := n }
  | .reply b => { since := now, rest := b }
  | .refusal b => { since := now, rest := b }
  | .rawReply b => { since := now, rest := b }
  | .sendAhead b => { since := now, rest := b }
  | .relay ahead => { since := now, outbound := { held := ahead } }
  | _ => { since := now }

/-- The bytes read so far. -/
def bytes (e : Effort) : Bytes := e.pieces.reverse.flatten

/-- What one attempt comes to: the answer, if there is one yet. -/
structure Outcome (σ τ α : Type) where
  answer : Option α
  effort : Effort
  post : Post σ τ

variable {σ τ : Type}

/-! ## Reading -/

section

variable [ByteSource σ]

/-- One attempt to read through the buffer. -/
def reading {α : Type} (e : Effort) (p : Post σ τ)
    (f : BufferedSource σ → (Attempt α × Effort) × BufferedSource σ) :
    Outcome σ τ (Reading α) :=
  let (r, connection) := p.connection.reading f
  let p := { p with connection }
  match r with
  | .ok (.done a, e) => ⟨some (.got a), e, p⟩
  | .ok (.failed x, e) => ⟨some (.failed x), e, p⟩
  | .ok (.blocked, e) => ⟨none, e, p⟩
  | .error x => ⟨some (.failed x), e, p⟩

/-- One attempt to collect what is missing. -/
def collecting (e : Effort) (s : BufferedSource σ) :
    (Attempt Bytes × Effort) × BufferedSource σ :=
  let x := collect e.pieces e.missing s
  let e := { e with pieces := x.pieces, missing := x.missing }
  ((x.outcome.map fun () => e.bytes, e), x.source)

/-- One attempt to collect a greeting: two bytes, and as many methods as the second says. -/
def greeting (e : Effort) (s : BufferedSource σ) :
    (Attempt Bytes × Effort) × BufferedSource σ :=
  match e.collecting s with
  | ((.done [_, count], e), s) =>
    let ((r, e), s) := { e with missing := count.toNat }.collecting s
    ((r.map (·.drop 2), e), s)
  | ((r, e), s) => ((r.map (·.drop 2), e), s)

/-- One attempt to see the first byte. -/
def firstByte (e : Effort) (s : BufferedSource σ) :
    (Attempt (Option UInt8) × Effort) × BufferedSource σ :=
  let (r, s) := s.fill
  ((r.map fun () => s.held.head?, e), s)

/-- One attempt to read a head. -/
def head (e : Effort) (s : BufferedSource σ) :
    (Attempt Message.HeadEnd × Effort) × BufferedSource σ :=
  let x := Message.readHead e.reader s
  ((x.outcome, { e with reader := x.reader }), x.source)

end

/-! ## Writing -/

section

variable [ByteSink σ]

/-- What an attempt to write comes to. -/
def written (e : Effort) (p : Post σ τ) : Attempt Unit → Outcome σ τ (Except IoFault Unit)
  | .done () => ⟨some (.ok ()), e, p⟩
  | .failed x => ⟨some (.error x), e, p⟩
  | .blocked => ⟨none, e, p⟩

/-- One attempt to write the rest through the buffer and to flush it. -/
def writing (e : Effort) (p : Post σ τ) : Outcome σ τ (Except IoFault Unit) :=
  let (r, connection) := p.connection.writing fun s =>
    let x := Message.respondFrom e.rest s
    ((x.outcome, x.rest), x.sink)
  let p := { p with connection }
  match r with
  | .ok (outcome, rest) => written { e with rest } p outcome
  | .error x => ⟨some (.error x), e, p⟩

/-- One attempt to write the rest to the raw stream and to flush it. -/
def rawWriting (e : Effort) (p : Post σ τ) : Outcome σ τ (Except IoFault Unit) :=
  match p.raw with
  | none => ⟨some (.error IoFault.notAttached), e, p⟩
  | some s =>
    let x := Message.respondFrom e.rest s
    written { e with rest := x.rest } { p with raw := some x.sink } x.outcome

/-- The same under a deadline. -/
def timely (x : Outcome σ τ (Except IoFault Unit)) : Outcome σ τ (Reading Unit) :=
  ⟨x.answer.map fun
    | .ok () => .got ()
    | .error f => .failed f, x.effort, x.post⟩

/-! ## Handing over and closing -/

/-- One attempt to hand the stream over.  The connection keeps it until everything written has been
passed on. -/
def detaching (e : Effort) (p : Post σ τ) : Outcome σ τ (Except IoFault Bytes) :=
  let h := p.connection.handOver
  match h.outcome with
  | .done (stream, ahead) =>
    ⟨some (.ok ahead), e, { p with connection := h.connection, raw := some stream }⟩
  | .failed x => ⟨some (.error x), e, { p with connection := h.connection }⟩
  | .blocked => ⟨none, e, { p with connection := (p.connection.writing BufferedSink.flush).2 }⟩

/-- What an attempt to close comes to. -/
def closed (e : Effort) (p : Post σ τ) : Attempt Unit → Outcome σ τ (Except IoFault Unit)
  | .done () => ⟨some (.ok ()), e, p⟩
  | .failed x => ⟨some (.error x), e, p⟩
  | .blocked => ⟨none, { e with begun := true }, p⟩

/-- One attempt to close the connection. -/
def closing (e : Effort) (p : Post σ τ) : Outcome σ τ (Except IoFault Unit) :=
  match e.begun, p.leaving with
  | true, some s =>
    let (r, s) := s.finish
    e.closed { p with leaving := some s } r
  | _, _ =>
    let x := p.connection.close
    e.closed { p with connection := x.connection, leaving := x.released } x.outcome

end

/-! ## Tunnels -/

/-- One attempt to send the rest to the far side. -/
def sendingAhead [ByteSink τ] (e : Effort) (p : Post σ τ) : Outcome σ τ (Except IoFault Unit) :=
  match p.far with
  | none => ⟨some (.error IoFault.notAttached), e, p⟩
  | some t =>
    let w := writeAll e.rest t
    written { e with rest := w.rest } { p with far := some w.sink } w.outcome

/-- What a tunnel has carried so far. -/
def carried (e : Effort) (fault : Option IoFault) : Carried :=
  ⟨e.outbound.moved, e.inbound.moved, fault⟩

/-- A tunnel is over when both directions have come to their end. -/
def carrying (e : Effort) (p : Post σ τ) : Outcome σ τ Carried :=
  match p.far with
  | none => ⟨some (e.carried (some IoFault.notAttached)), e, p⟩
  | some _ => ⟨if e.outbound.shut && e.inbound.shut then some (e.carried none) else none, e, p⟩

/-- One attempt of a direction of a tunnel to read at most `n` bytes. -/
def pull [ByteSource σ] [ByteSource τ] (d : Direction) (n : Nat) (e : Effort) (p : Post σ τ) :
    Attempt Effort × Post σ τ :=
  match d, p.raw, p.far with
  | .outbound, some s, some _ =>
    let (r, s) := e.outbound.pull n s
    (r.map fun outbound => { e with outbound }, { p with raw := some s })
  | .inbound, some _, some t =>
    let (r, t) := e.inbound.pull n t
    (r.map fun inbound => { e with inbound }, { p with far := some t })
  | _, _, _ => (.blocked, p)

/-- One attempt of a direction of a tunnel to write. -/
def push [ByteSink σ] [ByteSink τ] (d : Direction) (e : Effort) (p : Post σ τ) :
    Attempt Effort × Post σ τ :=
  match d, p.raw, p.far with
  | .outbound, some _, some t =>
    let (r, t) := e.outbound.push t
    (r.map fun outbound => { e with outbound }, { p with far := some t })
  | .inbound, some s, some _ =>
    let (r, s) := e.inbound.push s
    (r.map fun inbound => { e with inbound }, { p with raw := some s })
  | _, _, _ => (.blocked, p)

/-! ## All questions -/

/-- One attempt to answer a question. -/
def attempt [ByteSource σ] [ByteSink σ] [ByteSink τ] (e : Effort) (p : Post σ τ) :
    (q : Question) → Outcome σ τ q.Answer
  | .firstByte => e.reading p e.firstByte
  | .head => e.reading p e.head
  | .greeting => e.reading p e.greeting
  | .body _ => e.reading p e.collecting
  | .reply _ => timely (e.writing p)
  | .refusal _ => e.writing p
  | .detach => e.detaching p
  | .rawReply _ => timely (e.rawWriting p)
  | .sendAhead _ => e.sendingAhead p
  | .carry => e.carrying p
  | .close => e.closing p
  | .dial _ => ⟨none, e, p⟩
  | .exchange _ => ⟨none, e, p⟩
  | .responseBody => ⟨none, e, p⟩
  | .freshKey => ⟨none, e, p⟩
  | .upgrade _ => ⟨none, e, p⟩
  | .relay _ => ⟨none, e, p⟩
  | .elapsed => ⟨none, e, p⟩

end Effort

namespace Question

/-- What is answered when the deadline of a question about the client's stream passes. -/
def late? : (q : Question) → Option q.Answer
  | firstByte => some Reading.expired
  | head => some Reading.expired
  | greeting => some Reading.expired
  | body _ => some Reading.expired
  | reply _ => some Reading.expired
  | rawReply _ => some Reading.expired
  | _ => none

/-- How long such a question may stay unanswered, in milliseconds. -/
def patience (s : Effective) : Question → Nat
  | reply _ => s.writeTimeout.millis
  | rawReply _ => s.writeTimeout.millis
  | _ => s.readTimeout.millis

end Question

end Wiretap.Session
