import Wiretap.Connection.Basic
import Wiretap.Proofs.Transport.Sources

/-!
# The use of a stream

The owner of a connection reads and writes through its buffers, one operation after the other, until
the stream is handed over; then whoever has the stream reads and writes it directly.  An operation
may take many attempts, and in between the peer does what it likes (`Usage.step`).

Whatever the capacity of the buffers and however an operation is cut into attempts, an attempt takes
off what is to be read just what the operation adds to the bytes it has read (`Intake.attempt_took`),
and gives just what it adds to the bytes it has written (`Output.attempt_gave`).
-/

namespace Wiretap.Connection

set_option autoImplicit false

open Transport (Attempt BufferedSink BufferedSource ByteSink ByteSource ByteStream LawfulSink
  LawfulSource Traffic Travelled collect traffic writeAll)
open Transport.BufferedSource (Took lineFrom)

/-! ## Operations -/

/-- An operation that reads. -/
inductive Intake where
  /-- Makes the buffer hold something, and takes nothing of it. -/
  | fill
  /-- Reads at most so many bytes. -/
  | upTo (n : Nat)
  /-- Reads just so many bytes. -/
  | just (n : Nat)
  | line

namespace Intake

/-- How far an operation that reads has come. -/
structure Progress where
  /-- The bytes read so far, in pieces, the last piece first. -/
  pieces : List Bytes := []
  /-- How many bytes are still to be read, where that is known. -/
  missing : Nat := 0

/-- The bytes read so far. -/
def Progress.bytes (p : Progress) : Bytes := p.pieces.reverse.flatten

/-- Nothing has been read yet. -/
def start : Intake → Progress
  | just n => { missing := n }
  | _ => {}

/-- One attempt to go on with an operation that reads. -/
def attempt {σ : Type} [ByteSource σ] (p : Progress) (i : Intake) (s : BufferedSource σ) :
    (Attempt Unit × Progress) × BufferedSource σ :=
  match i with
  | fill =>
    let (r, s) := s.fill
    ((r, p), s)
  | upTo n =>
    match s.read n with
    | (.done piece, s) => ((.done (), { p with pieces := piece :: p.pieces }), s)
    | (.failed e, s) => ((.failed e, p), s)
    | (.blocked, s) => ((.blocked, p), s)
  | just _ =>
    let x := collect p.pieces p.missing s
    ((x.outcome, ⟨x.pieces, x.missing⟩), x.source)
  | line =>
    let x := lineFrom (ByteSource.ready s + 2) p.pieces s
    ((x.outcome, { p with pieces := x.pieces }), x.source)

@[simp] theorem bytes_start (i : Intake) : i.start.bytes = [] := by
  cases i <;> rfl

/-- **An attempt takes off what is to be read just what it adds to the bytes read so far.** -/
theorem attempt_took {σ : Type} [ByteSource σ] [Travelled σ] [LawfulSource σ] (p : Progress)
    (i : Intake) (s : BufferedSource σ) :
    ∃ piece, Took s (i.attempt p s).2 piece ∧ (i.attempt p s).1.2.bytes = p.bytes ++ piece := by
  cases i with
  | fill => exact ⟨[], s.fill_spec.1, (List.append_nil _).symm⟩
  | upTo n =>
    have reads := s.reads_read n
    rw [attempt]
    generalize s.read n = x at reads
    obtain ⟨r, after⟩ := x
    cases r with
    | done piece =>
      refine ⟨piece, reads.1, ?_⟩
      change (piece :: p.pieces).reverse.flatten = p.pieces.reverse.flatten ++ piece
      rw [List.reverse_cons, List.flatten_append, List.flatten_singleton]
    | failed e => exact ⟨[], reads, (List.append_nil _).symm⟩
    | blocked => exact ⟨[], reads, (List.append_nil _).symm⟩
  | just n =>
    obtain ⟨piece, took, bytes, _⟩ := BufferedSource.collectFrom_spec p.missing p.pieces p.missing s
    exact ⟨piece, took, bytes⟩
  | line => exact BufferedSource.lineFrom_spec _ p.pieces s

end Intake

/-- An operation that writes. -/
inductive Output where
  /-- Writes as many of the bytes as are taken at once. -/
  | part (data : Bytes)
  | all (data : Bytes)
  | flush

namespace Output

/-- What has to be written before the operation is complete. -/
def due : Output → Bytes
  | all data => data
  | _ => []

/-- One attempt to go on with an operation that writes, of which the rest is still due.  If it is
complete, it has written the bytes that it gives. -/
def attempt {σ : Type} [ByteSink σ] (rest : Bytes) (o : Output) (s : BufferedSink σ) :
    (Attempt Bytes × Bytes) × BufferedSink σ :=
  match o with
  | part data =>
    let (r, s) := s.write data
    ((r.map data.take, rest), s)
  | all data =>
    let w := writeAll rest s
    ((w.outcome.map fun _ => data, w.rest), w.sink)
  | flush =>
    let (r, s) := s.flush
    ((r.map fun _ => [], rest), s)

/-- What an attempt has written behind the bytes that were written before. -/
def Gave (o : Output) (sent more : Bytes) (r : Attempt Bytes) (rest : Bytes) : Prop :=
  match r with
  | .done written => written = sent ++ more
  | _ => o.due = sent ++ more ++ rest

/-- **An attempt gives just what it adds to the bytes written so far**, and the operation is
complete when all that is due has been given. -/
theorem attempt_gave {σ : Type} [ByteSink σ] [Travelled σ] [LawfulSink σ] {sent rest : Bytes}
    {o : Output} (due : o.due = sent ++ rest) (s : BufferedSink σ) :
    ∃ more, ((traffic s).write more).Rests (traffic (o.attempt rest s).2) ∧
      o.Gave sent more (o.attempt rest s).1.1 (o.attempt rest s).1.2 := by
  cases o with
  | part data =>
    obtain ⟨rfl, rfl⟩ := List.append_eq_nil_iff.mp due.symm
    have gives := s.write_gives data
    rw [attempt]
    generalize s.write data = x at gives
    obtain ⟨r, after⟩ := x
    cases r with
    | done n => exact ⟨data.take n, gives.2, rfl⟩
    | failed e => exact ⟨[], by rwa [Traffic.write_nil], rfl⟩
    | blocked => exact ⟨[], by rwa [Traffic.write_nil], rfl⟩
  | all data =>
    obtain ⟨more, split, given, done⟩ := Transport.writeAll_spec rest s
    refine ⟨more, given, ?_⟩
    rw [attempt]
    generalize writeAll rest s = w at split done
    obtain ⟨outcome, left, sink⟩ := w
    have whole : data = sent ++ more ++ left := by
      rw [List.append_assoc, ← split]
      exact due
    cases outcome with
    | done =>
      obtain rfl : left = [] := done rfl
      exact whole.trans (List.append_nil _)
    | failed e => exact whole
    | blocked => exact whole
  | flush =>
    obtain ⟨rfl, rfl⟩ := List.append_eq_nil_iff.mp due.symm
    have rests := s.flush_spec.1
    rw [attempt]
    generalize s.flush = x at rests
    obtain ⟨r, after⟩ := x
    refine ⟨[], by rwa [Traffic.write_nil], ?_⟩
    cases r <;> rfl

end Output

/-! ## The use of a stream -/

/-- What the owner of a connection is at. -/
inductive Activity where
  | idle
  | reading (i : Intake) (p : Intake.Progress)
  | writing (o : Output) (rest : Bytes)
  | handingOver

/-- A stream that has been handed over. -/
structure Raw (σ : Type) where
  stream : σ
  /-- What was read ahead, given away with the stream. -/
  ahead : Bytes
  /-- What has been read directly. -/
  took : Bytes := []
  /-- Whether that was all there is to read. -/
  ended : Bool := false
  /-- What has been written directly. -/
  wrote : Bytes := []
  /-- Whether all that has been written was flushed. -/
  flushed : Bool := true

/-- Where a stream is. -/
inductive Place (σ : Type) where
  | attached (c : Connection σ) (a : Activity)
  | raw (r : Raw σ)

/-- What the use of a stream has come to. -/
structure Usage (σ : Type) where
  /-- What the operations that are complete have read. -/
  read : Bytes := []
  /-- What the operations that are complete have written. -/
  written : Bytes := []
  place : Place σ

/-- One thing that the owner or the peer does. -/
inductive Act (σ : Type) where
  | read (i : Intake)
  | write (o : Output)
  | handOver
  /-- One more attempt at the operation under way. -/
  | goOn
  /-- The peer reads or writes at its end. -/
  | peer (f : σ → σ)
  | rawRead (n : Nat)
  | rawWrite (data : Bytes)
  | rawFlush

variable {σ : Type} [ByteStream σ]

namespace Raw

/-- One attempt to read at most `n` bytes. -/
def read (n : Nat) (r : Raw σ) : Raw σ :=
  match ByteSource.read n r.stream with
  | (.done piece, stream) =>
    { r with stream, took := r.took ++ piece, ended := r.ended || (0 < n && piece.isEmpty) }
  | (_, stream) => { r with stream }

/-- One attempt to write. -/
def write (data : Bytes) (r : Raw σ) : Raw σ :=
  match ByteSink.write data r.stream with
  | (.done n, stream) => { r with stream, wrote := r.wrote ++ data.take n, flushed := false }
  | (_, stream) => { r with stream }

/-- One attempt to flush. -/
def flush (r : Raw σ) : Raw σ :=
  match ByteSink.flush r.stream with
  | (.done (), stream) => { r with stream, flushed := true }
  | (_, stream) => { r with stream }

/-- What an act comes to once the stream has been handed over. -/
def step (r : Raw σ) : Act σ → Option (Raw σ)
  | .peer f =>
    if (traffic r.stream).Rests (traffic (f r.stream)) then some { r with stream := f r.stream }
    else none
  | .rawRead n => some (r.read n)
  | .rawWrite data => some (r.write data)
  | .rawFlush => some r.flush
  | _ => none

end Raw

namespace Usage

/-- A connection over a stream, before anything has been done. -/
def unused (bufferSize : Nat) (stream : σ) : Usage σ :=
  { place := .attached (fresh bufferSize stream) .idle }

/-- One more attempt at what the owner of the connection is at. -/
def goOn (u : Usage σ) (c : Connection σ) : Activity → Option (Usage σ)
  | .idle => none
  | .reading i p =>
    match c.reading (i.attempt p) with
    | (.ok (.done (), p), c) =>
      some { u with read := u.read ++ p.bytes, place := .attached c .idle }
    | (.ok (.blocked, p), c) => some { u with place := .attached c (.reading i p) }
    | _ => none
  | .writing o rest =>
    match c.writing (o.attempt rest) with
    | (.ok (.done written, _), c) =>
      some { u with written := u.written ++ written, place := .attached c .idle }
    | (.ok (.blocked, rest), c) => some { u with place := .attached c (.writing o rest) }
    | _ => none
  | .handingOver =>
    match c.handOver.outcome with
    | .done (stream, ahead) => some { u with place := .raw { stream, ahead } }
    | .blocked => some { u with place := .attached (c.writing BufferedSink.flush).2 .handingOver }
    | .failed _ => none

/-- Takes up something, if nothing is under way. -/
def takeUp (u : Usage σ) (c : Connection σ) : (current next : Activity) → Option (Usage σ)
  | .idle, next => some { u with place := .attached c next }
  | _, _ => none

/-- What an act comes to while the stream is attached. -/
def stepAttached (u : Usage σ) (c : Connection σ) (a : Activity) : Act σ → Option (Usage σ)
  | .read i => u.takeUp c a (.reading i i.start)
  | .write o => u.takeUp c a (.writing o o.due)
  | .handOver => u.takeUp c a .handingOver
  | .goOn => u.goOn c a
  | .peer f =>
    if c.stream?.all fun s => (traffic s).Rests (traffic (f s)) then
      some { u with place := .attached (c.onStream f) a }
    else none
  | _ => none

/-- What one act comes to.  Operations are taken up one at a time, none of them fails, and what the
peer does leaves alone what travels in all. -/
def step (u : Usage σ) (act : Act σ) : Option (Usage σ) :=
  match u.place with
  | .attached c a => u.stepAttached c a act
  | .raw r => (r.step act).map fun r => { u with place := .raw r }

/-- What a list of acts comes to. -/
def run (u : Usage σ) (acts : List (Act σ)) : Option (Usage σ) :=
  acts.foldlM step u

end Usage

end Wiretap.Connection
