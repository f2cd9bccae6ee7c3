import Wiretap.Transport.Basic

/-!
# Buffered views

A connection is read and written through buffers of a fixed capacity.  A read takes what the buffer
holds, and fills the buffer first when it is empty; a read of at least the capacity goes past an
empty buffer.  A write goes into the buffer, which is emptied first when the write does not fit, and
a write of at least the capacity goes past the empty buffer.  So no byte overtakes another.
-/

namespace Wiretap.Transport

set_option autoImplicit false

/-! ## Reading -/

/-- What has been read ahead. -/
structure ReadBuffer where
  capacity : Nat
  held : Bytes := []
  deriving DecidableEq, Repr

/-- A source behind a read buffer. -/
structure BufferedSource (σ : Type) where
  buffer : ReadBuffer
  source : σ

namespace BufferedSource

variable {σ : Type} [ByteSource σ]

/-- What has been read ahead. -/
def held (s : BufferedSource σ) : Bytes := s.buffer.held

/-- Replaces what has been read ahead. -/
def hold (s : BufferedSource σ) (held : Bytes) : BufferedSource σ :=
  { s with buffer := { s.buffer with held } }

/-- Makes the buffer hold something, unless the stream ends. -/
def fill (s : BufferedSource σ) : Attempt Unit × BufferedSource σ :=
  if !s.held.isEmpty then (.done (), s)
  else match ByteSource.read s.buffer.capacity s.source with
    | (.done piece, source) => (.done (), { s with source }.hold piece)
    | (.failed e, source) => (.failed e, { s with source })
    | (.blocked, source) => (.blocked, { s with source })

def read (n : Nat) (s : BufferedSource σ) : Attempt Bytes × BufferedSource σ :=
  if s.held.isEmpty && s.buffer.capacity ≤ n then
    let (r, source) := ByteSource.read n s.source
    (r, { s with source })
  else match s.fill with
    | (.done (), s) => (.done (s.held.take n), s.hold (s.held.drop n))
    | (.failed e, s) => (.failed e, s)
    | (.blocked, s) => (.blocked, s)

instance : ByteSource (BufferedSource σ) where
  read := read
  ready s := s.held.length + ByteSource.ready s.source

/-- Where an operation that reads a line stands. -/
structure Line (σ : Type) where
  outcome : Attempt Unit
  /-- The part of the line that has been read, in pieces, the last piece first. -/
  pieces : List Bytes
  source : BufferedSource σ

/-- Reads up to and with the next line feed, or to the end of the stream. -/
def lineFrom : (fuel : Nat) → List Bytes → BufferedSource σ → Line σ
  | 0, pieces, s => ⟨.blocked, pieces, s⟩
  | fuel + 1, pieces, s =>
    match s.fill with
    | (.failed e, s) => ⟨.failed e, pieces, s⟩
    | (.blocked, s) => ⟨.blocked, pieces, s⟩
    | (.done (), s) =>
      let before := s.held.takeWhile (· != Bytes.lf)
      match s.held.drop before.length with
      | b :: rest => ⟨.done (), [b] :: before :: pieces, s.hold rest⟩
      | [] =>
        if before.isEmpty then ⟨.done (), pieces, s⟩
        else lineFrom fuel (before :: pieces) (s.hold [])

/-- Reads a line. -/
def line (s : BufferedSource σ) : Line σ := lineFrom (ByteSource.ready s + 2) [] s

end BufferedSource

/-! ## Writing -/

/-- What has been written but not passed on. -/
structure WriteBuffer where
  capacity : Nat
  held : Bytes := []
  /-- How many of the bytes held have been passed on by a flush that is not finished. -/
  passed : Nat := 0
  passed_le : passed ≤ held.length := by exact Nat.zero_le _
  deriving DecidableEq, Repr

namespace WriteBuffer

/-- A buffer that holds nothing. -/
def empty (capacity : Nat) : WriteBuffer := { capacity }

/-- The bytes held that have not been passed on. -/
def pending (b : WriteBuffer) : Bytes := b.held.drop b.passed

/-- Holds more bytes behind those it holds. -/
def add (b : WriteBuffer) (data : Bytes) : WriteBuffer where
  capacity := b.capacity
  held := b.held ++ data
  passed := b.passed
  passed_le := by
    rw [List.length_append]
    exact Nat.le_add_right_of_le b.passed_le

/-- All bytes held but the rest have been passed on. -/
def pass (b : WriteBuffer) (rest : Bytes) : WriteBuffer where
  capacity := b.capacity
  held := b.held
  passed := b.held.length - rest.length
  passed_le := Nat.sub_le _ _

/-- Holds only the rest, of which nothing has been passed on. -/
def keep (b : WriteBuffer) (rest : Bytes) : WriteBuffer where
  capacity := b.capacity
  held := rest

end WriteBuffer

/-- A sink behind a write buffer. -/
structure BufferedSink (σ : Type) where
  buffer : WriteBuffer
  sink : σ

namespace BufferedSink

variable {σ : Type} [ByteSink σ]

/-- Passes on the bytes held, from the first that has not been.  Until that is finished the buffer
keeps all of them. -/
def drain (s : BufferedSink σ) : Attempt Unit × BufferedSink σ :=
  let w := writeAll s.buffer.pending s.sink
  match w.outcome with
  | .blocked => (.blocked, ⟨s.buffer.pass w.rest, w.sink⟩)
  | .failed e => (.failed e, ⟨s.buffer.keep w.rest, w.sink⟩)
  | .done () => (.done (), ⟨s.buffer.keep [], w.sink⟩)

/-- Writes to a buffer that the data fits into, or past an empty one. -/
def accept (data : Bytes) (s : BufferedSink σ) : Attempt Nat × BufferedSink σ :=
  if s.buffer.capacity ≤ data.length then
    let (r, sink) := ByteSink.write data s.sink
    (r, { s with sink })
  else
    (.done data.length, { s with buffer := s.buffer.add data })

def write (data : Bytes) (s : BufferedSink σ) : Attempt Nat × BufferedSink σ :=
  if s.buffer.capacity < s.buffer.held.length + data.length then
    match s.drain with
    | (.done (), s) => s.accept data
    | (.failed e, s) => (.failed e, s)
    | (.blocked, s) => (.blocked, s)
  else s.accept data

/-- Passes everything on, and then has the sink do the same. -/
def flush (s : BufferedSink σ) : Attempt Unit × BufferedSink σ :=
  match s.drain with
  | (.done (), s) => let (r, sink) := ByteSink.flush s.sink; (r, { s with sink })
  | (r, s) => (r, s)

/-- Passes everything on, and then ends the stream. -/
def shutdown (s : BufferedSink σ) : Attempt Unit × BufferedSink σ :=
  match s.drain with
  | (.done (), s) => let (r, sink) := ByteSink.shutdown s.sink; (r, { s with sink })
  | (r, s) => (r, s)

instance : ByteSink (BufferedSink σ) where
  write := write
  flush := flush
  shutdown := shutdown

/-- Flushes and then ends the stream.  The stream is ended even if flushing fails, and the failure
is reported. -/
def finish (s : BufferedSink σ) : Attempt Unit × BufferedSink σ :=
  match s.flush with
  | (.blocked, s) => (.blocked, s)
  | (.done (), s) => s.shutdown
  | (.failed e, s) =>
    match s.shutdown with
    | (.blocked, s) => (.blocked, s)
    | (_, s) => (.failed e, s)

end BufferedSink

end Wiretap.Transport
