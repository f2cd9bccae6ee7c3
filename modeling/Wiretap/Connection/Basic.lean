import Wiretap.Transport.Buffered

/-!
# Connections

A connection owns a stream and reads and writes it through buffers, until the stream is handed over
or closed.  Handing over passes on what was written first, and gives away what was read ahead
together with the stream.  A new stream can be installed at any time; it gets fresh buffers, and the
old stream is given up with whatever its buffers held.
-/

namespace Wiretap

set_option autoImplicit false

open Transport (Attempt BufferedSink BufferedSource ByteSink ByteSource ReadBuffer WriteBuffer)

/-- Where the stream of a connection is. -/
inductive Link (σ : Type) where
  /-- Attached, behind its buffers. -/
  | attached (stream : σ) (reader : ReadBuffer) (writer : WriteBuffer)
  /-- Handed over: whoever has it also ends it. -/
  | detached
  | closed

/-- One connection. -/
structure Connection (σ : Type) where
  /-- The capacity of its buffers. -/
  bufferSize : Nat
  link : Link σ

namespace Connection

variable {σ : Type}

/-! ## Streams -/

/-- A stream behind fresh buffers. -/
def attach (bufferSize : Nat) (stream : σ) : Link σ :=
  .attached stream { capacity := bufferSize } (.empty bufferSize)

/-- A connection over a stream. -/
def fresh (bufferSize : Nat) (stream : σ) : Connection σ :=
  ⟨bufferSize, attach bufferSize stream⟩

/-- Whether the stream is attached. -/
def isOpen (c : Connection σ) : Bool :=
  match c.link with
  | .attached .. => true
  | _ => false

/-- The attached stream. -/
def stream? (c : Connection σ) : Option σ :=
  match c.link with
  | .attached s _ _ => some s
  | _ => none

/-- Lets somebody else act on the attached stream. -/
def onStream (f : σ → σ) (c : Connection σ) : Connection σ :=
  match c.link with
  | .attached s r w => { c with link := .attached (f s) r w }
  | _ => c

/-- Installs a new stream, and gives up the old one. -/
def install (stream : σ) (c : Connection σ) : Connection σ × Option σ :=
  ({ c with link := attach c.bufferSize stream }, c.stream?)

/-! ## Reading and writing -/

/-- Reads through the buffer; only an attached stream can be read. -/
def reading {α : Type} (f : BufferedSource σ → α × BufferedSource σ) (c : Connection σ) :
    Except IoFault α × Connection σ :=
  match c.link with
  | .attached s r w =>
    let (a, b) := f ⟨r, s⟩
    (.ok a, { c with link := .attached b.source b.buffer w })
  | _ => (.error IoFault.notAttached, c)

/-- Writes through the buffer; only an attached stream can be written. -/
def writing {α : Type} (f : BufferedSink σ → α × BufferedSink σ) (c : Connection σ) :
    Except IoFault α × Connection σ :=
  match c.link with
  | .attached s r w =>
    let (a, b) := f ⟨w, s⟩
    (.ok a, { c with link := .attached b.sink r b.buffer })
  | _ => (.error IoFault.notAttached, c)

/-! ## Handing over and closing -/

/-- What handing over comes to. -/
structure Handover (σ : Type) where
  /-- The stream, with the bytes that were read ahead. -/
  outcome : Attempt (σ × Bytes)
  connection : Connection σ
  /-- The stream, if nobody has it any more. -/
  released : Option σ

variable [ByteSink σ]

/-- Hands the stream over.  If what was written cannot be passed on, the stream is lost. -/
def handOver (c : Connection σ) : Handover σ :=
  match c.link with
  | .attached s r w =>
    match (⟨w, s⟩ : BufferedSink σ).flush with
    | (.done (), b) => ⟨.done (b.sink, r.held), { c with link := .detached }, none⟩
    | (.failed e, b) => ⟨.failed e, { c with link := .closed }, some b.sink⟩
    | (.blocked, b) => ⟨.blocked, { c with link := .detached }, some b.sink⟩
  | _ => ⟨.failed IoFault.notAttached, c, none⟩

/-- What closing comes to. -/
structure Closing (σ : Type) where
  outcome : Attempt Unit
  connection : Connection σ
  /-- The stream behind what could not be passed on; nobody has it any more. -/
  released : Option (BufferedSink σ)

/-- Closes the connection.  A detached connection has nothing to close, and a closed one cannot be
closed again. -/
def close (c : Connection σ) : Closing σ :=
  match c.link with
  | .attached s _ w =>
    let (outcome, b) := (⟨w, s⟩ : BufferedSink σ).finish
    ⟨outcome, { c with link := .closed }, some b⟩
  | .detached => ⟨.done (), { c with link := .closed }, none⟩
  | .closed => ⟨.failed IoFault.alreadyClosed, c, none⟩

end Connection

end Wiretap
