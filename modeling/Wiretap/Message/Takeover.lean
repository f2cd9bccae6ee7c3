import Wiretap.Message.Reply
import Wiretap.Transport.Buffered

/-!
# Taking a stream over

A response can be framed by the proxy, or a stream can be taken over and written raw.  The phase of
a takeover says which is still possible: a framed response only while nothing has been written, raw
bytes until the stream is closed.  Fields can be stored for a framed response; raw bytes never
carry them.
-/

namespace Wiretap.Message

set_option autoImplicit false

open Transport (Attempt BufferedSink BufferedSource ByteSink ByteSource writeAll)

/-- Where a takeover is in its life. -/
inductive TakeoverPhase where
  /-- A framed response can still be sent. -/
  | negotiating
  /-- Raw bytes have been written. -/
  | hijacked
  | closed
  deriving DecidableEq, Repr

/-- A stream that is being taken over. -/
structure Takeover (σ : Type) where
  sink : σ
  /-- The fields for a framed response. -/
  fields : Fields := {}
  phase : TakeoverPhase := .negotiating

namespace Takeover

variable {σ : Type} [ByteSink σ]

/-- Writes all the bytes; the stream is hijacked once that is done. -/
def put (data : Bytes) (t : Takeover σ) : Attempt Unit × Takeover σ :=
  let w := writeAll data t.sink
  match w.outcome with
  | .done () => (.done (), { t with sink := w.sink, phase := .hijacked })
  | outcome => (outcome, { t with sink := w.sink })

/-- Writes raw bytes, and says how many: always all of them. -/
def write (data : Bytes) (t : Takeover σ) : Attempt Nat × Takeover σ :=
  if t.phase = .closed then (.failed IoFault.takeoverClosed, t)
  else
    let (r, t) := t.put data
    (r.map fun () => data.length, t)

/-- Sends a framed response with the stored fields. -/
def respond (status : Status) (body : Bytes) (t : Takeover σ) : Attempt Unit × Takeover σ :=
  if t.phase = .negotiating then t.put (Reply.framed status t.fields body)
  else (.failed IoFault.rawBytesSent, t)

def flush (t : Takeover σ) : Attempt Unit × Takeover σ :=
  let (r, sink) := ByteSink.flush t.sink
  (r, { t with sink })

/-- Flushes the stream and ends it. -/
def close (t : Takeover σ) : Attempt Unit × Takeover σ :=
  if t.phase = .closed then (.failed IoFault.takeoverClosed, t)
  else match ByteSink.flush t.sink with
    | (.done (), sink) =>
      let (r, sink) := ByteSink.shutdown sink
      (r, { t with sink, phase := .closed })
    | (r, sink) => (r, { t with sink, phase := .closed })

/-! ## Scripts -/

/-- One operation on a takeover. -/
inductive Operation where
  /-- To store a field for a framed response. -/
  | field (name value : Bytes)
  /-- To state a status, which goes nowhere: raw bytes carry their own. -/
  | status (s : Status)
  | write (data : Bytes)
  | respond (status : Status) (body : Bytes)
  | flush
  | close
  deriving DecidableEq, Repr

/-- What an operation gives. -/
inductive Effect where
  | nothing
  | wrote (count : Nat)
  | failed (e : IoFault)
  | stalled
  | badField (e : FieldError)
  deriving DecidableEq, Repr

/-- What an attempt without a value gives. -/
def Effect.ofAttempt : Attempt Unit → Effect
  | .done () => nothing
  | .failed e => failed e
  | .blocked => stalled

/-- Performs an operation. -/
def perform (t : Takeover σ) : Operation → Effect × Takeover σ
  | .field name value =>
    if !Fields.isName name then (.badField .badName, t)
    else if !Fields.isValue value then (.badField .badValue, t)
    else (.nothing, { t with fields := t.fields.append name value })
  | .status _ => (.nothing, t)
  | .write data =>
    let (r, t) := t.write data
    (match r with
      | .done n => .wrote n
      | .failed e => .failed e
      | .blocked => .stalled, t)
  | .respond status body => let (r, t) := t.respond status body; (.ofAttempt r, t)
  | .flush => let (r, t) := t.flush; (.ofAttempt r, t)
  | .close => let (r, t) := t.close; (.ofAttempt r, t)

/-! ## After the takeover -/

/-- The capacity of the buffers that a hijacked stream is given. -/
def bufferCapacity : Nat := 8192

/-- The stream behind fresh buffers, for whoever took it over to write to. -/
def hijack (t : Takeover σ) : BufferedSink σ := ⟨.empty bufferCapacity, t.sink⟩

end Takeover

/-! ## Whole responses -/

/-- Where an operation that writes a response and flushes it stands. -/
structure Responding (σ : Type) where
  outcome : Attempt Unit
  /-- The bytes that are not written yet. -/
  rest : Bytes
  sink : σ

/-- Writes what is left of a response, and then flushes it. -/
def respondFrom {σ : Type} [ByteSink σ] (rest : Bytes) (s : σ) : Responding σ :=
  let w := writeAll rest s
  match w.outcome with
  | .done () =>
    let (outcome, sink) := ByteSink.flush w.sink
    ⟨outcome, [], sink⟩
  | outcome => ⟨outcome, w.rest, w.sink⟩

/-- The fault of writing a response whose deadline passes if it does not get done. -/
def Responding.fault? {σ : Type} (r : Responding σ) : Option Fault :=
  match r.outcome with
  | .done () => none
  | .failed e => some (.io e)
  | .blocked => some (.timeout .replyWritten)

end Wiretap.Message
