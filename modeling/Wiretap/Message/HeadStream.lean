import Wiretap.Transport.Buffered

/-!
# Reading heads from a stream

A head is read through the buffer of a connection.  What the buffer holds is given to the head
reader byte by byte; when the head ends inside the buffer, the bytes behind it stay there for
whatever follows the head.
-/

namespace Wiretap.Message

set_option autoImplicit false

open Transport (Attempt BufferedSource ByteSource)

/-- What the end of a head amounts to: a request head, or the fault that refuses it. -/
def HeadEnd.result : HeadEnd → Except Fault RequestHead
  | .complete raw => (RequestHead.parse raw).mapError fun why => .badRequest (.head why)
  | .tooLong => .error (.headTooLong headLimit)
  | .closed => .error (.badRequest .closedMidHead)

/-- Where an operation that reads a head stands. -/
structure HeadProgress (σ : Type) where
  outcome : Attempt HeadEnd
  reader : HeadReader
  source : BufferedSource σ

variable {σ : Type} [ByteSource σ]

/-- Reads until the head ends or an attempt is not done.  Each attempt that is done takes bytes from
the stream or finds its end. -/
def headFrom : (fuel : Nat) → HeadReader → BufferedSource σ → HeadProgress σ
  | 0, r, s => ⟨.blocked, r, s⟩
  | fuel + 1, r, s =>
    match s.fill with
    | (.failed e, s) => ⟨.failed e, r, s⟩
    | (.blocked, s) => ⟨.blocked, r, s⟩
    | (.done (), s) =>
      if s.held.isEmpty then ⟨.done r.finish, r, s⟩
      else match r.feed s.held with
        | .error (found, rest) => ⟨.done found, r, s.hold rest⟩
        | .ok r => headFrom fuel r (s.hold [])

/-- Reads a head, from where the reader stands. -/
def readHead (r : HeadReader) (s : BufferedSource σ) : HeadProgress σ :=
  headFrom (ByteSource.ready s + 2) r s

/-- Reads a request. -/
def readRequest (s : BufferedSource σ) : Attempt (Except Fault RequestHead) × BufferedSource σ :=
  let p := readHead {} s
  (p.outcome.map HeadEnd.result, p.source)

/-- Reads so many requests, one behind the other. -/
def readRequests : Nat → BufferedSource σ →
    List (Attempt (Except Fault RequestHead)) × BufferedSource σ
  | 0, s => ([], s)
  | n + 1, s =>
    let (first, s) := readRequest s
    let (others, s) := readRequests n s
    (first :: others, s)

end Wiretap.Message
