import Wiretap.Connection.Basic
import Wiretap.Transport.Pipe

/-!
# Rehearsing a connection

A connection over pipes, with somebody at the other end of each.  A script says what the peers and
the owner of the connection do, one after the other.  Every operation is attempted once; what a
blocked operation has moved stays moved, and the rest of it is forgotten.
-/

namespace Wiretap.Rehearsal

set_option autoImplicit false

open Transport (Attempt BufferedSource BufferedSink ByteSink ByteSource Duplex collect writeAll)

/-- One thing that a peer or the owner does. -/
inductive WireStep where
  /-- The newest peer writes. -/
  | peerWrite (data : Bytes)
  /-- A peer reads everything it can. -/
  | peerRead (i : Nat)
  /-- A peer will write nothing more. -/
  | peerEnd (i : Nat)
  /-- A peer goes away. -/
  | peerDrop (i : Nat)
  | fill
  | buffer
  | read (n : Nat)
  | readExact (n : Nat)
  | readLine
  | write (data : Bytes)
  | flush
  | install
  | handOver
  | close
  /-- The holder of the stream that was handed over writes to it. -/
  | rawWrite (data : Bytes)
  | rawRead
  | rawDrop
  deriving DecidableEq, Repr

/-- What a step gives. -/
inductive WireResult where
  | nothing
  | pending
  | noPeer
  | noRaw
  | failed (e : IoFault)
  | bytes (b : Bytes)
  /-- What was there to read, and whether the stream ended behind it. -/
  | seen (b : Bytes) (ended : Bool)
  deriving DecidableEq, Repr

namespace WireResult

def ofAttempt {α : Type} (f : α → WireResult) : Attempt α → WireResult
  | .done a => f a
  | .failed e => failed e
  | .blocked => pending

def ofExcept : Except IoFault WireResult → WireResult
  | .ok r => r
  | .error e => failed e

end WireResult

/-- The connection, the stream that was handed over, and the streams that nobody at this end holds.
Streams are numbered in the order in which they were made. -/
structure Wire where
  capacity : Nat
  connection : Connection Duplex
  /-- The number of the attached stream. -/
  attached : Nat := 0
  /-- The stream that was handed over. -/
  raw : Option (Nat × Duplex) := none
  /-- The streams given up at this end. -/
  parked : List (Nat × Duplex) := []
  /-- The number of the next stream. -/
  next : Nat := 1
  /-- The peers that have gone away. -/
  gone : List Nat := []

namespace Wire

/-- A connection over one fresh stream. -/
def start (bufferSize capacity : Nat) : Wire :=
  { capacity, connection := .fresh bufferSize (.fresh capacity) }

/-- A stream is given up at this end. -/
def park (w : Wire) (i : Nat) (d : Duplex) : Wire :=
  { w with parked := (i, d.drop) :: w.parked }

/-- The stream with the number, wherever it is. -/
def stream? (w : Wire) (i : Nat) : Option Duplex :=
  if w.connection.isOpen && w.attached == i then w.connection.stream?
  else match w.raw with
    | some (j, d) => if i = j then some d else w.parked.lookup i
    | none => w.parked.lookup i

/-- Puts the stream with the number back where it is. -/
def setStream (w : Wire) (i : Nat) (d : Duplex) : Wire :=
  if w.connection.isOpen && w.attached == i then
    { w with connection := w.connection.onStream fun _ => d }
  else if (w.raw.map (·.1)) = some i then { w with raw := some (i, d) }
  else { w with parked := w.parked.map fun p => if p.1 = i then (i, d) else p }

/-- Everything that can be read from a stream now. -/
def drain (d : Duplex) : WireResult × Duplex :=
  (.seen d.incoming.held d.incoming.closed,
    { d with incoming := { d.incoming with held := [] } })

/-- A peer acts on its end of a stream. -/
def asPeer (w : Wire) (i : Nat) (f : Duplex → WireResult × Duplex) : WireResult × Wire :=
  if w.gone.contains i then (.noPeer, w)
  else match w.stream? i with
    | none => (.noPeer, w)
    | some d =>
      let (r, d) := f d.flip
      (r, w.setStream i d.flip)

/-- The holder of the stream that was handed over acts on it. -/
def asHolder (w : Wire) (f : Duplex → WireResult × Duplex) : WireResult × Wire :=
  match w.raw with
  | none => (.noRaw, w)
  | some (i, d) =>
    let (r, d) := f d
    (r, { w with raw := some (i, d) })

/-- Writes as much as possible. -/
def pour {σ : Type} [ByteSink σ] (data : Bytes) (s : σ) : WireResult × σ :=
  let x := writeAll data s
  (.ofAttempt (fun () => .nothing) x.outcome, x.sink)

/-- Reads through the connection. -/
def viaReader (w : Wire) (f : BufferedSource Duplex → WireResult × BufferedSource Duplex) :
    WireResult × Wire :=
  let (r, connection) := w.connection.reading f
  (.ofExcept r, { w with connection })

/-- Writes through the connection. -/
def viaWriter (w : Wire) (f : BufferedSink Duplex → WireResult × BufferedSink Duplex) :
    WireResult × Wire :=
  let (r, connection) := w.connection.writing f
  (.ofExcept r, { w with connection })

/-- Hands the stream over to a holder, in place of any other stream it held. -/
def handOver (w : Wire) : WireResult × Wire :=
  let h := w.connection.handOver
  let w := { w with connection := h.connection }
  match h.outcome, h.released with
  | .done (d, ahead), _ =>
    let w := match w.raw with
      | some (j, old) => w.park j old
      | none => w
    (.bytes ahead, { w with raw := some (w.attached, d) })
  | .failed e, some d => (.failed e, w.park w.attached d)
  | .failed e, none => (.failed e, w)
  | .blocked, some d => (.pending, w.park w.attached d)
  | .blocked, none => (.pending, w)

/-- Closes the connection. -/
def close (w : Wire) : WireResult × Wire :=
  let c := w.connection.close
  let w := { w with connection := c.connection }
  (.ofAttempt (fun () => .nothing) c.outcome,
    match c.released with
    | some b => w.park w.attached b.sink
    | none => w)

/-- Installs a fresh stream with a peer of its own. -/
def install (w : Wire) : WireResult × Wire :=
  let (connection, old) := w.connection.install (.fresh w.capacity)
  let w := match old with
    | some d => w.park w.attached d
    | none => w
  (.nothing, { w with connection, attached := w.next, next := w.next + 1 })

/-- Performs a step. -/
def perform (w : Wire) : WireStep → WireResult × Wire
  | .peerWrite data => w.asPeer (w.next - 1) (pour data)
  | .peerRead i => w.asPeer i drain
  | .peerEnd i => w.asPeer i fun d =>
      (.nothing, (ByteSink.shutdown d).2)
  | .peerDrop i =>
    let (r, w) := w.asPeer i fun d => (.nothing, d.drop)
    (r, { w with gone := i :: w.gone })
  | .fill => w.viaReader fun s =>
      let (r, s) := s.fill
      (.ofAttempt (fun () => .bytes s.held) r, s)
  | .buffer => w.viaReader fun s => (.bytes s.held, s)
  | .read n => w.viaReader fun s =>
      let (r, s) := s.read n
      (.ofAttempt .bytes r, s)
  | .readExact n => w.viaReader fun s =>
      let x := collect [] n s
      (.ofAttempt (fun () => .bytes x.bytes) x.outcome, x.source)
  | .readLine => w.viaReader fun s =>
      let x := s.line
      (.ofAttempt (fun () => .bytes x.pieces.reverse.flatten) x.outcome, x.source)
  | .write data => w.viaWriter (pour data)
  | .flush => w.viaWriter fun s =>
      let (r, s) := s.flush
      (.ofAttempt (fun () => .nothing) r, s)
  | .install => w.install
  | .handOver => w.handOver
  | .close => w.close
  | .rawWrite data => w.asHolder (pour data)
  | .rawRead => w.asHolder drain
  | .rawDrop =>
    match w.raw with
    | none => (.noRaw, w)
    | some (i, d) => (.nothing, { w.park i d with raw := none })

/-- Performs a script, and gives what each step gave and whether the connection was open then. -/
def run (w : Wire) : List WireStep → List (WireResult × Bool)
  | [] => []
  | s :: rest =>
    let (r, w) := w.perform s
    (r, w.connection.isOpen) :: run w rest

end Wire

end Wiretap.Rehearsal
