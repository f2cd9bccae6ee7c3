import Wiretap.Transport.Basic

/-!
# Sinks with limits

A sink that accepts only so many bytes in all, and only so many in one attempt.  At its limit it
either fails or blocks.  It remembers what it was given and which operations reached it, and can
itself be read from.
-/

namespace Wiretap.Transport

set_option autoImplicit false

/-- A sink with limits. -/
structure Limited where
  /-- How many bytes it accepts in all, if that is limited. -/
  limit : Option Nat := none
  /-- How many bytes it accepts in one attempt, if that is limited. -/
  perWrite : Option Nat := none
  /-- Whether it blocks at its limit instead of failing. -/
  stalls : Bool := false
  flushFails : Bool := false
  /-- What can be read from it. -/
  incoming : Bytes := []
  /-- What it was given, in pieces, the last piece first. -/
  pieces : List Bytes := []
  /-- How many bytes it was given. -/
  stored : Nat := 0
  /-- How often it was flushed. -/
  flushes : Nat := 0
  /-- Whether it was shut down. -/
  shut : Bool := false
  deriving DecidableEq, Repr

namespace Limited

/-- What the sink was given. -/
def data (s : Limited) : Bytes := s.pieces.reverse.flatten

/-- How many bytes it can still accept, if that is limited. -/
def room (s : Limited) : Option Nat := s.limit.map (· - s.stored)

/-- The part of the data that one attempt can take. -/
def portion (s : Limited) (data : Bytes) : Bytes :=
  match s.perWrite, s.room with
  | none, none => data
  | some n, none => data.take n
  | none, some n => data.take n
  | some n, some m => data.take (min n m)

def write (data : Bytes) (s : Limited) : Attempt Nat × Limited :=
  if s.room = some 0 then (if s.stalls then .blocked else .failed IoFault.brokenPipe, s)
  else
    let piece := s.portion data
    let n := piece.length
    (.done n, { s with pieces := piece :: s.pieces, stored := s.stored + n })

instance : ByteSink Limited where
  write := write
  flush s :=
    (if s.flushFails then .failed IoFault.connectionReset else .done (),
      { s with flushes := s.flushes + 1 })
  shutdown s := (.done (), { s with shut := true })

instance : ByteSource Limited where
  read n s := (.done (s.incoming.take n), { s with incoming := s.incoming.drop n })
  ready s := s.incoming.length

end Limited

end Wiretap.Transport
