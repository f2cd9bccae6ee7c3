import Wiretap.Observer.Hook

/-!
# Connections under way

A tracker numbers connections when they begin, and knows which of them have not finished.  It is
idle when all of them have.  A number is never given twice, so a connection can finish only once.
-/

namespace Wiretap.Listener

set_option autoImplicit false

open Observer (Log)

/-- The connections under way. -/
structure Tracker where
  /-- The numbers of the connections that have not finished, the earliest first. -/
  active : List Nat := []
  /-- How many connections have begun. -/
  begun : Nat := 0
  deriving DecidableEq, Repr

namespace Tracker

/-- How many connections have not finished. -/
def count (t : Tracker) : Nat := t.active.length

/-- Whether all connections have finished. -/
def isIdle (t : Tracker) : Bool := t.active.isEmpty

/-- A connection begins, and gets the next number. -/
def track (t : Tracker) : Nat × Tracker :=
  let id := t.begun + 1
  (id, { active := t.active ++ [id], begun := id })

/-- A connection finishes. -/
def release (t : Tracker) (id : Nat) : Tracker := { t with active := t.active.erase id }

/-- The entry that a finished connection leaves. -/
def released (id : Nat) : Log :=
  { level := .trace, message := "Connection released", fields := [("connection_id", s!"conn-{id}")] }

/-! ## Scripts -/

/-- One thing that is asked of a tracker. -/
inductive Request where
  | track
  /-- To let the connection with that number finish. -/
  | release (id : Nat)
  | isIdle
  /-- To let all connections finish, the earliest first, and wait for that. -/
  | drain
  deriving DecidableEq, Repr

/-- What a request gives. -/
inductive Answer where
  | tracked (id : Nat)
  | released
  | absent
  | idle (yes : Bool)
  | drained
  deriving DecidableEq, Repr

/-- Meets a request. -/
def meet (t : Tracker) : Request → Answer × Tracker × List Log
  | .track => let (id, t) := t.track; (.tracked id, t, [])
  | .release id =>
    if t.active.contains id then (.released, t.release id, [released id]) else (.absent, t, [])
  | .isIdle => (.idle t.isIdle, t, [])
  | .drain => (.drained, t.active.foldl release t, t.active.map released)

end Tracker

end Wiretap.Listener
