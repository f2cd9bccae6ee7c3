import Wiretap.Listener.Service

/-!
# Waiting for connections to finish

A stop with a deadline looks at the number of open connections at once, and then again and again
until the deadline passes.  It succeeds as soon as it sees that none is open; when the deadline
passes first, it reports how many are open then.

Between two looks it sleeps for an interval, which it sets anew each time that it wakes up.  A sleep
may last longer than it was set for, so that the moments of the looks are the clock's to choose, and
`Service.wait` takes them as they are.  `Drain.looks` are those of a clock that is never late.
Moments are milliseconds from the beginning of the wait.
-/

namespace Wiretap.Listener

set_option autoImplicit false

/-- The service behind the wait of a stop.  The course is the service at each moment, the looks are
in order. -/
def Service.wait (course : Nat → Service) (call : Nat) (looks : List Nat) (deadline : Nat) :
    Option Service :=
  match looks.find? fun t => (course t).tracker.isIdle with
  | some t => (course t).step (.polled call)
  | none => (course deadline).step (.expired call)

namespace Drain

/-- How long a stop sleeps between two looks, in milliseconds. -/
def interval : Nat := 50

/-- The moments of the looks up to a deadline if no sleep is too long: the multiples of the
interval.  A look at the deadline itself is among them when a sleep ends just then. -/
def looks (deadline : Nat) : List Nat :=
  (List.range (deadline / interval + 1)).map (· * interval)

/-- How many connections are open at a moment, by the moments at which they finish. -/
def openAt (ends : List Nat) (moment : Nat) : Nat := (ends.filter (moment < ·)).length

/-- What waiting comes to with looks at the given moments, by the moments at which the connections
finish. -/
def verdict (looks : List Nat) (deadline : Nat) (ends : List Nat) : Except Failure Unit :=
  if looks.any fun t => openAt ends t = 0 then .ok ()
  else .error (.stillOpen (openAt ends deadline))

/-- What waiting comes to by a clock that is never late. -/
def outcome (deadline : Nat) (ends : List Nat) : Except Failure Unit :=
  verdict (looks deadline) deadline ends

end Drain

end Wiretap.Listener
