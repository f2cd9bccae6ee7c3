/-!
# The signal to stop

Whoever subscribes to the signal hears of everything that is sent from then on.  All subscribers
share what has been sent, and each has its own place in it.  Only the last signal is kept: a
subscriber whose place is further back is told how many it missed, and hears the last one next.  A
signal that is sent while nobody subscribes is lost.
-/

namespace Wiretap.Listener

set_option autoImplicit false

/-- What has been sent, and the subscribers in the order in which they came. -/
structure Signal where
  /-- How many signals have been sent to anyone. -/
  sent : Nat := 0
  /-- How many of them lie behind each subscriber; nothing for one that went away. -/
  places : List (Option Nat) := []
  deriving DecidableEq, Repr

/-- What a subscriber hears. -/
inductive Heard where
  | nothing
  | signal
  /-- So many signals were missed. -/
  | missed (count : Nat)
  deriving DecidableEq, Repr

namespace Signal

/-- How many of the signals that have been sent are kept. -/
def capacity : Nat := 1

/-- How many subscribers there are. -/
def subscribers (s : Signal) : Nat := (s.places.filter Option.isSome).length

/-- Adds a subscriber, and says which it is. -/
def subscribe (s : Signal) : Nat × Signal :=
  (s.places.length, { s with places := s.places ++ [some s.sent] })

/-- Sends the signal, if there is anyone to send it to. -/
def trigger (s : Signal) : Signal :=
  if s.subscribers = 0 then s else { s with sent := s.sent + 1 }

/-- A subscriber goes away. -/
def leave (s : Signal) (i : Nat) : Signal := { s with places := s.places.set i none }

/-- What a subscriber hears that has so many of the sent signals behind it, and how many it has
behind it then. -/
def hear (sent place : Nat) : Heard × Nat :=
  let oldest := sent - capacity
  if place = sent then (.nothing, place)
  else if place < oldest then (.missed (oldest - place), oldest)
  else (.signal, place + 1)

/-- A subscriber listens, if there is such a subscriber. -/
def listen (s : Signal) (i : Nat) : Option (Heard × Signal) :=
  (s.places[i]?.join).map fun place =>
    let (heard, place) := hear s.sent place
    (heard, { s with places := s.places.set i (some place) })

end Signal

end Wiretap.Listener
