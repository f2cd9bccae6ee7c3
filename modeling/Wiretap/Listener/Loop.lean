/-!
# Accepting connections

While the listener runs a loop accepts connections.  If their number is limited, the loop first takes
a permit, and the permit goes with the connection that is accepted next.  After a failed attempt the
loop rests, still holding its permit, and gives it back before it takes one anew.  Wherever the loop
waits it also listens for the signal to stop, except while it rests.
-/

namespace Wiretap.Listener

set_option autoImplicit false

/-- What the loop waits for. -/
inductive LoopPhase where
  /-- A permit. -/
  | acquiring
  /-- A connection. -/
  | accepting
  /-- The end of its rest. -/
  | resting
  | exited
  deriving DecidableEq, Repr

/-- A loop with the permits of its connections. -/
structure Loop where
  /-- How many permits there are, if connections are limited. -/
  limit : Option Nat
  /-- The permits that neither the loop nor a connection holds. -/
  available : Nat := limit.getD 0
  phase : LoopPhase := .acquiring
  /-- Whether it has been told to stop. -/
  signalled : Bool := false
  deriving DecidableEq, Repr

/-- What happens to a loop. -/
inductive LoopEvent where
  | acquired
  | accepted
  | failed
  | rested
  | stopped
  deriving DecidableEq, Repr

namespace Loop

/-- How many permits the loop holds. -/
def held (l : Loop) : Nat :=
  match l.limit, l.phase with
  | some _, .accepting => 1
  | some _, .resting => 1
  | _, _ => 0

/-- A permit is given back. -/
def release (l : Loop) : Loop :=
  match l.limit with
  | some _ => { l with available := l.available + 1 }
  | none => l

/-- The loop after a permit is taken, if there is one to take; where connections are not limited
there is nothing to take. -/
def acquire (l : Loop) : Option Loop :=
  match l.limit, l.available with
  | none, _ => some { l with phase := .accepting }
  | some _, 0 => none
  | some _, available + 1 => some { l with phase := .accepting, available }

/-- The loop after something has happened, if that can happen. -/
def step (l : Loop) (e : LoopEvent) : Option Loop :=
  match l.phase, e with
  | .acquiring, .acquired => l.acquire
  | .acquiring, .stopped =>
    if l.signalled && l.limit.isSome then some { l with phase := .exited } else none
  | .accepting, .accepted => some { l with phase := .acquiring }
  | .accepting, .failed => some { l with phase := .resting }
  | .accepting, .stopped =>
    if l.signalled then some { l.release with phase := .exited } else none
  | .resting, .rested => some { l.release with phase := .acquiring }
  | _, _ => none

end Loop

end Wiretap.Listener
