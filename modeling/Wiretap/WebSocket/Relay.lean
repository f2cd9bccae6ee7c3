import Wiretap.Observer.Log
import Wiretap.WebSocket.Pump

/-!
# Both directions of an upgraded connection

Two tasks run side by side, one in each direction, and each runs a pump.  A message that a pump
gives away arrives at the other side later, or never if the connection breaks; messages arrive in the
order in which they were given.

The relay waits until a task is over, whether its pump is done or the task has crashed.  It tells the
other task to stop, waits until that is over too, and returns.  A task that has been told to stop may
still go on for a while, and may be done before it stops.
-/

namespace Wiretap.WebSocket

set_option autoImplicit false

open Observer (Direction)

/-- How far a task has come. -/
inductive TaskState where
  | running
  | crashed
  /-- It was told to stop, and did. -/
  | stopped
  deriving DecidableEq, Repr

/-- One direction of a relay, with the messages that have crossed. -/
structure Leg where
  pump : Pump := {}
  task : TaskState := .running
  /-- Whether the task has been told to stop. -/
  cancelled : Bool := false
  /-- The messages taken from the one side. -/
  taken : List Message := []
  /-- The messages given to the other side. -/
  given : List Message := []
  /-- How many of them have arrived. -/
  arrived : Nat := 0
  deriving DecidableEq, Repr

/-- Something that happens in one direction. -/
inductive LegEvent where
  | pump (e : PumpEvent)
  /-- The next of the messages that were given arrives. -/
  | arrived
  /-- The task does not come to its end. -/
  | crashed
  /-- The task stops as it was told. -/
  | stopped
  deriving DecidableEq, Repr

/-- The message that a pump takes. -/
def PumpEvent.taken? : PumpEvent → Option Message
  | .took (.message m) => some m
  | _ => none

/-- The message that a pump gives. -/
def PumpAction.given? : PumpAction → Option Message
  | .give m => some m
  | _ => none

namespace Leg

/-- Whether the task does nothing any more. -/
def isOver (l : Leg) : Bool := l.task != .running || l.pump.phase == .done

/-- The messages that have arrived at the other side. -/
def delivered (l : Leg) : List Message := l.given.take l.arrived

/-- The length of the payloads that the task reports at its end. -/
def relayed (l : Leg) : Nat :=
  match l.task with
  | .running => l.pump.relayed
  | _ => 0

/-- The pump goes on, while its task runs. -/
def advance (l : Leg) (e : PumpEvent) : Option (Leg × List PumpAction) :=
  match l.task with
  | .running => (l.pump.step e).map fun (pump, actions) =>
    ({ l with
      pump
      taken := l.taken ++ e.taken?.toList
      given := l.given ++ actions.filterMap PumpAction.given? }, actions)
  | _ => none

/-- What happens in one direction, if it can happen. -/
def step (l : Leg) : LegEvent → Option (Leg × List PumpAction)
  | .pump e => l.advance e
  | .arrived =>
    if l.arrived < l.given.length then some ({ l with arrived := l.arrived + 1 }, []) else none
  | .crashed => if l.isOver then none else some ({ l with task := .crashed }, [])
  | .stopped =>
    if l.cancelled && !l.isOver then some ({ l with task := .stopped }, []) else none

end Leg

/-- Something that happens to a relay. -/
inductive RelayEvent where
  | leg (d : Direction) (e : LegEvent)
  /-- The relay sees that the task of this direction is over, and tells the other to stop. -/
  | noticed (d : Direction)
  deriving DecidableEq, Repr

/-- Something that the pump of one direction does. -/
structure RelayAction where
  direction : Direction
  action : PumpAction
  deriving DecidableEq, Repr

/-- Two directions under way. -/
structure Relay where
  outbound : Leg := {}
  inbound : Leg := {}
  /-- The direction that was seen to be over first. -/
  finished : Option Direction := none
  deriving DecidableEq, Repr

/-- What a relay returns. -/
structure Relayed where
  /-- The direction that ended it. -/
  direction : Direction
  /-- The length of the payloads that went this way. -/
  bytes : Nat
  deriving DecidableEq, Repr

namespace Relay

/-- One direction. -/
def leg (r : Relay) : Direction → Leg
  | .outbound => r.outbound
  | .inbound => r.inbound

/-- Puts one direction in its place. -/
def setLeg (r : Relay) (d : Direction) (l : Leg) : Relay :=
  match d with
  | .outbound => { r with outbound := l }
  | .inbound => { r with inbound := l }

/-- Tells the task of one direction to stop. -/
def cancel (r : Relay) (d : Direction) : Relay :=
  r.setLeg d { r.leg d with cancelled := true }

/-- What the relay does when something happens, if it can happen. -/
def step (r : Relay) : RelayEvent → Option (Relay × List RelayAction)
  | .leg d e => ((r.leg d).step e).map fun (l, actions) =>
    (r.setLeg d l, actions.map (⟨d, ·⟩))
  | .noticed d =>
    if r.finished.isNone && (r.leg d).isOver then
      some ({ r with finished := some d }.cancel d.other, [])
    else none

/-- What the relay returns, once it can. -/
def result? (r : Relay) : Option Relayed :=
  match r.finished with
  | some d => if (r.leg d.other).isOver then some ⟨d, (r.leg d).relayed⟩ else none
  | none => none

end Relay

end Wiretap.WebSocket
