import Wiretap.Bytes

/-!
# One direction of an upgraded connection

A pump takes messages from one side and gives them to the other.  Texts and binary messages are
captured and counted before they are passed on; pings and pongs are not passed on.  A close message
is passed on and ends the pump, and so do a failure and the end of the messages.  The last thing a
pump does is to close the side it gives to.
-/

namespace Wiretap.WebSocket

set_option autoImplicit false

/-- A message. -/
inductive Message where
  | text (payload : Bytes)
  | binary (payload : Bytes)
  | ping (payload : Bytes)
  | pong (payload : Bytes)
  /-- The end, perhaps with a code and a reason. -/
  | close (frame : Option (Nat × Bytes))
  deriving DecidableEq, Repr

namespace Message

/-- The payload of a message that is passed on as data. -/
def data? : Message → Option Bytes
  | text payload => some payload
  | binary payload => some payload
  | _ => none

end Message

/-- What the side that a pump takes from yields. -/
inductive Item where
  | message (m : Message)
  | failed (why : String)
  | ended
  deriving DecidableEq, Repr

/-- What a pump waits for. -/
inductive PumpPhase where
  /-- The next item. -/
  | taking
  /-- That a data message is passed on. -/
  | giving
  /-- That a close message is passed on. -/
  | givingClose
  /-- That the other side is closed. -/
  | closing
  | done
  deriving DecidableEq, Repr

/-- What happens to a pump. -/
inductive PumpEvent where
  | took (item : Item)
  /-- Passing a message on ended, perhaps in failure. -/
  | gave (failure : Option String)
  | closed
  deriving DecidableEq, Repr

/-- What a pump does. -/
inductive PumpAction where
  | capture (data : Bytes)
  | count (bytes : Nat)
  | give (m : Message)
  | takeFailed (why : String)
  | giveFailed (why : String)
  | close
  deriving DecidableEq, Repr

/-- One direction under way. -/
structure Pump where
  phase : PumpPhase := .taking
  /-- The length of the payloads so far. -/
  relayed : Nat := 0
  deriving DecidableEq, Repr

namespace Pump

/-- What a pump does with the next item. -/
def take (p : Pump) : Item → Pump × List PumpAction
  | .message (.close frame) => ({ p with phase := .givingClose }, [.give (.close frame)])
  | .message m =>
    match m.data? with
    | some data =>
      (⟨.giving, p.relayed + data.length⟩, [.capture data, .count data.length, .give m])
    | none => (p, [])
  | .failed why => ({ p with phase := .closing }, [.takeFailed why, .close])
  | .ended => ({ p with phase := .closing }, [.close])

/-- What a pump does when something happens; nothing happens to a pump that does not wait for it. -/
def step (p : Pump) (e : PumpEvent) : Option (Pump × List PumpAction) :=
  match p.phase, e with
  | .taking, .took item => some (p.take item)
  | .giving, .gave none => some ({ p with phase := .taking }, [])
  | .giving, .gave (some why) => some ({ p with phase := .closing }, [.giveFailed why, .close])
  | .givingClose, .gave _ => some ({ p with phase := .closing }, [.close])
  | .closing, .closed => some ({ p with phase := .done }, [])
  | _, _ => none

end Pump

end Wiretap.WebSocket
