import Wiretap.Fault

/-!
# States of the listener

The listener is stopped, or starting, or running, or stopping.  It can be started only when it is
stopped and stopped only when it is running; any other request is refused and names the state.
-/

namespace Wiretap.Listener

set_option autoImplicit false

/-- Where the listener is in its life. -/
inductive State where
  | stopped | starting | running | stopping
  deriving DecidableEq, Repr

namespace State

def name : State → String
  | stopped => "stopped"
  | starting => "starting"
  | running => "running"
  | stopping => "stopping"

end State

/-- Why a request to the listener failed. -/
inductive Failure where
  /-- The address cannot be listened on. -/
  | bind (e : IoFault)
  /-- A start in a state other than stopped. -/
  | alreadyRunning (state : State)
  /-- A stop in a state other than running. -/
  | notRunning (state : State)
  /-- Connections were still open when the deadline passed. -/
  | stillOpen (count : Nat)
  deriving DecidableEq, Repr

namespace Failure

def message : Failure → String
  | bind e => "Failed to bind: " ++ e.message
  | alreadyRunning s => "Listener cannot start while " ++ s.name
  | notRunning s => s!"Listener is not running ({s.name})"
  | stillOpen n => s!"Shutdown timed out with {n} connection(s) still in flight"

/-- The message of the failure behind this one, if there is one. -/
def cause? : Failure → Option String
  | bind e => some e.message
  | _ => none

end Failure

end Wiretap.Listener
