import Wiretap.Session.Dialogue

/-!
# What observers see

The notes of a dialogue go to the log, to the totals, and to an executor of hooks if there is one.
What the executor does is contained: it may add to the log, and that is all.
-/

namespace Wiretap.Session

set_option autoImplicit false

open Observer (Executor HookCall Log Metric Peer)

/-- Everything that observers were told. -/
structure Record where
  /-- The calls that were made, the last one first. -/
  history : List (Peer × HookCall) := []
  logs : List Log := []
  counted : List Metric := []
  deriving DecidableEq, Repr

namespace Record

/-- The calls that were made, in order. -/
def calls (r : Record) : List HookCall := r.history.reverse.map (·.2)

/-- Takes a note. -/
def note (executor : Option Executor) (peer : Peer) (r : Record) : Note → Record
  | .log entry => { r with logs := r.logs ++ [entry] }
  | .metric m => { r with counted := r.counted ++ [m] }
  | .hook c =>
    match executor with
    | none => r
    | some e =>
      let (history, more) := e.call peer c r.history
      { r with history, logs := r.logs ++ more }

end Record

end Wiretap.Session
