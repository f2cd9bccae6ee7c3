import Wiretap.Fault
import Wiretap.Observer.Log

/-!
# Hooks

An executor of hooks is called when a connection starts and ends, when a payload crosses the proxy,
and when something fails.  It may write to the log, it may reject the start of a connection, and it
may panic.  None of this reaches the connection: a rejection and a panic leave an entry in the log
and nothing else.
-/

namespace Wiretap.Observer

set_option autoImplicit false

/-- What is known about a connection from its start. -/
structure Peer where
  /-- The number of the connection. -/
  id : Nat
  /-- The written form of the peer's address. -/
  address : String
  deriving DecidableEq, Repr

namespace Peer

/-- The name of the connection in messages. -/
def connection (p : Peer) : String := s!"conn-{p.id}"

end Peer

/-- A call of a hook. -/
inductive HookCall where
  | started
  | handled
  | packet (direction : Direction) (data : Bytes)
  | fault (f : Fault) (context : String)
  /-- The connection ended after so many microseconds. -/
  | ended (micros : Nat)
  deriving DecidableEq, Repr

namespace HookCall

/-- The name of the hook. -/
def callback : HookCall → String
  | started => "on_connection_start"
  | handled => "handle_connection"
  | packet .. => "on_packet"
  | fault .. => "handle_error"
  | ended _ => "on_connection_end"

/-- Whether the executor is called at all: an empty payload is nothing to look at. -/
def isMade : HookCall → Bool
  | packet _ data => !data.isEmpty
  | _ => true

end HookCall

/-- How a call of an executor ends. -/
inductive HookEnding where
  | returned
  | rejected (why : String)
  | panicked
  deriving DecidableEq, Repr

/-- What a call of an executor does. -/
structure Reaction where
  logs : List Log := []
  ending : HookEnding := .returned
  deriving DecidableEq, Repr

/-- An executor of hooks.  What it does may depend on the calls before, the last one first. -/
structure Executor where
  respond : List (Peer × HookCall) → Peer → HookCall → Reaction

namespace Executor

/-- The entry that a call leaves when it does not return. -/
def contain (peer : Peer) (call : HookCall) : HookEnding → List Log
  | .returned => []
  | .panicked => [{
      level := .error
      message := "Hook executor panicked"
      fields := [("connection_id", peer.connection), ("callback", call.callback)] }]
  | .rejected why =>
    if call = .started then [{
      level := .warn
      message := "Connection start hook failed"
      fields := [("connection_id", peer.connection), ("error", why)] }]
    else []

/-- Makes a call after those of the history, the last one first; returns the history with it, and
the entries for the log. -/
def call (e : Executor) (peer : Peer) (c : HookCall) (history : List (Peer × HookCall)) :
    List (Peer × HookCall) × List Log :=
  if c.isMade then
    let reaction := e.respond history peer c
    ((peer, c) :: history, reaction.logs ++ contain peer c reaction.ending)
  else (history, [])

/-- Makes some calls in order. -/
def calls (e : Executor) (made : List (Peer × HookCall)) : List (Peer × HookCall) × List Log :=
  made.foldl (fun (history, logs) (peer, c) =>
    let (history, more) := e.call peer c history
    (history, logs ++ more)) ([], [])

end Executor

end Wiretap.Observer
