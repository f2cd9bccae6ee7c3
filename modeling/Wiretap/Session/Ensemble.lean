import Wiretap.Session.Attend
import Wiretap.Session.Performance

/-!
# A connection with its relay

The dialogue of a connection is performed by a task of its own.  When it comes to a relay, two more
tasks carry messages, one in each direction; they go on by themselves, and tell observers what they
carry while they carry it.  The dialogue goes on when the relay returns.  Nothing but the relay's own
state keeps its tasks from going on behind that.
-/

namespace Wiretap.Session

set_option autoImplicit false

open Transport (ByteStream)
open WebSocket (Relay RelayEvent)

/-- What observers are told of what a relay does. -/
def relayNote (c : Context) (a : WebSocket.RelayAction) : Option Note :=
  let ended (message why : String) : Note := .log {
    level := .debug
    message
    fields := [
      ("connection_id", c.peer.connection), ("direction", a.direction.name), ("error", why)] }
  match a.action with
  | .capture data => some (.hook (.packet a.direction data))
  | .count bytes => some (.metric (.relayed Protocol.webSocket.name a.direction bytes))
  | .takeFailed why => some (ended "WebSocket read ended" why)
  | .giveFailed why => some (ended "WebSocket write failed" why)
  | .give _ => none
  | .close => none

/-- Who tells observers something. -/
inductive Teller where
  | dialogue
  | relay
  deriving DecidableEq, Repr

/-- Everything that goes on for one connection. -/
structure Ensemble (σ τ : Type) where
  standing : Standing σ τ Outcome
  /-- The relay, once it has begun. -/
  relay : Option Relay := none
  /-- What observers have been told, in order. -/
  told : List (Teller × Note) := []

/-- One thing that happens to a connection. -/
inductive Cue (σ τ : Type) where
  /-- The task of the dialogue makes a move, or the peers do. -/
  | dialogue (m : Move σ τ)
  /-- The relay begins. -/
  | begin
  /-- Something happens to the relay. -/
  | relay (e : RelayEvent)
  /-- The relay returns. -/
  | resume

/-- Whether the move answers what only the relay answers. -/
def Move.isRelayed {σ τ : Type} : Move σ τ → Bool
  | .answer ⟨.relay _, _⟩ => true
  | _ => false

/-- What observers are told in a move. -/
def Standing.news {σ τ α : Type} (s : Standing σ τ α) (m : Move σ τ) : List Note :=
  match m, s.rest with
  | .go, .tell n _ => [n]
  | _, _ => []

namespace Ensemble

variable {σ τ : Type}

/-- A connection before anything has happened. -/
def start (bufferSize : Nat) (stream : σ) (d : Dialogue Outcome) : Ensemble σ τ :=
  { standing := .start bufferSize stream d }

/-- Observers are told something. -/
def tell (e : Ensemble σ τ) (teller : Teller) (ns : List Note) : Ensemble σ τ :=
  { e with told := e.told ++ ns.map (teller, ·) }

variable [ByteStream σ] [ByteStream τ]

/-- What happens, if it can happen. -/
def step (c : Context) (e : Ensemble σ τ) : Cue σ τ → Option (Ensemble σ τ)
  | .dialogue m =>
    if m.isRelayed then none
    else (e.standing.step m).map fun standing =>
      { e with standing }.tell .dialogue (e.standing.news m)
  | .begin =>
    match e.standing.rest, e.relay with
    | .ask (.relay _) _, none => some { e with relay := some {} }
    | _, _ => none
  | .relay event => do
    let r ← e.relay
    let (r, actions) ← r.step event
    return { e with relay := some r }.tell .relay (actions.filterMap (relayNote c))
  | .resume =>
    match e.standing.rest with
    | .ask (.relay ahead) _ => do
      let r ← e.relay
      let relayed ← r.result?
      let standing ← e.standing.step (.answer ⟨.relay ahead, relayed⟩)
      return { e with standing }
    | _ => none

/-- What happens one thing after the other, if it can happen. -/
def run (c : Context) (e : Ensemble σ τ) (cues : List (Cue σ τ)) : Option (Ensemble σ τ) :=
  cues.foldlM (step c) e

end Ensemble

end Wiretap.Session
