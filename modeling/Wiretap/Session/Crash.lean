import Wiretap.Session.Attend

/-!
# Processors that panic

A processor may panic at any turn of its dialogue.  The panic is caught behind the processor, and the
connection goes on as behind any other fault.
-/

namespace Wiretap.Session

set_option autoImplicit false

namespace Dialogue

/-- The first turns of a dialogue, and then an end with this value, unless it has ended before. -/
def cutShort {α : Type} (a : α) : (turns : Nat) → Dialogue α → Dialogue α
  | _, finish b => finish b
  | 0, _ => finish a
  | turns + 1, tell n rest => tell n (rest.cutShort a turns)
  | turns + 1, ask q next => ask q fun x => (next x).cutShort a turns

end Dialogue

/-- What comes of a processor that panics behind so many turns, if it does. -/
def caught (panic : Option Nat) (p : Protocol) (d : Dialogue (Except Fault Unit)) :
    Dialogue (Except Fault Unit) :=
  match panic with
  | none => d
  | some turns => d.cutShort (.error (.crashed p.name)) turns

/-- Serves a connection whose opening is known, by a processor that may panic. -/
def serveOpeningCaught (panic : Option Nat) (c : Context) (o : Opening) : Dialogue Outcome := do
  match o.protocol? with
  | none =>
    Dialogue.note (.log { level := .debug, message := "Peer closed before sending any data" })
    return ⟨none, none⟩
  | some p =>
    c.announce .debug s!"dispatched to {p.name} processor"
    let result ← caught panic p (serve c o).run
    return ⟨some p, faultOf result⟩

/-- Serves a connection by a processor that may panic. -/
def dispatchCaught (panic : Option Nat) (c : Context) : Dialogue Outcome := do
  match ← sniff.run with
  | .ok o => serveOpeningCaught panic c o
  | .error f =>
    if isUnreadable f then
      let _ ← rejectUnreadable.run
    return ⟨none, some f⟩

/-- Without a panic this is how a connection is served. -/
theorem dispatchCaught_none (c : Context) : dispatchCaught none c = dispatch c := rfl

/-- Attends a connection whose processor may panic. -/
def attendCaught (panic : Option Nat) (c : Context) : Dialogue Outcome :=
  attendWith c (dispatchCaught panic c)

end Wiretap.Session
