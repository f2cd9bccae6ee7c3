import Wiretap.Observer.Hook

/-!
# The handle of an executor

A callback that panics takes down the code that called it, and what stands behind the call is not
done.  Connections therefore call an executor through a handle, which catches a panic and goes on.
-/

namespace Wiretap.Observer

set_option autoImplicit false

/-- How a piece of code ends that may panic. -/
inductive Ended (α : Type) where
  | returned (a : α)
  | panicked
  deriving DecidableEq, Repr

/-- What a piece of code comes to: what it wrote to the log, and how it ended. -/
structure Conclusion (α : Type) where
  logs : List Log
  ended : Ended α
  deriving DecidableEq, Repr

namespace Executor

/-- A callback of the executor itself, which may reject what it is told. -/
def invoke (e : Executor) (history : List (Peer × HookCall)) (peer : Peer) (c : HookCall) :
    Conclusion (Except String Unit) :=
  let reaction := e.respond history peer c
  ⟨reaction.logs, match reaction.ending with
    | .returned => .returned (.ok ())
    | .rejected why => .returned (.error why)
    | .panicked => .panicked⟩

/-- Goes on behind a callback that panicked, with an entry in the log and no result. -/
def catchPanic {α : Type} (peer : Peer) (c : HookCall) (x : Conclusion α) :
    Conclusion (Option α) :=
  match x.ended with
  | .returned a => ⟨x.logs, .returned (some a)⟩
  | .panicked => ⟨x.logs ++ contain peer c .panicked, .returned none⟩

/-- Makes a call through the handle. -/
def deliver (e : Executor) (history : List (Peer × HookCall)) (peer : Peer) (c : HookCall) :
    Conclusion Unit :=
  if c.isMade then
    let x := catchPanic peer c (e.invoke history peer c)
    match x.ended with
    | .returned (some (.error why)) => ⟨x.logs ++ contain peer c (.rejected why), .returned ()⟩
    | .returned _ => ⟨x.logs, .returned ()⟩
    | .panicked => ⟨x.logs, .panicked⟩
  else ⟨[], .returned ()⟩

/-- The calls that an executor has had behind another one, the last one first. -/
def remember (history : List (Peer × HookCall)) (peer : Peer) (c : HookCall) :
    List (Peer × HookCall) :=
  if c.isMade then (peer, c) :: history else history

end Executor

end Wiretap.Observer
