import Wiretap.Observer.Hook

/-!
# Executors that misbehave

An executor with a conduct chosen in advance shows that nothing it does reaches the connections: it
can be quiet, panic in one hook or in all, or reject every start.
-/

namespace Wiretap.Rehearsal

set_option autoImplicit false

open Observer (Executor HookCall HookEnding)

/-- How an executor answers its calls. -/
inductive Conduct where
  | quiet
  /-- It panics in every hook. -/
  | panics
  /-- It panics in the hook of that name. -/
  | panicsIn (callback : String)
  /-- It rejects every start. -/
  | rejects (why : String)
  deriving DecidableEq, Repr

namespace Conduct

/-- How a call ends. -/
def ending (call : HookCall) : Conduct → HookEnding
  | quiet => .returned
  | panics => .panicked
  | panicsIn callback => if call.callback = callback then .panicked else .returned
  | rejects why => if call = .started then .rejected why else .returned

/-- The executor with that conduct. -/
def executor (c : Conduct) : Executor where
  respond _ _ call := { ending := c.ending call }

end Conduct

end Wiretap.Rehearsal
