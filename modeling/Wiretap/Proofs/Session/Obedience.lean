import Wiretap.Proofs.Session.Ledger
import Wiretap.Proofs.Session.Logic

/-!
# Dialogues that obey a rule

A rule says which questions may be asked, given what the streams have come to and what has been
answered before, and which answers are reckoned with.  A dialogue obeys it if every question that it
comes to is asked as the rule says, and its end is as it should be, whatever the answers and
whatever they leave of the streams (`Dialogue.Obeys`).  That is a logic which keeps a ledger and the
answers (`Rule.logic`), so obedience is decided piece by piece along the dialogue.
-/

namespace Wiretap.Session

set_option autoImplicit false

/-- What is asked of a dialogue. -/
structure Rule where
  /-- When a question may be asked, behind the answers given so far, the last one first. -/
  asks : Question → Ledger → List Answered → Prop
  /-- The answers that are reckoned with. -/
  allows : Answered → Prop

/-- The logic that keeps the ledger of the streams, and what has been answered. -/
def Rule.logic (rule : Rule) : Logic (Ledger × List Answered) where
  tells _ p := p
  asks q p k := rule.asks q k.1 k.2 ∧
    ∀ a l, rule.allows ⟨q, a⟩ → Settles q a k.1 l → p a (l, ⟨q, a⟩ :: k.2)
  tells_mono holds weaker := weaker _ holds
  asks_mono holds weaker :=
    ⟨holds.1, fun a l allowed settles => weaker a _ (holds.2 a l allowed settles)⟩

variable {α β : Type} {rule : Rule} {l : Ledger} {past : List Answered}

namespace Dialogue

/-- Whatever is answered, questions are asked as the rule says, and the end is as it should be. -/
def Obeys (rule : Rule) (ends : α → Ledger → List Answered → Prop) (d : Dialogue α) (l : Ledger)
    (past : List Answered) : Prop :=
  d.Holds rule.logic (fun a k => ends a k.1 k.2) (l, past)

theorem obeys_bind {ends : β → Ledger → List Answered → Prop} {d : Dialogue α}
    {f : α → Dialogue β} :
    (d >>= f).Obeys rule ends l past ↔ d.Obeys rule (fun a => (f a).Obeys rule ends) l past :=
  holds_bind

theorem obeys_note {ends : Unit → Ledger → List Answered → Prop} {n : Note} :
    (note n).Obeys rule ends l past ↔ ends () l past := holds_note

theorem obeys_pure {ends : α → Ledger → List Answered → Prop} {a : α} :
    (pure a : Dialogue α).Obeys rule ends l past ↔ ends a l past := holds_pure

/-- What holds at the end, and wherever something is asked, holds on the way there. -/
theorem Obeys.now {ends : α → Ledger → List Answered → Prop} {d : Dialogue α} {P : Prop}
    (obeys : d.Obeys rule ends l past) (done : ∀ a, ends a l past → P)
    (asked : ∀ q, rule.asks q l past → P) : P := by
  induction d with
  | finish a => exact done a obeys
  | tell n rest ih => exact ih obeys
  | ask q next => exact asked q obeys.1

end Dialogue

theorem Context.obeys_announce {ends : Unit → Ledger → List Answered → Prop} {c : Context}
    {level : Observer.Level} {message : String} :
    (c.announce level message).Obeys rule ends l past ↔ ends () l past :=
  Context.holds_announce fun _ _ => Iff.rfl

namespace Task

/-- The same for a task, which may be done or end with a fault. -/
def Obeys (rule : Rule) (done : α → Ledger → List Answered → Prop)
    (failed : Fault → Ledger → List Answered → Prop) (t : Task α) (l : Ledger)
    (past : List Answered) : Prop :=
  Holds rule.logic (fun a k => done a k.1 k.2) (fun f k => failed f k.1 k.2) t (l, past)

variable {done : α → Ledger → List Answered → Prop} {failed : Fault → Ledger → List Answered → Prop}

theorem obeys_run {ends : Except Fault α → Ledger → List Answered → Prop} {t : Task α} :
    t.run.Obeys rule ends l past ↔
      Obeys rule (fun a => ends (.ok a)) (fun f => ends (.error f)) t l past := holds_run

theorem Obeys.mono {done' : α → Ledger → List Answered → Prop}
    {failed' : Fault → Ledger → List Answered → Prop} {t : Task α}
    (obeys : Obeys rule done failed t l past) (ok : ∀ a l past, done a l past → done' a l past)
    (error : ∀ f l past, failed f l past → failed' f l past) :
    Obeys rule done' failed' t l past :=
  Holds.mono obeys (fun a k => ok a k.1 k.2) fun f k => error f k.1 k.2

theorem obeys_bind {done : β → Ledger → List Answered → Prop} {t : Task α} {f : α → Task β} :
    Obeys rule done failed (t >>= f) l past ↔
      Obeys rule (fun a => Obeys rule done failed (f a)) failed t l past := holds_bind

theorem obeys_pure {a : α} : Obeys rule done failed (pure a : Task α) l past ↔ done a l past :=
  holds_pure

theorem obeys_throw {f : Fault} :
    Obeys rule done failed (throw f : Task α) l past ↔ failed f l past := holds_throw

theorem obeys_get {r : Except Fault α} :
    Obeys rule done failed (get r) l past ↔
      match r with
      | .ok a => done a l past
      | .error f => failed f l past := by
  cases r <;> exact holds_get

theorem obeys_ask {q : Question} {done : q.Answer → Ledger → List Answered → Prop} :
    Obeys rule done failed (ask q) l past ↔
      rule.asks q l past ∧
        ∀ a l', rule.allows ⟨q, a⟩ → Settles q a l l' → done a l' (⟨q, a⟩ :: past) := holds_ask

theorem obeys_tell {done : Unit → Ledger → List Answered → Prop} {n : Note} :
    Obeys rule done failed (tell n) l past ↔ done () l past := holds_tell

theorem obeys_report {done : Unit → Ledger → List Answered → Prop} {c : Context}
    {level : Observer.Level} {message : String} :
    Obeys rule done failed (c.report level message) l past ↔ done () l past :=
  holds_report fun _ _ => Iff.rfl

end Task

end Wiretap.Session
