import Wiretap.Session.Context

/-!
# What holds of a dialogue

A dialogue is followed with something kept of it: what the streams have come to, what has been
answered, what observers have been told.  A logic says what must hold of that for a note to be told
or a question to be asked, so that a property holds of it behind (`Logic`).  A dialogue holds if all
this holds along every way through it, up to its end (`Dialogue.Holds`), which is decided piece by
piece: a bind holds if its first part does, where the rest holds behind it (`Dialogue.holds_bind`,
`Task.holds_bind`).

The simplest logic keeps nothing and limits what may be told and asked at all (`Dialogue.Within`).
A stage that every note and every question within the limits keeps is kept by the whole dialogue
(`Dialogue.holds_of_within`), whatever logic it is a stage of.
-/

namespace Wiretap.Session

set_option autoImplicit false

/-- What telling a note and asking a question need, for something to hold behind them. -/
structure Logic (κ : Type) where
  tells : Note → (κ → Prop) → κ → Prop
  asks : (q : Question) → (q.Answer → κ → Prop) → κ → Prop
  tells_mono : ∀ {n : Note} {p p' : κ → Prop} {k : κ}, tells n p k →
    (∀ k, p k → p' k) → tells n p' k
  asks_mono : ∀ {q : Question} {p p' : q.Answer → κ → Prop} {k : κ}, asks q p k →
    (∀ a k, p a k → p' a k) → asks q p' k

variable {α β κ : Type} {L : Logic κ} {k : κ}

namespace Dialogue

/-- Along every way through the dialogue the logic's demands are met, and its end is as it should
be. -/
def Holds (L : Logic κ) (ends : α → κ → Prop) : Dialogue α → κ → Prop
  | finish a => ends a
  | tell n rest => L.tells n (rest.Holds L ends)
  | ask q next => L.asks q fun a => (next a).Holds L ends

/-- **The first part of a bind must end where the rest can hold.** -/
theorem holds_bind {ends : β → κ → Prop} {d : Dialogue α} {f : α → Dialogue β} :
    (d >>= f).Holds L ends k ↔ d.Holds L (fun a => (f a).Holds L ends) k := by
  have same : (d.bind f).Holds L ends = d.Holds L (fun a => (f a).Holds L ends) := by
    induction d with
    | finish a => rfl
    | tell n rest ih => exact congrArg (L.tells n) ih
    | ask q next ih => exact congrArg (L.asks q) (funext ih)
  exact Iff.of_eq (congrFun same k)

/-- An end that is as it should be may be asked for less. -/
theorem Holds.mono {ends ends' : α → κ → Prop} {d : Dialogue α} (holds : d.Holds L ends k)
    (weaker : ∀ a k, ends a k → ends' a k) : d.Holds L ends' k := by
  induction d generalizing k with
  | finish a => exact weaker a k holds
  | tell n rest ih => exact L.tells_mono holds fun _ => ih
  | ask q next ih => exact L.asks_mono holds fun a _ => ih a

theorem Holds.bind {middle : α → κ → Prop} {ends : β → κ → Prop} {d : Dialogue α}
    {f : α → Dialogue β} (first : d.Holds L middle k)
    (rest : ∀ a k, middle a k → (f a).Holds L ends k) : (d >>= f).Holds L ends k :=
  holds_bind.mpr (first.mono rest)

theorem holds_pure {ends : α → κ → Prop} {a : α} :
    (pure a : Dialogue α).Holds L ends k ↔ ends a k := Iff.rfl

theorem holds_note {ends : Unit → κ → Prop} {n : Note} :
    (note n).Holds L ends k ↔ L.tells n (ends ()) k := Iff.rfl

/-- Notes that change nothing need nothing, however many there are. -/
theorem holds_notes {γ : Type} {ends : Unit → κ → Prop} {f : γ → Note}
    (idle : ∀ x p, L.tells (f x) p k ↔ p k) (xs : List γ) :
    (xs.forM fun x => note (f x)).Holds L ends k ↔ ends () k := by
  induction xs with
  | nil => exact Iff.rfl
  | cons x xs ih => exact (idle x _).trans ih

end Dialogue

theorem Context.holds_announce {ends : Unit → κ → Prop} {c : Context} {level : Observer.Level}
    {message : String} (idle : ∀ entry p, L.tells (.log entry) p k ↔ p k) :
    (c.announce level message).Holds L ends k ↔ ends () k :=
  Dialogue.holds_notes idle _

namespace Task

/-- The same for a task, which may be done or end with a fault. -/
def Holds (L : Logic κ) (done : α → κ → Prop) (failed : Fault → κ → Prop) (t : Task α) :
    κ → Prop :=
  t.run.Holds L fun r => match r with
    | .ok a => done a
    | .error f => failed f

variable {done : α → κ → Prop} {failed : Fault → κ → Prop}

theorem holds_run {ends : Except Fault α → κ → Prop} {t : Task α} :
    t.run.Holds L ends k ↔ Holds L (fun a => ends (.ok a)) (fun f => ends (.error f)) t k := by
  have same : ends = fun r => match r with
      | .ok a => ends (.ok a)
      | .error f => ends (.error f) := by
    funext r
    cases r <;> rfl
  rw [Holds, ← same]

theorem Holds.mono {done' : α → κ → Prop} {failed' : Fault → κ → Prop} {t : Task α}
    (holds : Holds L done failed t k) (ok : ∀ a k, done a k → done' a k)
    (error : ∀ f k, failed f k → failed' f k) : Holds L done' failed' t k := by
  refine Dialogue.Holds.mono holds fun r k => ?_
  cases r with
  | ok a => exact ok a k
  | error f => exact error f k

theorem holds_bind {done : β → κ → Prop} {t : Task α} {f : α → Task β} :
    Holds L done failed (t >>= f) k ↔ Holds L (fun a => Holds L done failed (f a)) failed t k := by
  rw [Holds, ExceptT.run_bind, Dialogue.holds_bind, holds_run]
  exact Iff.rfl

theorem holds_pure {a : α} : Holds L done failed (pure a : Task α) k ↔ done a k := Iff.rfl

theorem holds_throw {f : Fault} : Holds L done failed (throw f : Task α) k ↔ failed f k := Iff.rfl

theorem holds_get {r : Except Fault α} :
    Holds L done failed (get r) k ↔
      match r with
      | .ok a => done a k
      | .error f => failed f k := by
  cases r <;> exact Iff.rfl

theorem holds_ask {q : Question} {done : q.Answer → κ → Prop} :
    Holds L done failed (ask q) k ↔ L.asks q done k := Iff.rfl

theorem holds_tell {done : Unit → κ → Prop} {n : Note} :
    Holds L done failed (tell n) k ↔ L.tells n (done ()) k := Iff.rfl

theorem holds_report {done : Unit → κ → Prop} {c : Context} {level : Observer.Level}
    {message : String} (idle : ∀ entry p, L.tells (.log entry) p k ↔ p k) :
    Holds L done failed (c.report level message) k ↔ done () k := by
  have lift : (c.report level message).run =
      c.announce level message >>= fun u => pure (Except.ok u) := rfl
  rw [Holds, lift, Dialogue.holds_bind, Context.holds_announce idle]
  exact Iff.rfl

end Task

/-! The lemmas above say all there is to say of a task; to unfold one would be to perform it. -/

attribute [irreducible] Task.Holds

/-! ## Limits -/

/-- What may be told and what may be asked. -/
structure Limits where
  tells : Note → Bool := fun _ => true
  asks : Question → Bool := fun _ => true

/-- The logic that keeps nothing. -/
def Limits.logic (limits : Limits) : Logic Unit where
  tells n p k := limits.tells n ∧ p k
  asks q p k := limits.asks q ∧ ∀ a, p a k
  tells_mono holds weaker := ⟨holds.1, weaker _ holds.2⟩
  asks_mono holds weaker := ⟨holds.1, fun a => weaker a _ (holds.2 a)⟩

variable {limits : Limits}

namespace Dialogue

/-- Whatever is answered, nothing is told or asked but what may be. -/
def Within (limits : Limits) (d : Dialogue α) : Prop := d.Holds limits.logic (fun _ _ => True) ()

theorem Within.bind {d : Dialogue α} {f : α → Dialogue β} (first : d.Within limits)
    (rest : ∀ a, (f a).Within limits) : (d >>= f).Within limits :=
  Holds.bind first fun a _ _ => rest a

/-- Without limits anything may be told and asked. -/
theorem within_free (d : Dialogue α) : d.Within {} := by
  induction d with
  | finish a => trivial
  | tell n rest ih => exact ⟨rfl, ih⟩
  | ask q next ih => exact ⟨rfl, ih⟩

/-- **A stage that all keep that may be told and asked is kept by the dialogue.** -/
theorem holds_of_within {stage : κ → Prop} {d : Dialogue α} (within : d.Within limits)
    (tells : ∀ n k, limits.tells n → stage k → L.tells n stage k)
    (asks : ∀ q k, limits.asks q → stage k → L.asks q (fun _ => stage) k) (here : stage k) :
    d.Holds L (fun _ => stage) k := by
  induction d generalizing k with
  | finish a => exact here
  | tell n rest ih => exact L.tells_mono (tells n k within.1 here) fun _ => ih within.2
  | ask q next ih => exact L.asks_mono (asks q k within.1 here) fun a _ => ih a (within.2 a)

end Dialogue

theorem Context.within_announce (logs : ∀ entry, limits.tells (.log entry)) (c : Context)
    (level : Observer.Level) (message : String) : (c.announce level message).Within limits :=
  (Context.holds_announce fun entry _ => and_iff_right (logs entry)).mpr trivial

namespace Task

/-- The same for a task. -/
def Within (limits : Limits) (t : Task α) : Prop :=
  Holds limits.logic (fun _ _ => True) (fun _ _ => True) t ()

theorem within_run {t : Task α} : t.run.Within limits ↔ Within limits t := holds_run

theorem Within.bind {t : Task α} {f : α → Task β} (first : Within limits t)
    (rest : ∀ a, Within limits (f a)) : Within limits (t >>= f) :=
  holds_bind.mpr (Holds.mono first (fun a _ _ => rest a) fun _ _ _ => trivial)

theorem within_pure (a : α) : Within limits (pure a : Task α) := holds_pure.mpr trivial

theorem within_throw (f : Fault) : Within limits (throw f : Task α) := holds_throw.mpr trivial

theorem within_get (r : Except Fault α) : Within limits (get r) := by
  cases r <;> exact holds_get.mpr trivial

theorem within_ask {q : Question} (may : limits.asks q) : Within limits (ask q) :=
  holds_ask.mpr ⟨may, fun _ => trivial⟩

theorem within_tell {n : Note} (may : limits.tells n) : Within limits (tell n) :=
  holds_tell.mpr ⟨may, trivial⟩

theorem within_report (logs : ∀ entry, limits.tells (.log entry)) (c : Context)
    (level : Observer.Level) (message : String) : Within limits (c.report level message) :=
  (holds_report fun entry _ => and_iff_right (logs entry)).mpr trivial

theorem holds_of_within {stage : κ → Prop} {t : Task α} (within : Within limits t)
    (tells : ∀ n k, limits.tells n → stage k → L.tells n stage k)
    (asks : ∀ q k, limits.asks q → stage k → L.asks q (fun _ => stage) k) (here : stage k) :
    Holds L (fun _ => stage) (fun _ => stage) t k :=
  holds_run.mp (Dialogue.holds_of_within (within_run.mpr within) tells asks here)

end Task

end Wiretap.Session
