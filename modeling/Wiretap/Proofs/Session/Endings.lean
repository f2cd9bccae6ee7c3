import Wiretap.Proofs.Session.Chronicle

/-!
# How dialogues end

What a dialogue has come to at its end is told by its account: the ledger of its streams, what has
been answered, and what has been counted.  A dialogue ends with a property if every account at its
end has it, whatever was answered; that is a logic which keeps the account (`accounting`), where
nothing but a metric changes what has been counted.  Every performance that has come to its end has
such an account (`Standing.ends_of_run`), and what it has counted is what a record of it has, with an
executor of hooks or without (`Standing.counted_noted`).
-/

namespace Wiretap.Session

set_option autoImplicit false

open Observer (Executor Metric Peer)
open Transport (ByteStream LawfulStream traffic)

variable {α β : Type}

/-! ## What is counted -/

/-- The metric that a note counts. -/
def Note.metric? : Note → Option Metric
  | .metric m => some m
  | _ => none

namespace Standing

variable {σ τ : Type}

/-- What has been counted, the last metric first. -/
def counted (s : Standing σ τ α) : List Metric := s.told.filterMap Note.metric?

/-- What observers have of a performance, with an executor of hooks or without. -/
def noted (executor : Option Executor) (peer : Peer) (s : Standing σ τ α) : Record :=
  s.told.foldr (fun n r => r.note executor peer n) {}

end Standing

theorem Record.counted_note_eq (executor : Option Executor) (peer : Peer) (r : Record) (n : Note) :
    (r.note executor peer n).counted = r.counted ++ n.metric?.toList := by
  cases n with
  | log => exact (List.append_nil _).symm
  | metric m => rfl
  | hook call => cases executor <;> exact (List.append_nil _).symm

/-- **Observers count every metric that is told, in order**, whatever an executor of hooks does. -/
theorem Standing.counted_noted {σ τ : Type} (executor : Option Executor) (peer : Peer)
    (s : Standing σ τ α) : (s.noted executor peer).counted = s.counted.reverse := by
  rw [noted, counted]
  induction s.told with
  | nil => rfl
  | cons n told ih =>
    rw [List.foldr_cons, Record.counted_note_eq, ih, List.filterMap_cons]
    cases n.metric? with
    | none => exact List.append_nil _
    | some m => exact List.reverse_cons.symm

/-! ## Accounts -/

/-- What a dialogue has come to. -/
structure Account where
  ledger : Ledger
  /-- The questions that have been answered, the last one first. -/
  past : List Answered := []
  /-- What has been counted, the last metric first. -/
  counted : List Metric := []

namespace Account

def tell (acc : Account) (n : Note) : Account :=
  { acc with counted := n.metric?.toList ++ acc.counted }

def answer (acc : Account) (x : Answered) (ledger : Ledger) : Account :=
  { acc with ledger, past := x :: acc.past }

theorem tell_uncounted {n : Note} (none : n.metric? = none) (acc : Account) : acc.tell n = acc := by
  rw [tell, none]
  rfl

/-- The account behind some answers and some notes. -/
def behind (l : Ledger) (past : List Answered) (told : List Note) : Account :=
  ⟨l, past, told.filterMap Note.metric?⟩

theorem tell_behind (l : Ledger) (past : List Answered) (told : List Note) (n : Note) :
    (behind l past told).tell n = behind l past (n :: told) := by
  rw [tell, behind, behind, List.filterMap_cons]
  cases n.metric? <;> rfl

end Account

/-- The logic that keeps an account. -/
def accounting : Logic Account where
  tells n p acc := p (acc.tell n)
  asks q p acc := ∀ a l, Settles q a acc.ledger l → p a (acc.answer ⟨q, a⟩ l)
  tells_mono holds weaker := weaker _ holds
  asks_mono holds weaker := fun a l settles => weaker a _ (holds a l settles)

variable {acc : Account}

/-- A note that counts nothing changes nothing. -/
theorem accounting_uncounted {n : Note} (none : n.metric? = none) (p : Account → Prop) :
    accounting.tells n p acc ↔ p acc := by
  change p (acc.tell n) ↔ p acc
  rw [Account.tell_uncounted none]

theorem Context.endsWith_announce {ends : Unit → Account → Prop} {c : Context}
    {level : Observer.Level} {message : String} :
    (c.announce level message).Holds accounting ends acc ↔ ends () acc :=
  Context.holds_announce fun _ => accounting_uncounted rfl

theorem Dialogue.endsWith_note {ends : Unit → Account → Prop} {n : Note} :
    (note n).Holds accounting ends acc ↔ ends () (acc.tell n) := holds_note

namespace Task

variable {done : α → Account → Prop} {failed : Fault → Account → Prop}

theorem endsWith_ask {q : Question} {done : q.Answer → Account → Prop} :
    Holds accounting done failed (ask q) acc ↔
      ∀ a l, Settles q a acc.ledger l → done a (acc.answer ⟨q, a⟩ l) := holds_ask

theorem endsWith_tell {done : Unit → Account → Prop} {n : Note} :
    Holds accounting done failed (tell n) acc ↔ done () (acc.tell n) := holds_tell

theorem endsWith_report {done : Unit → Account → Prop} {c : Context} {level : Observer.Level}
    {message : String} :
    Holds accounting done failed (c.report level message) acc ↔ done () acc :=
  holds_report fun _ => accounting_uncounted rfl

end Task

/-- What holds of a past and is kept by every answer to such a question holds at the end of a
task that asks no others. -/
theorem Task.endsWith_of_asks {may : Question → Bool} {stage : List Answered → Prop} {t : Task α}
    (asks : Task.Asks may t)
    (keeps : ∀ q a past, may q → stage past → stage (⟨q, a⟩ :: past)) (here : stage acc.past) :
    Task.Holds accounting (fun _ acc => stage acc.past) (fun _ acc => stage acc.past) t acc :=
  Task.holds_of_within asks (fun _ _ _ here => here)
    (fun q acc one here a _ _ => keeps q a acc.past one here) here

/-! ## The account of a run -/

theorem Dialogue.Leads.endsWith {d rest : Dialogue α} {ends : α → Account → Prop}
    {opening l : Ledger} {past : List Answered} {told : List Note} (leads : d.Leads past told rest)
    (brings : Brings opening past l) (endsWith : d.Holds accounting ends { ledger := opening }) :
    rest.Holds accounting ends (.behind l past told) :=
  leads.holds (L := accounting) Account.behind
    (fun n _ l past told holds => Account.tell_behind l past told n ▸ holds)
    (fun _ _ _ _ _ holds => holds) brings endsWith

namespace Standing

variable {σ τ : Type} [ByteStream σ] [ByteStream τ] [LawfulStream σ] [LawfulStream τ]
  {bufferSize : Nat} {stream : σ} {d : Dialogue α} {moves : List (Move σ τ)} {s : Standing σ τ α}
  {a : α}

/-- **Every performance that has come to its end has ended as its dialogue does**, and the streams
are where the last answer has left them. -/
theorem ends_of_run {ends : α → Account → Prop}
    (endsWith : d.Holds accounting ends { ledger := .opening bufferSize (traffic stream) })
    (ran : (start bufferSize stream d).run moves = some s) (ended : s.rest = .finish a) :
    ∃ l, l.Rests s.post.ledger ∧ ends a ⟨l, s.past, s.counted⟩ := by
  obtain ⟨l, brings, stands⟩ := brings_of_run ran
  have last := (leads_of_run .here ran).endsWith brings endsWith
  rw [ended] at last
  exact ⟨l, stands.rests_of_ended (by rw [ended]; rfl), last⟩

end Standing

end Wiretap.Session
