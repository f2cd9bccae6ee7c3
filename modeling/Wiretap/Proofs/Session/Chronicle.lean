import Wiretap.Proofs.Session.Questions
import Wiretap.Proofs.Session.Runs
import Wiretap.Session.Record

/-!
# Chronicles

What a performance has come to is told by its chronicle: the ledger of its streams, what has been
answered, and the payloads that observers have been shown.  A dialogue upholds a law if the law
holds of every chronicle that it comes to, whatever is answered; that is a logic which keeps the
chronicle (`upholding`).  What is left of a performed dialogue is where its answers lead
(`Standing.leads_of_run`), and every answer has brought the ledger on (`Standing.brings_of_run`).
What is kept by any logic along the answers is therefore as it should be throughout every run
(`Dialogue.Leads.holds`), and a law that a dialogue upholds holds throughout
(`Standing.upholds_of_run`).

The payloads shown are those that an executor of hooks is called with, whatever it does
(`Standing.payloads_record`).
-/

namespace Wiretap.Session

set_option autoImplicit false

open Observer (Direction Executor HookCall Peer)
open Transport (ByteStream LawfulStream traffic)

variable {σ τ α β : Type}

/-! ## What observers are shown -/

/-- The payload that a note shows. -/
def Note.shown? : Note → Option (Direction × Bytes)
  | .hook (.packet d data) => some (d, data)
  | _ => none

/-- The payloads that went one way, the last one first. -/
def payloads (d : Direction) (shown : List (Direction × Bytes)) : List Bytes :=
  (shown.filter (·.1 = d)).map (·.2)

/-- What has been told of the traffic, the last payload first. -/
def Standing.shown (s : Standing σ τ α) : List (Direction × Bytes) := s.told.filterMap Note.shown?

namespace Record

/-- The payloads of one direction that an executor was called with, in order. -/
def payloads (r : Record) (d : Direction) : List Bytes :=
  r.calls.filterMap fun
    | .packet way data => if way = d then some data else none
    | _ => none

end Record

/-- What an executor has seen of a performance. -/
def Standing.record (executor : Executor) (peer : Peer) (s : Standing σ τ α) : Record :=
  s.told.foldr (fun n r => r.note (some executor) peer n) {}

/-- An executor that is called has been called once more, whatever it does. -/
theorem Record.calls_hook (executor : Executor) (peer : Peer) (r : Record) (c : HookCall) :
    (r.note (some executor) peer (.hook c)).calls =
      r.calls ++ if c.isMade then [c] else [] := by
  simp only [Record.note, Record.calls, Executor.call]
  split <;> simp

theorem Record.payloads_note (executor : Executor) (peer : Peer) (r : Record) (d : Direction)
    (n : Note) :
    (r.note (some executor) peer n).payloads d =
      r.payloads d ++ (Session.payloads d n.shown?.toList).filter (!·.isEmpty) := by
  cases n with
  | log | metric => exact (List.append_nil _).symm
  | hook c =>
    rw [Record.payloads, Record.calls_hook, List.filterMap_append]
    refine congrArg (r.payloads d ++ ·) ?_
    cases c with
    | packet way data =>
      by_cases same : way = d <;> cases data <;>
        simp [HookCall.isMade, Note.shown?, Session.payloads, same]
    | _ => rfl

/-- **An executor is called with the payloads that were shown**, but for empty ones. -/
theorem Standing.payloads_record (executor : Executor) (peer : Peer) (s : Standing σ τ α)
    (d : Direction) :
    (s.record executor peer).payloads d =
      (payloads d s.shown).reverse.filter (!·.isEmpty) := by
  rw [Standing.record, Standing.shown]
  induction s.told with
  | nil => rfl
  | cons n told ih =>
    have one :
        (n :: told).filterMap Note.shown? = n.shown?.toList ++ told.filterMap Note.shown? := by
      rw [List.filterMap_cons]
      cases n.shown? <;> rfl
    have single : (payloads d n.shown?.toList).reverse = payloads d n.shown?.toList := by
      cases n.shown? with
      | none => rfl
      | some x => by_cases same : x.1 = d <;> simp [payloads, same]
    rw [List.foldr_cons, Record.payloads_note, ih, one, payloads, payloads, payloads,
      List.filter_append, List.map_append, List.reverse_append, List.filter_append]
    exact congrArg _ (congrArg _ single.symm)

/-- A payload that is not empty has been seen. -/
theorem Standing.payloads_record_singleton {s : Standing σ τ α} {d : Direction} {data : Bytes}
    (shown : payloads d s.shown = [data]) (some : data ≠ []) (executor : Executor) (peer : Peer) :
    (s.record executor peer).payloads d = [data] := by
  rw [payloads_record, shown]
  simpa using some

/-! ## Chronicles -/

deriving instance DecidableEq for Reading, Received

/-- Answers to a question can be compared. -/
instance (q : Question) : DecidableEq q.Answer :=
  match q with
  | .firstByte => inferInstanceAs (DecidableEq (Reading (Option UInt8)))
  | .head => inferInstanceAs (DecidableEq (Reading Message.HeadEnd))
  | .greeting | .body _ => inferInstanceAs (DecidableEq (Reading Bytes))
  | .reply _ | .rawReply _ | .dial _ => inferInstanceAs (DecidableEq (Reading Unit))
  | .refusal _ | .sendAhead _ | .close => inferInstanceAs (DecidableEq (Except IoFault Unit))
  | .detach => inferInstanceAs (DecidableEq (Except IoFault Bytes))
  | .carry => inferInstanceAs (DecidableEq Carried)
  | .exchange _ => inferInstanceAs (DecidableEq (Received ResponseHead))
  | .responseBody => inferInstanceAs (DecidableEq (Received Bytes))
  | .freshKey => inferInstanceAs (DecidableEq Bytes)
  | .upgrade _ => inferInstanceAs (DecidableEq Upgraded)
  | .relay _ => inferInstanceAs (DecidableEq (WebSocket.Relayed))
  | .elapsed => inferInstanceAs (DecidableEq Nat)

deriving instance DecidableEq for Answered

/-- What a performance has come to. -/
structure Chronicle where
  ledger : Ledger
  /-- The questions that have been answered, the last one first. -/
  past : List Answered := []
  /-- What observers have been shown, the last payload first. -/
  shown : List (Direction × Bytes) := []

namespace Chronicle

def tell (c : Chronicle) (n : Note) : Chronicle := { c with shown := n.shown?.toList ++ c.shown }

def answer (c : Chronicle) (x : Answered) (ledger : Ledger) : Chronicle :=
  { c with ledger, past := x :: c.past }

theorem tell_silent {n : Note} (silent : n.shown? = none) (c : Chronicle) : c.tell n = c := by
  rw [tell, silent]
  rfl

/-- The chronicle behind some answers and some notes. -/
def behind (l : Ledger) (past : List Answered) (told : List Note) : Chronicle :=
  ⟨l, past, told.filterMap Note.shown?⟩

theorem tell_behind (l : Ledger) (past : List Answered) (told : List Note) (n : Note) :
    (behind l past told).tell n = behind l past (n :: told) := by
  rw [tell, behind, behind, List.filterMap_cons]
  cases n.shown? <;> rfl

end Chronicle

/-- What a dialogue does next. -/
inductive Turn where
  | telling
  | asking (q : Question)
  | ended

/-- What is to hold at every turn of a dialogue. -/
abbrev Law : Type := Turn → Chronicle → Prop

variable {law : Law} {ch : Chronicle}

namespace Dialogue

/-- What the dialogue does next. -/
def turn : Dialogue α → Turn
  | finish _ => .ended
  | tell _ _ => .telling
  | ask q _ => .asking q

/-- What the dialogue does behind its next notes. -/
def next : Dialogue α → Turn
  | finish _ => .ended
  | tell _ rest => rest.next
  | ask q _ => .asking q

theorem next_ne_telling (d : Dialogue α) : d.next ≠ .telling := by
  induction d with
  | tell n rest ih => exact ih
  | _ => nofun

end Dialogue

/-- The logic that keeps a chronicle, of which a law holds at every turn. -/
def upholding (law : Law) : Logic Chronicle where
  tells n p c := law .telling c ∧ p (c.tell n)
  asks q p c := law (.asking q) c ∧ ∀ a l, Settles q a c.ledger l → p a (c.answer ⟨q, a⟩ l)
  tells_mono holds weaker := ⟨holds.1, weaker _ holds.2⟩
  asks_mono holds weaker := ⟨holds.1, fun a l settles => weaker a _ (holds.2 a l settles)⟩

/-- A note that shows nothing changes nothing. -/
theorem upholding_silent {n : Note} (silent : n.shown? = none) (here : law .telling ch)
    (p : Chronicle → Prop) : (upholding law).tells n p ch ↔ p ch := by
  change law .telling ch ∧ p (ch.tell n) ↔ p ch
  rw [Chronicle.tell_silent silent]
  exact and_iff_right here

namespace Dialogue

theorem upholds_note {ends : Unit → Chronicle → Prop} {n : Note} :
    (note n).Holds (upholding law) ends ch ↔ law .telling ch ∧ ends () (ch.tell n) := holds_note

/-- A dialogue that upholds a law is at a turn where the law holds. -/
theorem Holds.law_turn {d : Dialogue α}
    (upholds : d.Holds (upholding law) (fun _ => law .ended) ch) : law d.turn ch := by
  cases d with
  | finish => exact upholds
  | tell | ask => exact upholds.1

/-- Behind its next notes, the dialogue is at a turn where the law holds. -/
theorem Holds.law_next {d : Dialogue α}
    (upholds : d.Holds (upholding law) (fun _ => law .ended) ch) :
    ∃ shown, law d.next { ch with shown } := by
  induction d generalizing ch with
  | finish => exact ⟨ch.shown, upholds⟩
  | tell n rest ih =>
    obtain ⟨shown, holds⟩ := ih upholds.2
    exact ⟨shown, holds⟩
  | ask => exact ⟨ch.shown, upholds.1⟩

end Dialogue

theorem Context.upholds_announce {ends : Unit → Chronicle → Prop} {c : Context}
    {level : Observer.Level} {message : String} (here : law .telling ch) (after : ends () ch) :
    (c.announce level message).Holds (upholding law) ends ch :=
  (Context.holds_announce fun _ => upholding_silent rfl here).mpr after

namespace Task

variable {done : α → Chronicle → Prop} {failed : Fault → Chronicle → Prop}

theorem upholds_ask {q : Question} {done : q.Answer → Chronicle → Prop} :
    Holds (upholding law) done failed (ask q) ch ↔
      law (.asking q) ch ∧ ∀ a l, Settles q a ch.ledger l → done a (ch.answer ⟨q, a⟩ l) := holds_ask

theorem upholds_tell {done : Unit → Chronicle → Prop} {n : Note} :
    Holds (upholding law) done failed (tell n) ch ↔ law .telling ch ∧ done () (ch.tell n) :=
  holds_tell

theorem upholds_report {done : Unit → Chronicle → Prop} {c : Context} {level : Observer.Level}
    {message : String} (here : law .telling ch) (after : done () ch) :
    Holds (upholding law) done failed (c.report level message) ch :=
  (holds_report fun _ => upholding_silent rfl here).mpr after

end Task

/-- A law holds at a stage whatever is told there, and wherever such a question is asked, and the
stage is kept. -/
structure Covers (law : Law) (may : Question → Bool) (stage : Chronicle → Prop) : Prop where
  telling : ∀ ch, stage ch → law .telling ch
  asking : ∀ q ch, may q → stage ch → law (.asking q) ch
  tells : ∀ n ch, stage ch → stage (ch.tell n)
  answers : ∀ q a l ch, may q → stage ch → Settles q a ch.ledger l → stage (ch.answer ⟨q, a⟩ l)

/-- **A task that asks only such questions keeps the stage.** -/
theorem Task.upholds_of_asks {may : Question → Bool} {stage : Chronicle → Prop} {t : Task α}
    (asks : Task.Asks may t) (covers : Covers law may stage) (here : stage ch) :
    Task.Holds (upholding law) (fun _ => stage) (fun _ => stage) t ch :=
  Task.holds_of_within asks (fun n ch _ here => ⟨covers.telling ch here, covers.tells n ch here⟩)
    (fun q ch one here => ⟨covers.asking q ch one here, fun a l settles =>
      covers.answers q a l ch one here settles⟩) here

/-! ## Where answers lead -/

/-- The answers, with what was told between them, lead from one dialogue to what is left of it. -/
inductive Dialogue.Leads (d : Dialogue α) : List Answered → List Note → Dialogue α → Prop where
  | here : d.Leads [] [] d
  | told {past : List Answered} {told : List Note} {n : Note} {rest : Dialogue α}
    (leads : d.Leads past told (.tell n rest)) : d.Leads past (n :: told) rest
  | answered {past : List Answered} {told : List Note} {q : Question}
    {next : q.Answer → Dialogue α} (leads : d.Leads past told (.ask q next)) (a : q.Answer) :
    d.Leads (⟨q, a⟩ :: past) told (next a)

/-- Every answer has brought the ledger on. -/
def Brings (opening : Ledger) : List Answered → Ledger → Prop
  | [], l => l = opening
  | ⟨q, a⟩ :: past, l => ∃ before, Brings opening past before ∧ Settles q a before l

/-- **What a logic keeps is as it should be wherever the answers lead**, if telling leads from one
thing kept to the next, and a right answer does. -/
theorem Dialogue.Leads.holds {κ : Type} {L : Logic κ} {d rest : Dialogue α} {ends : α → κ → Prop}
    (kept : Ledger → List Answered → List Note → κ)
    (tells : ∀ n p l past told, L.tells n p (kept l past told) → p (kept l past (n :: told)))
    (asks : ∀ q p l past told, L.asks q p (kept l past told) →
      ∀ a l', Settles q a l l' → p a (kept l' (⟨q, a⟩ :: past) told))
    {opening l : Ledger} {past : List Answered} {told : List Note} (leads : d.Leads past told rest)
    (brings : Brings opening past l) (holds : d.Holds L ends (kept opening [] [])) :
    rest.Holds L ends (kept l past told) := by
  induction leads generalizing l with
  | here => exact brings ▸ holds
  | told _ ih => exact tells _ _ _ _ _ (ih brings)
  | answered leads a ih =>
    obtain ⟨before, brings, settles⟩ := brings
    exact asks _ _ _ _ _ (ih brings) a l settles

theorem Dialogue.Leads.upholds {d rest : Dialogue α} {ends : α → Chronicle → Prop}
    {opening l : Ledger} {past : List Answered} {told : List Note} (leads : d.Leads past told rest)
    (brings : Brings opening past l) (upholds : d.Holds (upholding law) ends { ledger := opening }) :
    rest.Holds (upholding law) ends (.behind l past told) :=
  leads.holds (L := upholding law) Chronicle.behind
    (fun n _ l past told holds => Chronicle.tell_behind l past told n ▸ holds.2)
    (fun _ _ _ _ _ holds => holds.2) brings upholds

namespace Standing

section

variable {s s' : Standing σ τ α} {d : Dialogue α}

theorem leads_of_settle {q : Question} {next : q.Answer → Dialogue α}
    (leads : d.Leads s.past s.told (.ask q next)) (post : Post σ τ) (a : q.Answer) :
    d.Leads (s.settle q next post a).past (s.settle q next post a).told
      (s.settle q next post a).rest := .answered leads a

variable [ByteStream σ] [ByteStream τ]

theorem Steps.leads {m : Move σ τ} (steps : s.Steps m s') (leads : d.Leads s.past s.told s.rest) :
    d.Leads s'.past s'.told s'.rest := by
  cases steps with
  | tells told => exact .told (told ▸ leads)
  | attempts asked =>
    rw [attempted]
    split
    · exact leads_of_settle (asked ▸ leads) ..
    · exact leads
  | expires asked | answers asked | dials asked => exact leads_of_settle (asked ▸ leads) ..
  | relays | client | farSide => exact leads
  | pulls | pushes =>
    unfold moved
    split
    · exact leads
    · exact leads
    · split
      · next asked => exact leads_of_settle (asked ▸ leads) ..
      · exact leads

theorem leads_of_run {moves : List (Move σ τ)} (leads : d.Leads s.past s.told s.rest)
    (ran : s.run moves = some s') : d.Leads s'.past s'.told s'.rest := by
  induction moves generalizing s with
  | nil =>
    cases ran
    exact leads
  | cons m moves ih =>
    obtain ⟨middle, went, ran⟩ := Option.bind_eq_some_iff.mp ran
    exact ih ((steps_of_step went).leads leads) ran

/-- At the end of its dialogue, a performance has come to what the ledger has. -/
theorem Stands.rests_of_ended {l : Ledger} (stands : s.Stands l)
    (ended : s.rest.turn = .ended) : l.Rests s.post.ledger := by
  unfold Stands at stands
  split at stands
  · next asked =>
    rw [asked] at ended
    cases ended
  · exact stands

end

/-- Any question may be asked, where its answers before have brought the ledger. -/
def bringing (opening : Ledger) : Rule where
  asks _ l past := Brings opening past l
  allows _ := True

theorem obeys_bringing {opening l : Ledger} {past : List Answered} (d : Dialogue α)
    (brings : Brings opening past l) :
    d.Obeys (bringing opening) (fun _ l past => Brings opening past l) l past :=
  Dialogue.holds_of_within d.within_free (fun _ _ _ brings => brings)
    (fun _ k _ brings => ⟨brings, fun _ _ _ settles => ⟨k.1, brings, settles⟩⟩) brings

variable [ByteStream σ] [ByteStream τ] [LawfulStream σ] [LawfulStream τ] {bufferSize : Nat}
  {stream : σ} {d : Dialogue α} {moves : List (Move σ τ)} {s : Standing σ τ α}

theorem brings_of_run (ran : (start bufferSize stream d).run moves = some s) :
    ∃ l, Brings (.opening bufferSize (traffic stream)) s.past l ∧ s.Stands l := by
  obtain ⟨l, _, obeys, stands⟩ :=
    accounts_run (accounts_start (obeys_bringing d rfl)) ran fun _ _ => trivial
  exact ⟨l, obeys.now (fun _ brings => brings) fun _ brings => brings, stands⟩

/-- **A law that a dialogue upholds holds throughout every run of it.** -/
theorem upholds_of_run {ends : α → Chronicle → Prop}
    (upholds : d.Holds (upholding law) ends { ledger := .opening bufferSize (traffic stream) })
    (ran : (start bufferSize stream d).run moves = some s) :
    ∃ l, s.Stands l ∧ s.rest.Holds (upholding law) ends ⟨l, s.past, s.shown⟩ := by
  obtain ⟨l, brings, stands⟩ := brings_of_run ran
  exact ⟨l, stands, (leads_of_run .here ran).upholds brings upholds⟩

/-- The same for a task, whose law holds at its end as well. -/
theorem holds_of_run {t : Task α} {s : Standing σ τ (Except Fault α)}
    (upholds : Task.Holds (upholding law) (fun _ => law .ended) (fun _ => law .ended) t
      { ledger := .opening bufferSize (traffic stream) })
    (ran : (start bufferSize stream t.run).run moves = some s) :
    ∃ l, s.Stands l ∧ law s.rest.turn ⟨l, s.past, s.shown⟩ := by
  have whole : t.run.Holds (upholding law) (fun _ => law .ended)
      { ledger := .opening bufferSize (traffic stream) } := Task.holds_run.mpr upholds
  obtain ⟨l, stands, upholds⟩ := upholds_of_run whole ran
  exact ⟨l, stands, upholds.law_turn⟩

end Standing

end Wiretap.Session
