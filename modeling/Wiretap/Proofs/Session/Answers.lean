import Wiretap.Proofs.Message.ReplyForm
import Wiretap.Proofs.Session.Questions

/-!
# Answers to a client

A client may be given nothing, a refusal of its greeting, one complete response, or the head of one
tunnel and then only what came through the tunnel (`Answers`).  Along a dialogue that gives it no
more than that it is at a stage: it has been given nothing, or the whole of an answer (`Stage`).
A question is asked where the beginning of an answer is all that the client can have been given
while the question waits (`answering`).
-/

namespace Wiretap.Session

set_option autoImplicit false

open Message (AreFieldLines Fields IsResponse IsTunnelHead)

/-! ## Answers to a client -/

/-- What a client may have been given, when some bytes have come from the far side of a tunnel. -/
inductive Answers (came : Bytes) : Bytes → Prop where
  | nothing : Answers came []
  | refusal : Answers came noMethod
  | response {b : Bytes} (isResponse : IsResponse b) : Answers came b
  | tunnel {head carried : Bytes} (isHead : IsTunnelHead head) (through : carried <+: came) :
    Answers came (head ++ carried)

theorem Answers.head {came head : Bytes} (isHead : IsTunnelHead head) : Answers came head := by
  simpa using Answers.tunnel isHead List.nil_prefix

/-- The head that accepts an upgrade opens a tunnel. -/
theorem isTunnelHead_switching (key : Bytes) (protocol : Option Bytes) :
    IsTunnelHead (switching key protocol) := by
  have upgrade : Fields.isName (Bytes.ascii "Upgrade") ∧
      Fields.isValue (Bytes.ascii "websocket") := by decide
  have connection : Fields.isName (Bytes.ascii "Connection") ∧
      Fields.isValue (Bytes.ascii "Upgrade") := by decide
  have accept : Fields.isName (Bytes.ascii "Sec-WebSocket-Accept") := by decide
  have subprotocol : Fields.isName (Bytes.ascii "Sec-WebSocket-Protocol") := by decide
  have always : AreFieldLines [(Bytes.ascii "Upgrade", Bytes.ascii "websocket"),
      (Bytes.ascii "Connection", Bytes.ascii "Upgrade"),
      (Bytes.ascii "Sec-WebSocket-Accept", Bytes.ascii (WebSocket.acceptKey key))] :=
    List.forall_mem_cons.mpr ⟨upgrade, List.forall_mem_cons.mpr ⟨connection,
      List.forall_mem_singleton.mpr ⟨accept, Message.isValue_encode _⟩⟩⟩
  cases shown : protocol.filter fun p => p.all Bytes.isVisible with
  | none =>
    refine .inr ⟨_, always, ?_⟩
    simp [switching, shown, Message.fieldLines]
  | some p =>
    have visible := (Option.filter_eq_some_iff.mp shown).2
    refine .inr ⟨_ ++ [(Bytes.ascii "Sec-WebSocket-Protocol", p)],
      List.forall_mem_append.mpr ⟨always, List.forall_mem_singleton.mpr
        ⟨subprotocol, Message.isValue_of_isVisible visible⟩⟩, ?_⟩
    simp [switching, shown, Message.fieldLines]

namespace Answered

/-- Whether a write to the client was done if one was asked for, and likewise the flush before its
stream is handed over. -/
def isDelivered : Answered → Bool
  | ⟨.reply _, .got ()⟩ => true
  | ⟨.reply _, _⟩ => false
  | ⟨.refusal _, .ok ()⟩ => true
  | ⟨.refusal _, _⟩ => false
  | ⟨.rawReply _, .got ()⟩ => true
  | ⟨.rawReply _, _⟩ => false
  | ⟨.detach, .ok _⟩ => true
  | ⟨.detach, _⟩ => false
  | _ => true

/-- Whether the fields of another host's response are fields. -/
def isWellFormed : Answered → Bool
  | ⟨.exchange _, .got response⟩ => response.fields.areFields
  | _ => true

/-- Whether the body of a request could not be read. -/
def isBodyFailure : Answered → Bool
  | ⟨.body _, .got _⟩ => false
  | ⟨.body _, _⟩ => true
  | _ => false

variable {response : Bytes}

theorem reply_of_isDelivered {a : Reading Unit} (delivered : isDelivered ⟨.reply response, a⟩) :
    a = .got () := by
  cases a with
  | got => rfl
  | failed | expired => cases delivered

theorem refusal_of_isDelivered {a : Except IoFault Unit}
    (delivered : isDelivered ⟨.refusal response, a⟩) : a = .ok () := by
  cases a with
  | ok => rfl
  | error => cases delivered

theorem rawReply_of_isDelivered {a : Reading Unit}
    (delivered : isDelivered ⟨.rawReply response, a⟩) : a = .got () := by
  cases a with
  | got => rfl
  | failed | expired => cases delivered

theorem detach_of_isDelivered {a : Except IoFault Bytes} (delivered : isDelivered ⟨.detach, a⟩) :
    ∃ ahead, a = .ok ahead := by
  cases a with
  | ok ahead => exact ⟨ahead, rfl⟩
  | error => cases delivered

end Answered

/-- The client has been given the beginning of an answer. -/
def Begun (l : Ledger) : Prop := ∃ answer, Answers l.fromFar answer ∧ l.written <+: answer

/-- At any time the client has been given the beginning of an answer. -/
def answering : Rule where
  asks q l _ := ∀ e l', Underway q e l l' → Begun l'
  allows a := a.isDelivered ∧ a.isWellFormed

/-- What the client has been given, all of which has been passed on, while nothing has come from a
far side and no body could not be read. -/
structure Stage (given : Bytes) (l : Ledger) (past : List Answered) : Prop where
  written : l.written = given
  passed : given <+: l.passed
  fromFar : l.fromFar = []
  read : past.any Answered.isBodyFailure = false

namespace Question

/-- Whether a question leaves alone what the client has been given, and is not about a body. -/
def isQuiet : Question → Bool
  | body _ => false
  | reply _ => false
  | refusal _ => false
  | rawReply _ => false
  | carry => false
  | relay _ => false
  | close => false
  | _ => true

theorem isQuiet_of_isRemote {q : Question} (remote : q.isRemote) : q.isQuiet := by
  cases q with
  | exchange | responseBody | freshKey | upgrade | elapsed => rfl
  | _ => cases remote

end Question

variable {l l' : Ledger} {past : List Answered} {given : Bytes}

theorem begun_of_whole {answer : Bytes} (answers : Answers l.fromFar answer)
    (whole : l.written = answer) : Begun l :=
  ⟨answer, answers, whole ▸ List.prefix_refl _⟩

theorem Question.isPlain_of_isQuiet {q : Question} (quiet : q.isQuiet) : q.isPlain := by
  cases q with
  | carry | relay | close => cases quiet
  | _ => rfl

theorem Question.unwritten {q : Question} {h : Haul} (quiet : q.isQuiet) (admits : q.Admits h) :
    h.given = [] := by
  cases q with
  | head | greeting | detach | sendAhead => exact admits.1
  | firstByte | dial | exchange | responseBody | freshKey | upgrade | elapsed => exact admits ▸ rfl
  | body | reply | refusal | rawReply | carry | relay | close => cases quiet

theorem Answered.read_of_isQuiet {q : Question} {a : q.Answer} (quiet : q.isQuiet) :
    Answered.isBodyFailure ⟨q, a⟩ = false := by
  cases q with
  | body => cases quiet
  | _ => rfl

theorem underway_quiet {q : Question} {e : Effort} (quiet : q.isQuiet)
    (underway : Underway q e l l') : l'.written = l.written ∧ l'.fromFar = l.fromFar := by
  obtain ⟨h, admits, moves⟩ := underway_moves (Question.isPlain_of_isQuiet quiet) underway
  exact ⟨by rw [moves.written, Question.unwritten quiet admits, List.append_nil], moves.fromFar⟩

/-- What is moved without writing to the client leaves the stage as it is. -/
theorem Stage.moves {h : Haul} {x : Answered} (stage : Stage given l past) (moves : l.Moves l' h)
    (unwritten : h.given = []) (read : x.isBodyFailure = false) : Stage given l' (x :: past) where
  written := by rw [moves.written, unwritten, List.append_nil, stage.written]
  passed := stage.passed.trans moves.passed
  fromFar := moves.fromFar.trans stage.fromFar
  read := by rw [List.any_cons, read, stage.read, Bool.or_false]

/-- A quiet question that is answered leaves the stage as it is. -/
theorem Stage.quiet {q : Question} {a : q.Answer} (stage : Stage given l past) (quiet : q.isQuiet)
    (delivered : Answered.isDelivered ⟨q, a⟩) (settles : Settles q a l l') :
    Stage given l' (⟨q, a⟩ :: past) := by
  have unmoved (plain : Answered.isPlain ⟨q, a⟩) : Stage given l' (⟨q, a⟩ :: past) := by
    obtain ⟨h, admits, moves⟩ := settles_moves plain settles
    exact stage.moves moves (Question.unwritten quiet admits) (Answered.read_of_isQuiet quiet)
  cases q with
  | dial =>
    cases a with
    | got =>
      obtain ⟨_, fromFar, _, written, passed⟩ := settles
      exact ⟨written.trans stage.written, stage.passed.trans passed, fromFar, stage.read⟩
    | failed | expired => exact unmoved rfl
  | detach =>
    obtain ⟨ahead, rfl⟩ := Answered.detach_of_isDelivered delivered
    exact unmoved rfl
  | carry | relay | close => cases quiet
  | _ => exact unmoved rfl

/-- An answer that has been written and flushed is the next stage. -/
theorem Stage.writes {response : Bytes} {x : Answered} (stage : Stage [] l past)
    (moves : l.Moves l' { given := response }) (flushed : l'.passed = l'.written)
    (read : x.isBodyFailure = false) : Stage response l' (x :: past) := by
  have written : l'.written = response := by
    rw [moves.written, stage.written, List.nil_append]
  have whole : l'.passed = response := flushed.trans written
  refine ⟨written, ⟨[], (List.append_nil _).trans whole.symm⟩,
    moves.fromFar.trans stage.fromFar, ?_⟩
  rw [List.any_cons, read, stage.read, Bool.or_false]

/-! ## Questions that may be asked -/

theorem asks_quiet {q : Question} (stage : Stage given l past)
    (isAnswer : ∀ came, Answers came given) (quiet : q.isQuiet) : answering.asks q l past := by
  intro e l' underway
  obtain ⟨written, _⟩ := underway_quiet quiet underway
  exact begun_of_whole (isAnswer _) (written.trans stage.written)

theorem keeps_quiet {q : Question} (isAnswer : ∀ came, Answers came given) (quiet : q.isQuiet) :
    answering.Keeps (Stage given) q where
  asks _ _ stage := asks_quiet stage isAnswer quiet
  stays _ _ _ _ allowed stage := stage.quiet quiet allowed.1

theorem asks_body (stage : Stage [] l past) (n : Nat) : answering.asks (.body n) l past := by
  rintro e l' ⟨_, ⟨rfl, _⟩, moves⟩
  exact begun_of_whole .nothing (by rw [moves.written, stage.written]; rfl)

/-- While an answer is written, its beginning has been. -/
theorem asks_writing {q : Question} {response : Bytes} (stage : Stage [] l past)
    (isAnswer : ∀ came, Answers came response) (plain : q.isPlain)
    (writes : ∀ h, q.Admits h → h.given <+: response) : answering.asks q l past := by
  intro e l' underway
  obtain ⟨h, admits, moves⟩ := underway_moves plain underway
  refine ⟨response, isAnswer _, ?_⟩
  rw [moves.written, stage.written]
  exact writes h admits

/-- What a tunnel has given to the client behind its head has come from the far side. -/
theorem Carries.brings {ahead : Bytes} {outbound inbound : Transport.Copy}
    (carries : Carries ahead outbound inbound l l') (none : l.fromFar = []) :
    ∃ carried, l'.written = l.written ++ carried ∧ carried <+: l'.fromFar := by
  obtain ⟨piece, written, _, order⟩ := carries.back.moved
  refine ⟨piece, written, inbound.held, ?_⟩
  have all := carries.fromFar
  rw [none, order, List.nil_append] at all
  exact (List.append_cancel_right all).symm

theorem asks_carry {head : Bytes} (stage : Stage head l past) (isHead : IsTunnelHead head) :
    answering.asks .carry l past := by
  intro e l' underway
  obtain ⟨carried, written, through⟩ := Carries.brings underway stage.fromFar
  exact begun_of_whole (.tunnel isHead through) (by rw [written, stage.written])

theorem asks_relay {head ahead : Bytes} (stage : Stage head l past) (isHead : IsTunnelHead head) :
    answering.asks (.relay ahead) l past := by
  rintro e l' ⟨left, carries⟩
  obtain ⟨carried, written, through⟩ := carries.brings stage.fromFar
  exact begun_of_whole (.tunnel isHead through) (by rw [written, ← stage.written])

/-! ## How a dispatch ends -/

/-- A complete response has been passed on, or the head of a tunnel has, and all that came through
the tunnel if it was closed from both ends. -/
def Completed (l : Ledger) (past : List Answered) : Prop :=
  (IsResponse l.written ∧ l.written <+: l.passed) ∨
    ∃ head carried, IsTunnelHead head ∧ carried <+: l.fromFar ∧ l.written = head ++ carried ∧
      head <+: l.passed ∧
      ∀ c : Carried, past.head? = some ⟨.carry, c⟩ → c.fault = none → l.written <+: l.passed

/-- What is known when the client has been served. -/
structure Served (l : Ledger) (past : List Answered) : Prop where
  completed : Completed l past
  read : past.any Answered.isBodyFailure = false

/-- What is known when serving the client has failed. -/
structure Broken (l : Ledger) (past : List Answered) : Prop where
  answers : Answers l.fromFar l.written
  unread : past.any Answered.isBodyFailure → l.written = []

theorem Completed.answers (completed : Completed l past) : Answers l.fromFar l.written := by
  obtain ⟨isResponse, _⟩ | ⟨head, carried, isHead, through, written, _⟩ := completed
  · exact .response isResponse
  · rw [written]
    exact .tunnel isHead through

theorem Stage.broken (stage : Stage given l past) (isAnswer : Answers [] given) :
    Broken l past where
  answers := by
    rw [stage.fromFar, stage.written]
    exact isAnswer
  unread failed := by
    rw [stage.read] at failed
    cases failed

theorem Stage.served (stage : Stage given l past) (isResponse : IsResponse given) :
    Served l past where
  completed := by
    refine .inl ?_
    rw [stage.written]
    exact ⟨isResponse, stage.passed⟩
  read := stage.read

end Wiretap.Session
