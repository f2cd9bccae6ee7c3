import Wiretap.Message.HeadStream
import Wiretap.Proofs.Transport.Copying
import Wiretap.Proofs.Transport.Sources
import Wiretap.Session.Performance

/-!
# What a question does to the streams

A ledger says what is still to be read from the client, what the client has been written, and what
went to and came from the far side of a tunnel.  However many attempts its answer takes, a question
moves bytes in one way only: what it takes comes off what was to be read, and what it writes goes
behind what was written (`Settles`).  While the answer is missing, the bytes moved so far are known
from the effort (`Underway`); an attempt keeps that, or gives an answer that is right
(`attempt_meets`).
-/

namespace Wiretap.Session

set_option autoImplicit false

open Message (HeadReader cutLines)
open Transport (BufferedSink BufferedSource ByteStream Copy LawfulStream Traffic traffic)

/-! ## Ledgers -/

/-- What the streams at a post have come to. -/
structure Ledger where
  /-- What is still to be read from the client. -/
  unread : Bytes
  /-- What the client has been written. -/
  written : Bytes
  /-- The part of it that has been passed on for certain. -/
  passed : Bytes
  /-- What the far side has been given. -/
  toFar : Bytes
  /-- What has been taken from the far side. -/
  fromFar : Bytes
  /-- What is still to be taken from the far side. -/
  farLeft : Bytes
  /-- How many bytes can be read ahead of the client. -/
  room : Nat

/-- The ledger of a client's stream before anything has been read, without a far side. -/
def Ledger.opening (room : Nat) (t : Traffic) : Ledger :=
  ⟨t.coming, t.given, t.passed, [], [], [], room⟩

/-- What has been moved. -/
structure Haul where
  /-- Taken from the client. -/
  taken : Bytes := []
  /-- Written for the client. -/
  given : Bytes := []
  /-- Given to the far side. -/
  sent : Bytes := []

namespace Ledger

/-- The haul leads from one ledger to the other; more may have been passed on. -/
structure Moves (before after : Ledger) (h : Haul) : Prop where
  unread : before.unread = h.taken ++ after.unread
  written : after.written = before.written ++ h.given
  passed : before.passed <+: after.passed
  toFar : after.toFar = before.toFar ++ h.sent
  fromFar : after.fromFar = before.fromFar
  farLeft : after.farLeft = before.farLeft
  room : after.room = before.room

/-- Nothing has been moved. -/
abbrev Rests (before after : Ledger) : Prop := before.Moves after {}

variable {first second third : Ledger}

theorem Rests.refl (l : Ledger) : l.Rests l :=
  ⟨rfl, (List.append_nil _).symm, List.prefix_refl _, (List.append_nil _).symm, rfl, rfl, rfl⟩

theorem Moves.trans {h more : Haul} (before : first.Moves second h)
    (after : second.Moves third more) :
    first.Moves third ⟨h.taken ++ more.taken, h.given ++ more.given, h.sent ++ more.sent⟩ where
  unread := by rw [before.unread, after.unread, List.append_assoc]
  written := by rw [after.written, before.written, List.append_assoc]
  passed := before.passed.trans after.passed
  toFar := by rw [after.toFar, before.toFar, List.append_assoc]
  fromFar := after.fromFar.trans before.fromFar
  farLeft := after.farLeft.trans before.farLeft
  room := after.room.trans before.room

theorem Moves.rests {h : Haul} (before : first.Moves second h) (after : second.Rests third) :
    first.Moves third h := by
  simpa using before.trans after

end Ledger

namespace Post

variable {σ τ : Type} [ByteStream σ] [ByteStream τ]

/-- What has travelled to and from the client; what a buffer holds back counts as written. -/
def clientTraffic (p : Post σ τ) : Traffic :=
  match p.connection.link, p.raw, p.leaving with
  | .attached s _ w, _, _ => traffic (⟨w, s⟩ : BufferedSink σ)
  | _, some s, _ => traffic s
  | _, none, some b => traffic b
  | _, none, none => {}

/-- What has travelled to and from the far side. -/
def farTraffic (p : Post σ τ) : Traffic := (p.far.map traffic).getD {}

/-- The ledger of the streams at the post. -/
def ledger (p : Post σ τ) : Ledger where
  unread := p.readAhead ++ p.clientTraffic.coming
  written := p.clientTraffic.given
  passed := p.clientTraffic.passed
  toFar := p.farTraffic.given
  fromFar := p.farTraffic.taken
  farLeft := p.farTraffic.coming
  room := p.connection.bufferSize

/-- While the connection has the stream, it reads through a buffer of its size, and nobody else has
the stream. -/
def Proper (p : Post σ τ) : Prop :=
  ∀ s r w, p.connection.link = .attached s r w →
    r.capacity = p.connection.bufferSize ∧ p.raw = none

end Post

/-! ## What answers say -/

/-- Both directions of a tunnel are under way; bytes that were read ahead go first. -/
structure Carries (ahead : Bytes) (outbound inbound : Copy) (before after : Ledger) : Prop where
  out : outbound.Conveys (ahead ++ before.unread) after.unread before.toFar after.toFar
  back : inbound.Conveys before.farLeft after.farLeft before.written after.written
  passed : before.passed <+: after.passed
  fromFar : after.fromFar ++ after.farLeft = before.fromFar ++ before.farLeft
  /-- Once the client's stream has been ended, everything has been passed on. -/
  flushed : inbound.shut → after.written <+: after.passed
  room : after.room = before.room

/-- The answer to a question is right, and leads from one ledger to the other.  A buffer without any
room sees nothing of what is sent. -/
def Settles : (q : Question) → q.Answer → Ledger → Ledger → Prop
  | .firstByte, .got b, l, l' => (0 < l.room → b = l.unread.head?) ∧ l.Rests l'
  | .firstByte, _, l, l' => l.Rests l'
  | .head, .got e, l, l' =>
    (0 < l.room → cutLines [] l.unread = (e, l'.unread)) ∧ ∃ taken, l.Moves l' { taken }
  | .head, _, l, l' => ∃ taken, l.Moves l' { taken }
  | .greeting, .got methods, l, l' =>
    ∃ version count : UInt8, methods.length = count.toNat ∧
      l.Moves l' { taken := version :: count :: methods }
  | .greeting, _, l, l' => ∃ taken, l.Moves l' { taken }
  | .body n, .got taken, l, l' => taken.length = n ∧ l.Moves l' { taken }
  | .body _, _, l, l' => ∃ taken, l.Moves l' { taken }
  | .reply given, .got (), l, l' => l.Moves l' { given } ∧ l'.passed = l'.written
  | .reply r, _, l, l' => ∃ given, given <+: r ∧ l.Moves l' { given }
  | .refusal given, .ok (), l, l' => l.Moves l' { given } ∧ l'.passed = l'.written
  | .refusal r, _, l, l' => ∃ given, given <+: r ∧ l.Moves l' { given }
  | .rawReply given, .got (), l, l' => l.Moves l' { given } ∧ l'.passed = l'.written
  | .rawReply r, _, l, l' => ∃ given, given <+: r ∧ l.Moves l' { given }
  | .detach, .ok taken, l, l' => l.Moves l' { taken } ∧ l'.passed = l'.written
  | .detach, .error _, l, l' => l'.toFar = l.toFar
  | .dial _, .got (), l, l' =>
    l'.toFar = [] ∧ l'.fromFar = [] ∧ l'.unread = l.unread ∧ l'.written = l.written ∧
      l.passed <+: l'.passed
  | .sendAhead sent, .ok (), l, l' => l.Moves l' { sent }
  | .sendAhead d, .error _, l, l' => ∃ sent, sent <+: d ∧ l.Moves l' { sent }
  | .carry, carried, l, l' =>
    ∃ outbound inbound, Carries [] outbound inbound l l' ∧
      carried.sent = outbound.moved ∧ carried.received = inbound.moved ∧
      (carried.fault = none → outbound.shut ∧ inbound.shut)
  | .relay ahead, _, l, l' =>
    ∃ outbound inbound left, Carries ahead outbound inbound { l with farLeft := left } l'
  | .close, _, _, _ => True
  | _, _, l, l' => l.Rests l'

/-- What is missing of a greeting is missing of its first two bytes, or of the methods that they
announce. -/
def GreetingBegun (e : Effort) : Prop :=
  e.bytes.length + e.missing = 2 ∨
    ∃ (version count : UInt8) (more : Bytes), e.bytes = version :: count :: more ∧
      more.length + e.missing = count.toNat

/-- What the attempts to answer a question, other than one of a tunnel, have moved so far. -/
def Hauled : Question → Effort → Haul → Prop
  | .head, e, h => ∃ taken, HeadReader.feed {} taken = .ok e.reader ∧ h = { taken }
  | .greeting, e, h => h = { taken := e.bytes } ∧ GreetingBegun e
  | .body n, e, h => h = { taken := e.bytes } ∧ e.bytes.length + e.missing = n
  | .reply r, e, h => ∃ given, r = given ++ e.rest ∧ h = { given }
  | .refusal r, e, h => ∃ given, r = given ++ e.rest ∧ h = { given }
  | .rawReply r, e, h => ∃ given, r = given ++ e.rest ∧ h = { given }
  | .sendAhead d, e, h => ∃ sent, d = sent ++ e.rest ∧ h = { sent }
  | _, _, h => h = {}

/-- How far the attempts to answer a question have brought the ledger. -/
def Underway : Question → Effort → Ledger → Ledger → Prop
  | .carry, e, l, l' => Carries [] e.outbound e.inbound l l'
  | .relay ahead, e, l, l' =>
    ∃ left, Carries ahead e.outbound e.inbound { l with farLeft := left } l'
  | .close, _, _, _ => True
  | q, e, l, l' => ∃ h, Hauled q e h ∧ l.Moves l' h

theorem Carries.rests {ahead : Bytes} {outbound inbound : Copy} {l l' l'' : Ledger}
    (carries : Carries ahead outbound inbound l l') (rests : l'.Rests l'') :
    Carries ahead outbound inbound l l'' := by
  obtain ⟨out, back, passed, fromFar, flushed, room⟩ := carries
  have unread : l''.unread = l'.unread := rests.unread.symm
  have written : l''.written = l'.written := by simpa using rests.written
  have toFar : l''.toFar = l'.toFar := by simpa using rests.toFar
  refine ⟨?_, ?_, passed.trans rests.passed, ?_, fun ended => ?_, rests.room.trans room⟩
  · rwa [unread, toFar]
  · rwa [rests.farLeft, written]
  · rwa [rests.farLeft, rests.fromFar]
  · rw [written]
    exact (flushed ended).trans rests.passed

theorem carries_start (ahead : Bytes) {l l' : Ledger} (rests : l.Rests l') :
    Carries ahead { held := ahead } {} l l' := by
  have start : Carries ahead { held := ahead } {} l l :=
    ⟨Copy.conveys_start ahead l.unread l.toFar, Copy.conveys_start [] l.farLeft l.written,
      List.prefix_refl _, rfl, nofun, rfl⟩
  exact start.rests rests

/-- Before the first attempt nothing has been moved. -/
theorem underway_start {q : Question} {l l' : Ledger} (rests : l.Rests l') :
    Underway q (.start 0 q) l l' := by
  cases q
  case carry => exact carries_start [] rests
  case relay ahead => exact ⟨l.farLeft, carries_start ahead rests⟩
  case close => trivial
  case head => exact ⟨{}, ⟨[], rfl, rfl⟩, rests⟩
  case greeting => exact ⟨{}, ⟨rfl, .inl rfl⟩, rests⟩
  case body n => exact ⟨{}, ⟨rfl, Nat.zero_add n⟩, rests⟩
  case reply | refusal | rawReply | sendAhead => exact ⟨{}, ⟨[], rfl, rfl⟩, rests⟩
  all_goals exact ⟨{}, rfl, rests⟩

/-- What is under way stays so while nothing is moved. -/
theorem Underway.rests {q : Question} {e : Effort} {l l' l'' : Ledger}
    (underway : Underway q e l l') (rests : l'.Rests l'') : Underway q e l l'' := by
  cases q
  case carry => exact Carries.rests underway rests
  case relay ahead =>
    obtain ⟨left, carries⟩ := underway
    exact ⟨left, carries.rests rests⟩
  case close => trivial
  all_goals
    obtain ⟨h, hauled, moves⟩ := underway
    exact ⟨h, hauled, moves.rests rests⟩

/-- When its deadline passes, the question has moved what its attempts have moved. -/
theorem settles_late {q : Question} {e : Effort} {l l' : Ledger} {a : q.Answer}
    (underway : Underway q e l l') (late : q.late? = some a) : Settles q a l l' := by
  cases q
  case firstByte =>
    cases late
    obtain ⟨_, rfl, moves⟩ := underway
    exact moves
  case head =>
    cases late
    obtain ⟨_, ⟨taken, _, rfl⟩, moves⟩ := underway
    exact ⟨taken, moves⟩
  case greeting =>
    cases late
    obtain ⟨_, ⟨rfl, _⟩, moves⟩ := underway
    exact ⟨_, moves⟩
  case body n =>
    cases late
    obtain ⟨_, ⟨rfl, _⟩, moves⟩ := underway
    exact ⟨_, moves⟩
  case reply r =>
    cases late
    obtain ⟨_, ⟨given, split, rfl⟩, moves⟩ := underway
    exact ⟨given, ⟨_, split.symm⟩, moves⟩
  case rawReply r =>
    cases late
    obtain ⟨_, ⟨given, split, rfl⟩, moves⟩ := underway
    exact ⟨given, ⟨_, split.symm⟩, moves⟩
  all_goals cases late

/-- What others answer moves nothing but what a relay has moved. -/
theorem settles_foreign {q : Question} {e : Effort} {l l' : Ledger} {a : q.Answer}
    (underway : Underway q e l l') (foreign : Answered.isForeign ⟨q, a⟩) : Settles q a l l' := by
  cases q
  case relay ahead =>
    obtain ⟨left, carries⟩ := underway
    exact ⟨_, _, left, carries⟩
  case dial target =>
    obtain ⟨_, rfl, moves⟩ := underway
    cases a with
    | got => cases foreign
    | failed f => exact moves
    | expired => exact moves
  case exchange | responseBody | freshKey | upgrade | elapsed =>
    obtain ⟨_, rfl, moves⟩ := underway
    exact moves
  all_goals cases foreign

/-! ## What a question moves -/

namespace Question

/-- Whether a question moves only what its attempts haul; the two kinds of tunnels move bytes in
ways of their own, and closing gives up the stream. -/
def isPlain : Question → Bool
  | carry => false
  | relay _ => false
  | close => false
  | _ => true

/-- What a question may move: it reads, it writes the beginning of what it is to write, or it does
neither. -/
def Admits : Question → Haul → Prop
  | head, h => h.given = [] ∧ h.sent = []
  | greeting, h => h.given = [] ∧ h.sent = []
  | body _, h => h.given = [] ∧ h.sent = []
  | detach, h => h.given = [] ∧ h.sent = []
  | reply r, h => h.given <+: r ∧ h.sent = []
  | refusal r, h => h.given <+: r ∧ h.sent = []
  | rawReply r, h => h.given <+: r ∧ h.sent = []
  | sendAhead d, h => h.given = [] ∧ h.sent <+: d
  | _, h => h = {}

end Question

namespace Answered

/-- Whether an answer leaves what a plain question has moved.  A host that has been connected to
comes with a stream of its own, and a stream that could not be handed over is lost. -/
def isPlain : Answered → Bool
  | ⟨.dial _, .got ()⟩ => false
  | ⟨.detach, .error _⟩ => false
  | x => x.question.isPlain

end Answered

section

variable {q : Question} {l l' : Ledger}

/-- What a plain question has moved so far. -/
theorem underway_moves {e : Effort} (plain : q.isPlain) (underway : Underway q e l l') :
    ∃ h, q.Admits h ∧ l.Moves l' h := by
  cases q with
  | head =>
    obtain ⟨_, ⟨_, _, rfl⟩, moves⟩ := underway
    exact ⟨_, ⟨rfl, rfl⟩, moves⟩
  | greeting | body =>
    obtain ⟨_, ⟨rfl, _⟩, moves⟩ := underway
    exact ⟨_, ⟨rfl, rfl⟩, moves⟩
  | reply | refusal | rawReply =>
    obtain ⟨_, ⟨_, split, rfl⟩, moves⟩ := underway
    exact ⟨_, ⟨⟨_, split.symm⟩, rfl⟩, moves⟩
  | sendAhead =>
    obtain ⟨_, ⟨_, split, rfl⟩, moves⟩ := underway
    exact ⟨_, ⟨rfl, ⟨_, split.symm⟩⟩, moves⟩
  | detach =>
    obtain ⟨_, rfl, moves⟩ := underway
    exact ⟨_, ⟨rfl, rfl⟩, moves⟩
  | firstByte | dial | exchange | responseBody | freshKey | upgrade | elapsed =>
    obtain ⟨_, rfl, moves⟩ := underway
    exact ⟨_, rfl, moves⟩
  | carry | relay | close => cases plain

/-- What a plain question has moved when it is answered. -/
theorem settles_moves {a : q.Answer} (plain : Answered.isPlain ⟨q, a⟩)
    (settles : Settles q a l l') : ∃ h, q.Admits h ∧ l.Moves l' h := by
  cases q with
  | firstByte =>
    cases a with
    | got => exact ⟨_, rfl, settles.2⟩
    | failed | expired => exact ⟨_, rfl, settles⟩
  | head =>
    cases a with
    | got =>
      obtain ⟨_, _, moves⟩ := settles
      exact ⟨_, ⟨rfl, rfl⟩, moves⟩
    | failed | expired =>
      obtain ⟨_, moves⟩ := settles
      exact ⟨_, ⟨rfl, rfl⟩, moves⟩
  | greeting =>
    cases a with
    | got =>
      obtain ⟨_, _, _, moves⟩ := settles
      exact ⟨_, ⟨rfl, rfl⟩, moves⟩
    | failed | expired =>
      obtain ⟨_, moves⟩ := settles
      exact ⟨_, ⟨rfl, rfl⟩, moves⟩
  | body =>
    cases a with
    | got => exact ⟨_, ⟨rfl, rfl⟩, settles.2⟩
    | failed | expired =>
      obtain ⟨_, moves⟩ := settles
      exact ⟨_, ⟨rfl, rfl⟩, moves⟩
  | reply | rawReply =>
    cases a with
    | got => exact ⟨_, ⟨List.prefix_refl _, rfl⟩, settles.1⟩
    | failed | expired =>
      obtain ⟨_, begins, moves⟩ := settles
      exact ⟨_, ⟨begins, rfl⟩, moves⟩
  | refusal =>
    cases a with
    | ok => exact ⟨_, ⟨List.prefix_refl _, rfl⟩, settles.1⟩
    | error =>
      obtain ⟨_, begins, moves⟩ := settles
      exact ⟨_, ⟨begins, rfl⟩, moves⟩
  | detach =>
    cases a with
    | ok => exact ⟨_, ⟨rfl, rfl⟩, settles.1⟩
    | error => cases plain
  | dial =>
    cases a with
    | got => cases plain
    | failed | expired => exact ⟨_, rfl, settles⟩
  | sendAhead =>
    cases a with
    | ok => exact ⟨_, ⟨rfl, List.prefix_refl _⟩, settles⟩
    | error =>
      obtain ⟨_, begins, moves⟩ := settles
      exact ⟨_, ⟨rfl, begins⟩, moves⟩
  | exchange | responseBody | freshKey | upgrade | elapsed => exact ⟨_, rfl, settles⟩
  | carry | relay | close => cases plain

end

end Wiretap.Session
