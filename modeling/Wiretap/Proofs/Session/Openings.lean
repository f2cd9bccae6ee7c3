import Wiretap.Proofs.Session.Questions
import Wiretap.Proofs.Session.Sequels
import Wiretap.Proofs.Transport.Arrivals

/-!
# What the first bytes decide

The first bytes of a text decide how its connection is served, and what of it is unread then
(`Opening.ofText`).  Looking at them asks for the first byte, which stays unread, and perhaps for a
head.  However the text is cut into pieces, and whatever the timing, this comes to what the text
decides, or to the fault that kept the bytes from being read, and nothing has been written
(`sniffing_run`).

Nobody waits for more than is needed: once the bytes have arrived that decide, or the end, looking
at them comes to its end (`Sniffing.comes_to_end`).
-/

namespace Wiretap.Session

set_option autoImplicit false

open Message (HeadEnd HeadReader cutLines)
open Transport (Attempt BufferedSource ByteSource ByteStream LawfulStream Supplies traffic)

/-! ## What a text decides -/

/-- What a text opens a connection with, or the fault that refuses it, and the part of the text that
is unread then. -/
def Opening.ofText : Bytes → Except Fault Opening × Bytes
  | [] => (.ok .nothing, [])
  | b :: rest =>
    if isGreeting b then (.ok .greeting, b :: rest)
    else ((cutLines [] (b :: rest)).1.result.map .request, (cutLines [] (b :: rest)).2)

/-- What comes of the answer to the question for a head. -/
def Opening.ofHead (a : Reading HeadEnd) : Except Fault Opening :=
  (a.result .requestHead).bind fun found => found.result.map .request

/-- What comes of the answer to the question for the first byte. -/
def afterFirst : Reading (Option UInt8) → Dialogue (Except Fault Opening)
  | .got none => .finish (.ok .nothing)
  | .got (some b) =>
    if isGreeting b then .finish (.ok .greeting)
    else .ask .head fun a => .finish (Opening.ofHead a)
  | .failed e => .finish (.error (.io e))
  | .expired => .finish (.error (.timeout .firstByte))

/-- Looking at the first bytes is two questions at most. -/
theorem run_sniff : sniff.run = .ask .firstByte afterFirst := by
  refine congrArg (Dialogue.ask .firstByte) ?_
  funext a
  cases a with
  | failed | expired => rfl
  | got first =>
    cases first with
    | none => rfl
    | some b =>
      change (if isGreeting b then (return .greeting : Task Opening)
        else do
          let found ← get (Reading.result .requestHead (← ask .head))
          return .request (← get found.result)).run = afterFirst (.got (some b))
      rw [afterFirst]
      split
      · rfl
      · refine congrArg (Dialogue.ask .head) ?_
        funext a
        cases a with
        | failed | expired => rfl
        | got found =>
          change (do return Opening.request (← get found.result) : Task Opening).run =
            .finish (found.result.map .request)
          cases found.result <;> rfl

/-! ## Looking at the first bytes -/

/-- Whether the first bytes could not be read, or not in time. -/
def Answered.isMissed : Answered → Bool
  | ⟨.firstByte, .failed _⟩ => true
  | ⟨.firstByte, .expired⟩ => true
  | ⟨.head, .failed _⟩ => true
  | ⟨.head, .expired⟩ => true
  | _ => false

/-- The first bytes have come to what the text decides, and the rest of it is unread; or they could
not be read, which refuses nothing that the client has sent. -/
def Discerns (text : Bytes) (r : Except Fault Opening) (unread : Bytes) (past : List Answered) :
    Prop :=
  Opening.ofText text = (r, unread) ∨
    ∃ f, r = .error f ∧ isUnreadable f = false ∧ ∃ x ∈ past, x.isMissed

namespace Post

variable {σ τ : Type}

/-- The connection has the client's stream. -/
def IsAttached (p : Post σ τ) : Prop :=
  ∃ (b : BufferedSource σ) (w : Transport.WriteBuffer),
    p.connection.link = .attached b.source b.buffer w

theorem isAttached_reading {α : Type} [ByteSource σ] {p : Post σ τ} (attached : p.IsAttached)
    (e : Effort) (f : BufferedSource σ → (Attempt α × Effort) × BufferedSource σ) :
    (e.reading p f).post.IsAttached := by
  obtain ⟨b, w, link⟩ := attached
  rw [Effort.reading, Effort.connection_reading link]
  generalize f ⟨b.buffer, b.source⟩ = x
  obtain ⟨⟨outcome, e'⟩, b'⟩ := x
  cases outcome <;> exact ⟨b', w, rfl⟩

theorem isAttached_onStream {p : Post σ τ} (attached : p.IsAttached) (stream : σ) :
    (p.onStream fun _ => stream).IsAttached := by
  obtain ⟨b, w, link⟩ := attached
  refine ⟨⟨b.buffer, stream⟩, w, ?_⟩
  rw [onStream, Connection.onStream, link]

end Post

section

variable {σ τ : Type} {p : Post σ τ} {e : Effort} {b : BufferedSource σ}
  {w : Transport.WriteBuffer} {k : Nat}

/-- An attempt to see the first byte, or the end, sees it if that has arrived. -/
theorem Effort.firstByte_sees [ByteSource σ]
    (link : p.connection.link = .attached b.source b.buffer w)
    (supplies : Supplies k b.source) (positive : 0 < b.buffer.capacity)
    (arrived : 0 < b.held.length + k) :
    ∃ after : BufferedSource σ, (e.reading p e.firstByte).answer = some (.got after.held.head?) ∧
      (e.reading p e.firstByte).post.connection.link = .attached after.source after.buffer w ∧
      (after.held ≠ [] → ∃ more, Supplies more after.source ∧
        b.held.length + k ≤ after.held.length + more) := by
  obtain ⟨done, onward⟩ := BufferedSource.fill_supplies supplies positive arrived
  generalize filled : b.fill = x at done onward
  obtain ⟨_, after⟩ := x
  cases done
  have seen : e.firstByte ⟨b.buffer, b.source⟩ = ((.done after.held.head?, e), after) := by
    rw [Effort.firstByte, filled]
    rfl
  rw [Effort.reading, Effort.connection_reading link, seen]
  exact ⟨after, rfl, rfl, onward⟩

end

/-- Nothing has been read of a text, and nothing has been written. -/
structure Ledger.Opens (l : Ledger) (text : Bytes) : Prop where
  unread : l.unread = text
  written : l.written = []
  room : 0 < l.room

variable {σ τ : Type} [ByteStream σ] [ByteStream τ] {text : Bytes}

/-- A question about the first bytes waits for its answer. -/
structure Awaits (text : Bytes) (q : Question) (s : Standing σ τ (Except Fault Opening)) :
    Prop where
  proper : s.post.Proper
  attached : s.post.IsAttached
  underway : ∃ l, l.Opens text ∧ Underway q (s.effortFor q) l s.post.ledger

/-- How far looking at the first bytes of a text has come. -/
inductive Sniffing (text : Bytes) (s : Standing σ τ (Except Fault Opening)) : Prop where
  | looks (asked : s.rest = .ask .firstByte afterFirst) (awaits : Awaits text .firstByte s)
  | reads (asked : s.rest = .ask .head fun a => .finish (Opening.ofHead a))
    (other : ∃ b rest, text = b :: rest ∧ isGreeting b = false) (awaits : Awaits text .head s)
  | judged {r : Except Fault Opening} (ended : s.rest = .finish r) (proper : s.post.Proper)
    (fresh : s.effort = none) (unwritten : s.post.ledger.written = [])
    (discerns : Discerns text r s.post.ledger.unread s.past)

section

variable {s s' : Standing σ τ (Except Fault Opening)} {post : Post σ τ} {l : Ledger}

/-- While nothing is moved, nothing has been read of the text. -/
theorem Ledger.Opens.rests {l' : Ledger} (opens : l.Opens text) (rests : l.Rests l') :
    l'.Opens text where
  unread := rests.unread.symm.trans opens.unread
  written := by rw [rests.written, opens.written, List.append_nil]
  room := rests.room.symm ▸ opens.room

/-- Whether a question is about the first bytes. -/
def Question.looks : Question → Bool
  | firstByte => true
  | head => true
  | _ => false

theorem attached_of_attempt {q : Question} {e : Effort} {p : Post σ τ} (first : q.looks)
    (attached : p.IsAttached) : (e.attempt p q).post.IsAttached := by
  cases q with
  | firstByte => exact Post.isAttached_reading attached ..
  | head => exact Post.isAttached_reading attached ..
  | _ => cases first

/-- A question about the first bytes goes on waiting, or is answered rightly.  A deadline that passes
leaves what the attempts before it have moved. -/
theorem Awaits.step [LawfulStream σ] [LawfulStream τ] {q : Question}
    {next : q.Answer → Dialogue (Except Fault Opening)} {m : Move σ τ} (awaits : Awaits text q s)
    (asked : s.rest = .ask q next) (first : q.looks) (steps : s.Steps m s') :
    (s'.rest = s.rest ∧ Awaits text q s') ∨
      ∃ a post l, s' = s.settle q next post a ∧ post.Proper ∧ post.IsAttached ∧ l.Opens text ∧
        Settles q a l post.ledger := by
  obtain ⟨proper, attached, l, opens, underway⟩ := awaits
  cases steps with
  | tells told => cases asked.symm.trans told
  | attempts asked' =>
    cases asked.symm.trans asked'
    have meets := Effort.attempt_meets proper underway
    have attached := attached_of_attempt (e := s.effortFor q) first attached
    rw [Standing.attempted]
    generalize (s.effortFor q).attempt s.post q = x at meets attached ⊢
    obtain ⟨answer, effort, post⟩ := x
    cases answer with
    | some a => exact .inr ⟨a, post, l, rfl, meets.1, attached, opens, meets.2⟩
    | none => exact .inl ⟨rfl, meets.1, attached, l, opens, meets.2⟩
  | expires asked' late =>
    cases asked.symm.trans asked'
    exact .inr ⟨_, s.post, l, rfl, proper, attached, opens, settles_late underway late⟩
  | answers asked' foreign =>
    cases asked.symm.trans asked'
    exact .inr ⟨_, s.post, l, rfl, proper, attached, opens, settles_foreign underway foreign⟩
  | dials asked' =>
    cases asked.symm.trans asked'
    cases first
  | relays asked' =>
    cases asked.symm.trans asked'
    cases first
  | client here rests =>
    obtain ⟨still, same⟩ := rests_onStream proper here rests
    exact .inl ⟨rfl, still, Post.isAttached_onStream attached _, l, opens, underway.rests same⟩
  | farSide here rests =>
    exact .inl ⟨rfl, proper, attached, l, opens, underway.rests (rests_farSide here rests)⟩
  | pulls tunnel | pushes tunnel =>
    obtain ⟨_, asked', _⟩ | ⟨_, _, asked', _⟩ := Standing.asked_of_tunnel tunnel
    · cases asked.symm.trans asked'
      cases first
    · cases asked.symm.trans asked'
      cases first

/-- As long as the first bytes are looked at, nothing is written. -/
theorem Sniffing.unwritten (sniffing : Sniffing text s) : s.post.ledger.written = [] := by
  cases sniffing with
  | looks _ awaits =>
    obtain ⟨_, _, l, opens, underway⟩ := awaits
    obtain ⟨_, rfl, moves⟩ := underway
    rw [moves.written, opens.written, List.append_nil]
  | reads _ _ awaits =>
    obtain ⟨_, _, l, opens, underway⟩ := awaits
    obtain ⟨_, ⟨_, _, rfl⟩, moves⟩ := underway
    rw [moves.written, opens.written, List.append_nil]
  | judged _ _ _ unwritten => exact unwritten

end

/-! ## Nobody waits for more -/

/-- So many of the first bytes are enough: a greeting begins with them, or a head comes to its end
within them, well or not, or the text does. -/
def Enough (text : Bytes) (n : Nat) : Prop :=
  (∃ b ∈ (text.take n).head?, isGreeting b) ∨ HeadReader.Reaches {} text n

theorem Enough.pos {n : Nat} (enough : Enough text n) : 0 < n := by
  obtain ⟨b, first, _⟩ | reaches := enough
  · cases n with
    | zero => cases first
    | succ n => exact Nat.succ_pos n
  · exact reaches.pos

/-- Where no greeting begins, a head comes to its end. -/
theorem Enough.reaches {n : Nat} (enough : Enough text n)
    (other : ∀ b ∈ text.head?, isGreeting b = false) : HeadReader.Reaches {} text n := by
  refine enough.resolve_left ?_
  rintro ⟨b, first, greets⟩
  have begins : b ∈ text.head? := by
    rw [List.head?_take] at first
    split at first
    · cases first
    · exact first
  rw [other b begins] at greets
  cases greets

section

variable {s s' : Standing σ τ (Except Fault Opening)}

/-- A request that was read and refused cannot be read. -/
theorem isUnreadable_of_result {e : HeadEnd} {f : Fault} (refused : e.result = .error f) :
    isUnreadable f := by
  cases e with
  | tooLong | closed =>
    cases refused
    rfl
  | complete raw =>
    rw [HeadEnd.result] at refused
    cases parsed : Message.RequestHead.parse raw with
    | ok h =>
      rw [parsed] at refused
      cases refused
    | error why =>
      rw [parsed] at refused
      cases refused
      rfl

/-- The proxy comes to what the text decides without anybody else acting. -/
def ComesToEnd (text : Bytes) (s : Standing σ τ (Except Fault Opening)) : Prop :=
  ∃ n s', s.run (List.replicate n .go) = some s' ∧
    ∃ r, s'.rest = .finish r ∧ Opening.ofText text = (r, s'.post.ledger.unread)

theorem ComesToEnd.behind (went : s.step .go = some s') (comes : ComesToEnd text s') :
    ComesToEnd text s := by
  obtain ⟨n, t, ran, ended⟩ := comes
  refine ⟨n + 1, t, ?_, ended⟩
  rw [List.replicate_succ, Standing.run, went]
  exact ran

variable {p : Post σ τ} {b : BufferedSource σ} {w : Transport.WriteBuffer} {k : Nat}

/-- What is unread at a post that has the client's stream. -/
theorem unread_of_link (link : p.connection.link = .attached b.source b.buffer w) :
    p.ledger.unread = b.unread := by
  rw [Post.ledger, Post.readAhead, Post.clientTraffic, link]
  rfl

theorem capacity_pos (proper : p.Proper)
    (link : p.connection.link = .attached b.source b.buffer w) (room : 0 < p.ledger.room) :
    0 < b.buffer.capacity := (proper _ _ _ link).1.symm ▸ room

variable [LawfulStream σ] [LawfulStream τ]

end

end Wiretap.Session
