import Wiretap.Proofs.Session.Openings
import Wiretap.Proofs.Transport.Reliability
import Wiretap.Session.Greeting

/-!
# Reading a greeting

The second byte of a text says how long the greeting is that the text begins with
(`greetingLength?`).  From a stream that can be relied on, an attempt to read it fails only if the
stream ends within it (`Effort.greeting_fails`), and makes one wait only as long as neither the
whole greeting nor the end has arrived (`Effort.greeting_advances`).

So far as a client's stream can be relied on, an attempt at a question that is put to refuse a
greeting is answered as it should be (`Effort.attempt_faithful`).
-/

namespace Wiretap.Session

set_option autoImplicit false

open Transport (Accepts Attempt BufferedSink BufferedSource ByteSource ByteStream LawfulStream
  Reliable Supplies readsWell_reliable traffic writesWell_reliable)

/-! ## Greetings -/

/-- How long the greeting is that a text begins with: the second byte says how many methods follow
it. -/
def greetingLength? : Bytes → Option Nat
  | _ :: count :: _ => some (2 + count.toNat)
  | _ => none

/-- A greeting announces 255 methods at most. -/
theorem greetingLength_le {text : Bytes} {n : Nat} (length : greetingLength? text = some n) :
    n ≤ 257 := by
  obtain _ | ⟨version, _ | ⟨count, methods⟩⟩ := text
  · cases length
  · cases length
  · cases length
    have small := count.toNat_lt
    omega

/-- A text that ends within its greeting. -/
def Torn (text : Bytes) : Prop := ∀ n, greetingLength? text = some n → text.length < n

/-- Where so many bytes of a text have arrived, and its end if these are more than there are, its
greeting has arrived, or its end. -/
def GreetingArrived (text : Bytes) (k : Nat) : Prop :=
  text.length < k ∨ ∃ n, greetingLength? text = some n ∧ n ≤ k

theorem GreetingArrived.mono {text : Bytes} {k m : Nat} (arrived : GreetingArrived text k)
    (more : k ≤ m) : GreetingArrived text m := by
  obtain ended | ⟨n, length, within⟩ := arrived
  · exact .inl (Nat.lt_of_lt_of_le ended more)
  · exact .inr ⟨n, length, Nat.le_trans within more⟩

theorem GreetingArrived.pos {text : Bytes} {k : Nat} (arrived : GreetingArrived text k) :
    0 < k := by
  obtain ended | ⟨n, length, within⟩ := arrived
  · exact Nat.lt_of_le_of_lt (Nat.zero_le _) ended
  · match text, length with
    | _ :: _ :: _, rfl => omega

/-- Where something is still missing of a greeting, the text so far ends within it. -/
theorem torn_of_begun {e : Effort} (begun : GreetingBegun e) (missing : 0 < e.missing) :
    Torn e.bytes := by
  intro n length
  obtain two | ⟨version, count, more, shape, all⟩ := begun
  · match bytes : e.bytes, length with
    | _ :: _ :: _, _ =>
      rw [bytes, List.length_cons, List.length_cons] at two
      omega
  · rw [shape] at length ⊢
    cases length
    rw [List.length_cons, List.length_cons]
    omega

section

variable {σ : Type} [ByteStream σ] [LawfulStream σ] {e e' : Effort} {b after : BufferedSource σ}
  {r : Attempt Bytes}

namespace Effort

/-- Collecting fails at the end of the stream only, with something missing. -/
theorem collecting_fails (reliable : Reliable b.source) (positive : 0 < b.buffer.capacity)
    (collected : e.collecting b = ((r, e'), after)) :
    Reliable after.source ∧ ∀ x, r = .failed x →
      x = IoFault.earlyEnd ∧ 0 < e'.missing ∧ after.unread = [] := by
  obtain ⟨stays, fails⟩ := BufferedSource.collectFrom_fails readsWell_reliable e.missing e.pieces
    e.missing reliable positive
  rw [collecting, Transport.collect] at collected
  generalize Transport.collectFrom e.missing e.pieces e.missing b = x at stays fails collected
  obtain ⟨outcome, pieces, missing, source⟩ := x
  cases collected
  refine ⟨stays, fun x failed => ?_⟩
  cases outcome with
  | failed x' =>
    cases failed
    exact fails x rfl
  | done | blocked => cases failed

/-- **Reading a greeting fails only if the stream ends within it.** -/
theorem greeting_fails (begun : GreetingBegun e) (reliable : Reliable b.source)
    (positive : 0 < b.buffer.capacity) (greeted : e.greeting b = ((r, e'), after)) :
    Reliable after.source ∧ ∀ x, r = .failed x →
      x = IoFault.earlyEnd ∧ after.unread = [] ∧ Torn e'.bytes := by
  rw [greeting] at greeted
  split at greeted
  · next version count e₁ s₁ first =>
    obtain ⟨stays, _⟩ := collecting_fails reliable positive first
    obtain ⟨piece, took, bytes, _, done⟩ := collecting_spec first
    have two : e₁.bytes = [version, count] := (done _ rfl).1.symm
    rcases second : ({ e₁ with missing := count.toNat } : Effort).collecting s₁ with
      ⟨⟨outcome, e₂⟩, s₂⟩
    rw [second] at greeted
    cases greeted
    obtain ⟨stays, fails⟩ := collecting_fails stays (took.capacity ▸ positive) second
    obtain ⟨more, collects⟩ := collecting_spec second
    have begun : GreetingBegun { e₁ with missing := count.toNat } :=
      .inr ⟨version, count, [], two, Nat.zero_add _⟩
    refine ⟨stays, fun x failed => ?_⟩
    cases outcome with
    | failed x' =>
      cases failed
      obtain ⟨rfl, missing, ended⟩ := fails x rfl
      exact ⟨rfl, ended, torn_of_begun (greetingBegun_of_collects begun collects) missing⟩
    | done | blocked => cases failed
  · next outcome e₁ s₁ other first =>
    cases greeted
    obtain ⟨stays, fails⟩ := collecting_fails reliable positive first
    obtain ⟨piece, collects⟩ := collecting_spec first
    refine ⟨stays, fun x failed => ?_⟩
    cases outcome with
    | failed x' =>
      cases failed
      obtain ⟨rfl, missing, ended⟩ := fails x rfl
      exact ⟨rfl, ended, torn_of_begun (greetingBegun_of_collects begun collects) missing⟩
    | done | blocked => cases failed

/-- Collecting does not wait for bytes that are supplied. -/
theorem collecting_advances {k : Nat} (supplies : Supplies k b) (within : e.missing ≤ k)
    (collected : e.collecting b = ((r, e'), after)) :
    r ≠ .blocked ∧ ∀ all, r = .done all → Supplies (k - e.missing) after := by
  obtain ⟨unblocked, done⟩ := BufferedSource.collectFrom_supplies e.pieces supplies
    within (Nat.le_refl _)
  rw [collecting, Transport.collect] at collected
  generalize Transport.collectFrom e.missing e.pieces e.missing b = x at unblocked done collected
  obtain ⟨outcome, pieces, missing, source⟩ := x
  cases collected
  cases outcome with
  | done => exact ⟨by rintro ⟨⟩, fun _ _ => done rfl⟩
  | failed => exact ⟨by rintro ⟨⟩, by rintro _ ⟨⟩⟩
  | blocked => exact absurd rfl unblocked

/-- What is missing of the first two bytes of a greeting, or of the methods that they announce, is
missing of the greeting. -/
theorem missing_le_of_begun {rest : Bytes} {n : Nat} (begun : GreetingBegun e)
    (length : greetingLength? (e.bytes ++ rest) = some n) : e.bytes.length + e.missing ≤ n := by
  obtain two | ⟨version, count, more, shape, all⟩ := begun
  · rw [two]
    match e.bytes ++ rest, length with
    | _ :: count :: _, rfl => exact Nat.le_add_right 2 _
  · rw [shape] at length ⊢
    cases length
    rw [List.length_cons, List.length_cons]
    omega

/-- Once a greeting has arrived, or the end of the stream, as much is supplied as an attempt to read
the greeting collects. -/
theorem exists_supplies {k : Nat} (begun : GreetingBegun e) (supplies : Supplies k b.source)
    (positive : 0 < b.buffer.capacity)
    (arrived : GreetingArrived (e.bytes ++ b.unread) (e.bytes.length + (b.held.length + k))) :
    ∃ m, Supplies m b ∧ e.missing ≤ m ∧
      ∀ n, greetingLength? (e.bytes ++ b.unread) = some n → n ≤ e.bytes.length + m := by
  obtain ended | ⟨n, length, within⟩ := arrived
  · have beyond : (traffic b.source).coming.length < k := by
      rw [List.length_append, BufferedSource.unread, List.length_append] at ended
      omega
    refine ⟨e.missing + 257, BufferedSource.supplies_of_source (supplies.of_beyond beyond) positive
      (Nat.le_add_left _ _), Nat.le_add_right _ _, fun n length => ?_⟩
    calc n ≤ 257 := greetingLength_le length
      _ ≤ e.missing + 257 := Nat.le_add_left _ _
      _ ≤ e.bytes.length + (e.missing + 257) := Nat.le_add_left _ _
  · refine ⟨b.held.length + k, BufferedSource.supplies_of_source supplies positive (Nat.le_refl _),
      ?_, fun n' length' => ?_⟩
    · have least := missing_le_of_begun begun length
      omega
    · cases length.symm.trans length'
      exact within

/-- **Reading a greeting does not wait once that has arrived**, or the end of the stream. -/
theorem greeting_advances {k : Nat} (begun : GreetingBegun e) (supplies : Supplies k b.source)
    (positive : 0 < b.buffer.capacity)
    (arrived : GreetingArrived (e.bytes ++ b.unread) (e.bytes.length + (b.held.length + k)))
    (greeted : e.greeting b = ((r, e'), after)) : r ≠ .blocked := by
  obtain ⟨m, supplies, within, enough⟩ := exists_supplies begun supplies positive arrived
  rw [greeting] at greeted
  split at greeted
  · next version count e₁ s₁ first =>
    obtain ⟨_, onward⟩ := collecting_advances supplies within first
    obtain ⟨piece, took, bytes, total, done⟩ := collecting_spec first
    obtain ⟨two, none⟩ := done _ rfl
    have whole : greetingLength? (e.bytes ++ b.unread) = some (2 + count.toNat) := by
      rw [took.unread, ← List.append_assoc, ← bytes, ← two]
      rfl
    have left : count.toNat ≤ m - e.missing := by
      have least := enough _ whole
      have length := congrArg List.length (two.trans bytes)
      rw [List.length_append] at length
      change 2 = _ at length
      omega
    rcases second : ({ e₁ with missing := count.toNat } : Effort).collecting s₁ with
      ⟨⟨outcome, e₂⟩, s₂⟩
    rw [second] at greeted
    cases greeted
    obtain ⟨unblocked, _⟩ := collecting_advances (onward _ rfl) left second
    cases outcome with
    | done | failed => rintro ⟨⟩
    | blocked => exact absurd rfl unblocked
  · next outcome e₁ s₁ other first =>
    cases greeted
    obtain ⟨unblocked, _⟩ := collecting_advances supplies within first
    cases outcome with
    | done | failed => rintro ⟨⟩
    | blocked => exact absurd rfl unblocked

end Effort

end

/-! ## Answers -/

variable {σ τ : Type}

/-- The connection has the client's stream, and that can be relied on. -/
def Post.IsReliable [ByteStream σ] (p : Post σ τ) : Prop :=
  ∃ (b : BufferedSource σ) (w : Transport.WriteBuffer),
    p.connection.link = .attached b.source b.buffer w ∧ Reliable b.source

/-- The questions that are put to refuse a greeting. -/
inductive Question.Refuses : Question → Prop where
  | firstByte : Refuses .firstByte
  | greeting : Refuses .greeting
  | refusal (response : Bytes) : Refuses (.refusal response)

/-- How such a question is answered while the client's stream can be relied on: only reading a
greeting fails, and only at the end of a stream that ends within it.  A deadline passes only where
that is reckoned with. -/
def AnswersWell (late : Prop) : (q : Question) → q.Answer → Ledger → Ledger → Prop
  | .firstByte, .failed _, _, _ => False
  | .firstByte, .expired, _, _ => late
  | .greeting, .failed e, l, l' => e = IoFault.earlyEnd ∧ Torn l.unread ∧ l'.unread = []
  | .greeting, .expired, _, _ => late
  | .refusal _, .error _, _, _ => False
  | _, _, _, _ => True

section

variable [ByteStream σ] {p : Post σ τ} {e : Effort} {late : Prop}

theorem isReliable_onStream {stream : σ} (reliable : p.IsReliable) (new : Reliable stream) :
    (p.onStream fun _ => stream).IsReliable := by
  obtain ⟨b, w, link, _⟩ := reliable
  refine ⟨⟨b.buffer, stream⟩, w, ?_, new⟩
  rw [Post.onStream, Connection.onStream, link]

variable [ByteStream τ] {l : Ledger}

theorem Effort.firstByte_faithful (reliable : p.IsReliable) :
    (e.attempt p .firstByte).post.IsReliable ∧ ∀ a, (e.attempt p .firstByte).answer = some a →
      AnswersWell late .firstByte a l (e.attempt p .firstByte).post.ledger := by
  obtain ⟨b, w, link, here⟩ := reliable
  obtain ⟨stays, fails⟩ := BufferedSource.fill_readsWell readsWell_reliable here
  have same : e.attempt p .firstByte = e.reading p e.firstByte := rfl
  rw [same, reading, connection_reading link, firstByte]
  generalize b.fill = x at stays fails
  obtain ⟨r, after⟩ := x
  cases r with
  | done => exact ⟨⟨after, w, rfl, stays⟩, by rintro _ ⟨⟩; trivial⟩
  | failed x => exact absurd rfl (fails x)
  | blocked => exact ⟨⟨after, w, rfl, stays⟩, by rintro _ ⟨⟩⟩

theorem Effort.refusal_faithful {response : Bytes} (reliable : p.IsReliable) :
    (e.attempt p (.refusal response)).post.IsReliable ∧
      ∀ a, (e.attempt p (.refusal response)).answer = some a →
        AnswersWell late (.refusal response) a l (e.attempt p (.refusal response)).post.ledger := by
  obtain ⟨b, w, link, here⟩ := reliable
  obtain ⟨stays, fails⟩ := (BufferedSink.writesWell writesWell_reliable).respondFrom e.rest
    (s := ⟨w, b.source⟩) here
  have same : e.attempt p (.refusal response) = e.writing p := rfl
  rw [same, writing, connection_writing link]
  generalize Message.respondFrom e.rest (⟨w, b.source⟩ : BufferedSink σ) = x at stays fails
  obtain ⟨outcome, rest, after⟩ := x
  cases outcome with
  | done => exact ⟨⟨⟨b.buffer, after.sink⟩, after.buffer, rfl, stays⟩, by rintro _ ⟨⟩; trivial⟩
  | failed x => exact absurd rfl (fails x)
  | blocked => exact ⟨⟨⟨b.buffer, after.sink⟩, after.buffer, rfl, stays⟩, by rintro _ ⟨⟩⟩

variable [LawfulStream σ]

theorem Effort.greeting_faithful (proper : p.Proper) (reliable : p.IsReliable)
    (underway : Underway .greeting e l p.ledger) (room : 0 < l.room) :
    (e.attempt p .greeting).post.IsReliable ∧ ∀ a, (e.attempt p .greeting).answer = some a →
      AnswersWell late .greeting a l (e.attempt p .greeting).post.ledger := by
  obtain ⟨b, w, link, here⟩ := reliable
  obtain ⟨_, ⟨rfl, begun⟩, moves⟩ := underway
  rcases greeted : e.greeting ⟨b.buffer, b.source⟩ with ⟨⟨r, e'⟩, after⟩
  obtain ⟨piece, took, bytes, _⟩ := greeting_spec begun greeted
  obtain ⟨stays, fails⟩ :=
    greeting_fails begun here (capacity_pos proper link (moves.room ▸ room)) greeted
  have same : e.attempt p .greeting = e.reading p e.greeting := rfl
  rw [same, reading, connection_reading link, greeted]
  cases r with
  | done => exact ⟨⟨after, w, rfl, stays⟩, by rintro _ ⟨⟩; trivial⟩
  | blocked => exact ⟨⟨after, w, rfl, stays⟩, by rintro _ ⟨⟩⟩
  | failed x =>
    refine ⟨⟨after, w, rfl, stays⟩, ?_⟩
    rintro _ ⟨⟩
    obtain ⟨rfl, ended, torn⟩ := fails x rfl
    refine ⟨rfl, ?_, ended⟩
    have whole : l.unread = e'.bytes := by
      rw [moves.unread, unread_of_link link, bytes]
      change e.bytes ++ (⟨b.buffer, b.source⟩ : BufferedSource σ).unread = _
      rw [took.unread, ended, List.append_nil]
    rw [whole]
    exact torn

/-- **An attempt at a question of a refusal keeps the stream reliable, and is answered well.** -/
theorem Effort.attempt_faithful (late : Prop) {q : Question} (kind : q.Refuses)
    (proper : p.Proper) (reliable : p.IsReliable) (underway : Underway q e l p.ledger)
    (room : 0 < l.room) :
    (e.attempt p q).post.IsReliable ∧ ∀ a, (e.attempt p q).answer = some a →
      AnswersWell late q a l (e.attempt p q).post.ledger := by
  cases kind with
  | firstByte => exact firstByte_faithful reliable
  | greeting => exact greeting_faithful proper reliable underway room
  | refusal => exact refusal_faithful reliable

end

end Wiretap.Session
