import Wiretap.Proofs.Session.Ledger

/-!
# What one attempt does

One attempt to answer a question moves on from what the attempts before have moved, and whatever the
streams do, it leaves the question under way or gives an answer that is right (`attempt_meets`).
-/

namespace Wiretap.Session

set_option autoImplicit false

open Message (HeadReader cutLines)
open Transport (Attempt BufferedSink BufferedSource ByteSource ByteStream Copy LawfulStream Traffic
  traffic)
open Transport.BufferedSource (Took)

variable {σ τ : Type}

/-! ## Posts and efforts -/

namespace Effort

/-- Reading through the buffer of an attached stream. -/
theorem connection_reading {α : Type} {c : Connection σ}
    {f : BufferedSource σ → α × BufferedSource σ} {s : σ} {r : Transport.ReadBuffer}
    {w : Transport.WriteBuffer}
    (attached : c.link = .attached s r w) :
    c.reading f = (.ok (f ⟨r, s⟩).1,
      { c with link := .attached (f ⟨r, s⟩).2.source (f ⟨r, s⟩).2.buffer w }) := by
  rw [Connection.reading, attached]

/-- Writing through the buffer of an attached stream. -/
theorem connection_writing {α : Type} {c : Connection σ} {f : BufferedSink σ → α × BufferedSink σ}
    {s : σ} {r : Transport.ReadBuffer} {w : Transport.WriteBuffer}
    (attached : c.link = .attached s r w) :
    c.writing f = (.ok (f ⟨w, s⟩).1,
      { c with link := .attached (f ⟨w, s⟩).2.sink r (f ⟨w, s⟩).2.buffer }) := by
  rw [Connection.writing, attached]

/-- While the stream is raw, another one can take its place. -/
theorem proper_of_raw {p : Post σ τ} {s s' : σ} (proper : p.Proper) (raw : p.raw = some s) :
    ({ p with raw := some s' } : Post σ τ).Proper := by
  intro _ _ _ link
  have := (proper _ _ _ link).2
  rw [raw] at this
  cases this

theorem closed_post (e : Effort) (p : Post σ τ) (r : Attempt Unit) : (e.closed p r).post = p := by
  cases r <;> rfl

theorem getD_outbound (r : Attempt Copy) (e : Effort) :
    (r.map fun outbound => { e with outbound }).getD e =
      { e with outbound := r.getD e.outbound } := by
  cases r <;> rfl

theorem getD_inbound (r : Attempt Copy) (e : Effort) :
    (r.map fun inbound => { e with inbound }).getD e = { e with inbound := r.getD e.inbound } := by
  cases r <;> rfl

/-- Without a far side nothing is read. -/
theorem pull_waits [Transport.ByteSource σ] [Transport.ByteSource τ] {d : Observer.Direction}
    {n : Nat} {e : Effort} {p : Post σ τ} (absent : (e.pull d n p).2.far = none) :
    (e.pull d n p).1 = .blocked ∧ p.far = none := by
  obtain ⟨connection, raw, leaving, far⟩ := p
  cases far with
  | none => cases d <;> cases raw <;> exact ⟨rfl, rfl⟩
  | some t => cases d <;> cases raw <;> cases absent

/-- Without a far side nothing is written. -/
theorem push_waits [Transport.ByteSink σ] [Transport.ByteSink τ] {d : Observer.Direction}
    {e : Effort} {p : Post σ τ} (absent : (e.push d p).2.far = none) :
    (e.push d p).1 = .blocked ∧ p.far = none := by
  obtain ⟨connection, raw, leaving, far⟩ := p
  cases far with
  | none => cases d <;> cases raw <;> exact ⟨rfl, rfl⟩
  | some t => cases d <;> cases raw <;> cases absent

end Effort

variable [ByteStream σ] [ByteStream τ]

namespace Effort.Outcome

/-- An attempt gives a right answer, or leaves an effort that is right. -/
def Meets {α : Type} (x : Outcome σ τ α) (answers : α → Ledger → Prop)
    (waits : Effort → Ledger → Prop) : Prop :=
  x.post.Proper ∧
    match x.answer with
    | some a => answers a x.post.ledger
    | none => waits x.effort x.post.ledger

theorem Meets.imp {α : Type} {x : Outcome σ τ α} {answers answers' : α → Ledger → Prop}
    {waits waits' : Effort → Ledger → Prop} (meets : x.Meets answers waits)
    (answered : ∀ a l, answers a l → answers' a l) (waiting : ∀ e l, waits e l → waits' e l) :
    x.Meets answers' waits' := by
  obtain ⟨answer, e, p⟩ := x
  obtain ⟨proper, meets⟩ := meets
  cases answer with
  | some a => exact ⟨proper, answered a _ meets⟩
  | none => exact ⟨proper, waiting e _ meets⟩

end Effort.Outcome

namespace Effort

/-! ## Reading -/

/-- Reading through the buffer takes from the client what is taken off the buffered source. -/
theorem moves_of_took {p : Post σ τ} {b : BufferedSource σ} {s : σ} {r : Transport.ReadBuffer}
    {w : Transport.WriteBuffer} {piece : Bytes}
    (attached : p.connection.link = .attached s r w) (took : Took ⟨r, s⟩ b piece) :
    p.ledger.Moves
      ({ p with connection := { p.connection with link := .attached b.source b.buffer w } } :
        Post σ τ).ledger { taken := piece } := by
  obtain ⟨⟨size, link⟩, raw, leaving, far⟩ := p
  cases attached
  refine ⟨took.unread, ?_, took.passed, (List.append_nil _).symm, rfl, rfl, rfl⟩
  change (traffic b.source).given ++ w.pending = (traffic s).given ++ w.pending ++ []
  rw [took.given, List.append_nil]

/-- What one attempt to read comes to, if it takes what it takes and answers rightly. -/
theorem reading_meets {α : Type} {e : Effort} {p : Post σ τ} {l : Ledger} {before : Bytes}
    {f : BufferedSource σ → (Attempt α × Effort) × BufferedSource σ}
    {answers : Reading α → Ledger → Prop} {waits : Effort → Ledger → Prop} (proper : p.Proper)
    (moves : l.Moves p.ledger { taken := before })
    (unattached : ∀ x, answers (.failed x) p.ledger)
    (reads : ∀ b : BufferedSource σ, b.buffer.capacity = l.room → ∃ piece, Took b (f b).2 piece ∧
      ∀ l', l.unread = before ++ b.unread → l'.unread = (f b).2.unread →
        l.Moves l' { taken := before ++ piece } →
          match (f b).1 with
          | (.done a, _) => answers (.got a) l'
          | (.failed x, _) => answers (.failed x) l'
          | (.blocked, e) => waits e l') :
    (e.reading p f).Meets answers waits := by
  obtain ⟨⟨size, link⟩, raw, leaving, far⟩ := p
  cases link with
  | attached s r w =>
    obtain ⟨capacity, only⟩ := proper s r w rfl
    obtain ⟨piece, took, fits⟩ := reads ⟨r, s⟩ (capacity.trans moves.room)
    have further := moves.trans (moves_of_took rfl took)
    have fits := fits _ moves.unread rfl further
    have still : (⟨⟨size, .attached (f ⟨r, s⟩).2.source (f ⟨r, s⟩).2.buffer w⟩, raw, leaving, far⟩ :
        Post σ τ).Proper := by
      rintro _ _ _ ⟨⟩
      exact ⟨took.capacity.trans capacity, only⟩
    rw [reading, connection_reading rfl]
    generalize f ⟨r, s⟩ = result at fits still
    obtain ⟨⟨outcome, e'⟩, b⟩ := result
    cases outcome with
    | done a => exact ⟨still, fits⟩
    | failed x => exact ⟨still, fits⟩
    | blocked => exact ⟨still, fits⟩
  | detached => exact ⟨proper, unattached _⟩
  | closed => exact ⟨proper, unattached _⟩

theorem firstByte_meets [LawfulStream σ] {e : Effort} {p : Post σ τ} {l : Ledger}
    (proper : p.Proper) (rests : l.Rests p.ledger) :
    (e.reading p e.firstByte).Meets (Settles .firstByte · l ·) (Underway .firstByte · l ·) := by
  refine reading_meets proper rests (fun _ => rests) fun b room => ?_
  obtain ⟨filled, ended⟩ := b.fill_spec
  refine ⟨[], filled, fun l' unread left moves => ?_⟩
  rw [firstByte]
  cases fill : b.fill with
  | mk r after =>
    rw [fill] at filled ended
    cases r with
    | done =>
      refine ⟨fun positive => ?_, moves⟩
      change after.held.head? = l.unread.head?
      rw [unread, filled.unread]
      change after.held.head? = (after.held ++ (traffic after.source).coming).head?
      cases held : after.held with
      | nil =>
        have none := ended rfl (room ▸ positive) held
        rw [filled.unread, BufferedSource.unread] at none
        rw [← held]
        simp_all
      | cons b rest => rfl
    | failed x => exact moves
    | blocked => exact ⟨{}, rfl, moves⟩

theorem head_meets [LawfulStream σ] {e : Effort} {p : Post σ τ} {l : Ledger} (proper : p.Proper)
    (underway : Underway .head e l p.ledger) :
    (e.reading p e.head).Meets (Settles .head · l ·) (Underway .head · l ·) := by
  obtain ⟨_, ⟨before, fed, rfl⟩, moves⟩ := underway
  refine reading_meets proper moves (fun _ => ⟨before, moves⟩) fun b room => ?_
  obtain ⟨piece, took, found⟩ := BufferedSource.headFrom_spec (ByteSource.ready b + 2) e.reader b
  refine ⟨piece, took, fun l' unread left further => ?_⟩
  have carried : HeadReader.feed {} (before ++ piece) = e.reader.feed piece := by
    rw [HeadReader.feed_append, fed]
  change l'.unread = (Message.headFrom (ByteSource.ready b + 2) e.reader b).source.unread at left
  rw [head, Message.readHead]
  generalize Message.headFrom (ByteSource.ready b + 2) e.reader b = x at found left
  obtain ⟨outcome, reader, source⟩ := x
  cases outcome with
  | done ended =>
    refine ⟨fun positive => ?_, _, further⟩
    rw [← HeadReader.found_eq_cutLines, unread, HeadReader.found_append_of_ok fed, left]
    exact found (room ▸ positive)
  | failed x => exact ⟨_, further⟩
  | blocked => exact ⟨_, ⟨_, carried.trans found, rfl⟩, further⟩

/-- Some bytes have been collected behind those collected before, and what is missing is less by as
many. -/
structure Collects (e : Effort) (before : BufferedSource σ) (r : Attempt Bytes) (e' : Effort)
    (after : BufferedSource σ) (piece : Bytes) : Prop where
  took : Took before after piece
  bytes : e'.bytes = e.bytes ++ piece
  count : piece.length + e'.missing = e.missing
  done : ∀ all, r = .done all → all = e'.bytes ∧ e'.missing = 0

theorem collecting_spec [LawfulStream σ] {e e' : Effort} {b after : BufferedSource σ}
    {r : Attempt Bytes} (collected : e.collecting b = ((r, e'), after)) :
    ∃ piece, Collects e b r e' after piece := by
  obtain ⟨piece, took, bytes, count, done⟩ :=
    BufferedSource.collectFrom_spec e.missing e.pieces e.missing b
  rw [collecting, Transport.collect] at collected
  generalize Transport.collectFrom e.missing e.pieces e.missing b = x
    at took bytes count done collected
  obtain ⟨outcome, pieces, missing, source⟩ := x
  cases collected
  refine ⟨piece, took, bytes, count, fun all found => ?_⟩
  cases outcome with
  | done =>
    cases found
    exact ⟨rfl, done rfl⟩
  | failed x => cases found
  | blocked => cases found

theorem body_meets [LawfulStream σ] {e : Effort} {p : Post σ τ} {l : Ledger} {n : Nat}
    (proper : p.Proper) (underway : Underway (.body n) e l p.ledger) :
    (e.reading p e.collecting).Meets (Settles (.body n) · l ·) (Underway (.body n) · l ·) := by
  obtain ⟨_, ⟨rfl, total⟩, moves⟩ := underway
  refine reading_meets proper moves (fun _ => ⟨_, moves⟩) fun b _ => ?_
  rcases collected : e.collecting b with ⟨⟨r, e'⟩, after⟩
  obtain ⟨piece, took, bytes, count, done⟩ := collecting_spec collected
  refine ⟨piece, took, fun l' _ _ further => ?_⟩
  have sum : e'.bytes.length + e'.missing = n := by
    rw [bytes, List.length_append]
    omega
  rw [← bytes] at further
  cases r with
  | done all =>
    obtain ⟨rfl, none⟩ := done all rfl
    exact ⟨by rwa [none] at sum, further⟩
  | failed x => exact ⟨_, further⟩
  | blocked => exact ⟨_, ⟨rfl, sum⟩, further⟩

theorem greetingBegun_of_collects {e e' : Effort} {b after : BufferedSource σ} {r : Attempt Bytes}
    {piece : Bytes} (begun : GreetingBegun e) (collects : Collects e b r e' after piece) :
    GreetingBegun e' := by
  obtain ⟨_, bytes, count, _⟩ := collects
  obtain two | ⟨version, methods, more, shape, all⟩ := begun
  · refine .inl ?_
    rw [bytes, List.length_append]
    omega
  · refine .inr ⟨version, methods, more ++ piece, by rw [bytes, shape]; rfl, ?_⟩
    rw [List.length_append]
    omega

/-- What the attempts to collect a greeting have come to. -/
def Greeted (r : Attempt Bytes) (e : Effort) : Prop :=
  match r with
  | .done methods => ∃ version count : UInt8,
    e.bytes = version :: count :: methods ∧ methods.length = count.toNat
  | .failed _ => True
  | .blocked => GreetingBegun e

/-- An attempt may collect the first two bytes of a greeting and go on with its methods. -/
theorem greeting_spec [LawfulStream σ] {e e' : Effort} {b after : BufferedSource σ}
    {r : Attempt Bytes} (begun : GreetingBegun e) (greeted : e.greeting b = ((r, e'), after)) :
    ∃ piece, Took b after piece ∧ e'.bytes = e.bytes ++ piece ∧ Greeted r e' := by
  rw [greeting] at greeted
  split at greeted
  · next version count e₁ s₁ first =>
    obtain ⟨piece, took, bytes, _, done⟩ := collecting_spec first
    have two : e₁.bytes = [version, count] := (done _ rfl).1.symm
    rcases second : ({ e₁ with missing := count.toNat } : Effort).collecting s₁ with
      ⟨⟨outcome, e₂⟩, s₂⟩
    rw [second] at greeted
    cases greeted
    obtain ⟨more, took', bytes', total, done'⟩ := collecting_spec second
    have all : e'.bytes = e₁.bytes ++ more := bytes'
    refine ⟨piece ++ more, took.trans took', by rw [all, bytes, List.append_assoc], ?_⟩
    rw [two] at all
    cases outcome with
    | done found =>
      obtain ⟨rfl, none⟩ := done' found rfl
      rw [none] at total
      refine ⟨version, count, ?_, ?_⟩
      · rw [all]; rfl
      · rw [all]; exact total
    | failed x => trivial
    | blocked => exact .inr ⟨version, count, more, all, total⟩
  · next outcome e₁ s₁ other first =>
    cases greeted
    obtain ⟨piece, collects⟩ := collecting_spec first
    have still := greetingBegun_of_collects begun collects
    refine ⟨piece, collects.took, collects.bytes, ?_⟩
    cases outcome with
    | done all =>
      obtain ⟨rfl, none⟩ := collects.done all rfl
      obtain two | ⟨version, count, more, shape, total⟩ := still
      · obtain ⟨version, count, shape⟩ := List.length_eq_two.mp (by rwa [none] at two)
        exact absurd (congrArg Attempt.done shape) (other version count)
      · refine ⟨version, count, by rw [shape]; rfl, ?_⟩
        rw [shape]
        rwa [none] at total
    | failed x => trivial
    | blocked => exact still

theorem greeting_meets [LawfulStream σ] {e : Effort} {p : Post σ τ} {l : Ledger} (proper : p.Proper)
    (underway : Underway .greeting e l p.ledger) :
    (e.reading p e.greeting).Meets (Settles .greeting · l ·) (Underway .greeting · l ·) := by
  obtain ⟨_, ⟨rfl, begun⟩, moves⟩ := underway
  refine reading_meets proper moves (fun _ => ⟨_, moves⟩) fun b _ => ?_
  rcases attempt : e.greeting b with ⟨⟨r, e'⟩, after⟩
  obtain ⟨piece, took, bytes, greeted⟩ := greeting_spec begun attempt
  refine ⟨piece, took, fun l' _ _ further => ?_⟩
  rw [← bytes] at further
  cases r with
  | done methods =>
    obtain ⟨version, count, shape, total⟩ := greeted
    exact ⟨version, count, total, shape ▸ further⟩
  | failed x => exact ⟨_, further⟩
  | blocked => exact ⟨_, ⟨rfl, greeted⟩, further⟩

/-! ## Writing -/

/-- What writing a response, of which a first part has been written, comes to. -/
def Responds (response : Bytes) (l : Ledger) : Except IoFault Unit → Ledger → Prop
  | .ok (), l' => l.Moves l' { given := response } ∧ l'.passed = l'.written
  | .error _, l' => ∃ given, given <+: response ∧ l.Moves l' { given }

/-- What is known while a response is written. -/
def Responding (response : Bytes) (l : Ledger) (e : Effort) (l' : Ledger) : Prop :=
  ∃ given, response = given ++ e.rest ∧ l.Moves l' { given }

/-- What is known of the bytes written decides what an attempt to write comes to. -/
theorem written_meets {response given rest : Bytes} {e : Effort} {p : Post σ τ} {l : Ledger}
    {outcome : Attempt Unit} (proper : p.Proper) (split : response = given ++ rest)
    (moves : l.Moves p.ledger { given })
    (done : outcome = .done () → rest = [] ∧ p.ledger.passed = p.ledger.written) :
    (written { e with rest } p outcome).Meets (Responds response l) (Responding response l) := by
  cases outcome with
  | done =>
    obtain ⟨rfl, all⟩ := done rfl
    rw [List.append_nil] at split
    exact ⟨proper, split ▸ moves, all⟩
  | failed x => exact ⟨proper, given, ⟨rest, split.symm⟩, moves⟩
  | blocked => exact ⟨proper, given, split, moves⟩

/-- What has been written through the buffer goes behind what has been written to the client. -/
theorem moves_of_written {p : Post σ τ} {b : BufferedSink σ} {s : σ} {r : Transport.ReadBuffer}
    {w : Transport.WriteBuffer} {sent : Bytes} (attached : p.connection.link = .attached s r w)
    (rests : ((traffic (⟨w, s⟩ : BufferedSink σ)).write sent).Rests (traffic b)) :
    p.ledger.Moves
      ({ p with connection := { p.connection with link := .attached b.sink r b.buffer } } :
        Post σ τ).ledger { given := sent } := by
  obtain ⟨⟨size, link⟩, raw, leaving, far⟩ := p
  cases attached
  obtain ⟨_, coming, given, passed⟩ := rests
  exact ⟨congrArg (r.held ++ ·) coming.symm, given, passed, (List.append_nil _).symm, rfl, rfl, rfl⟩

theorem writing_meets [LawfulStream σ] {response : Bytes} {e : Effort} {p : Post σ τ} {l : Ledger}
    (proper : p.Proper) (responding : Responding response l e p.ledger) :
    (e.writing p).Meets (Responds response l) (Responding response l) := by
  obtain ⟨given, split, moves⟩ := responding
  obtain ⟨⟨size, link⟩, raw, leaving, far⟩ := p
  cases link with
  | attached s r w =>
    obtain ⟨sent, rest, gives, done⟩ :=
      Transport.respondFrom_spec e.rest (⟨w, s⟩ : BufferedSink σ)
    have further := moves.trans (moves_of_written rfl gives)
    have whole : response = (given ++ sent) ++
        (Message.respondFrom e.rest (⟨w, s⟩ : BufferedSink σ)).rest := by
      rw [List.append_assoc, ← rest, split]
    refine written_meets (fun _ _ _ link => ?_) whole further done
    cases link
    exact proper s r w rfl
  | detached => exact ⟨proper, given, ⟨_, split.symm⟩, moves⟩
  | closed => exact ⟨proper, given, ⟨_, split.symm⟩, moves⟩

/-- A stream that is raw is not behind the buffers of the connection. -/
theorem ledger_of_raw {p : Post σ τ} {s : σ} (proper : p.Proper) (raw : p.raw = some s) :
    p.ledger = ⟨(traffic s).coming, (traffic s).given, (traffic s).passed, p.farTraffic.given,
      p.farTraffic.taken, p.farTraffic.coming, p.connection.bufferSize⟩ := by
  obtain ⟨⟨size, link⟩, _, leaving, far⟩ := p
  cases raw
  cases link with
  | attached s' r w => cases (proper s' r w rfl).2
  | detached => rfl
  | closed => rfl

theorem rawWriting_meets [LawfulStream σ] {response : Bytes} {e : Effort} {p : Post σ τ}
    {l : Ledger} (proper : p.Proper) (responding : Responding response l e p.ledger) :
    (e.rawWriting p).Meets (Responds response l) (Responding response l) := by
  obtain ⟨given, split, moves⟩ := responding
  rw [rawWriting]
  split
  · exact ⟨proper, given, ⟨_, split.symm⟩, moves⟩
  · next s raw =>
    obtain ⟨sent, rest, ⟨_, coming, written, passed⟩, done⟩ :=
      Transport.respondFrom_spec e.rest s
    have still : ({ p with raw := some (Message.respondFrom e.rest s).sink } : Post σ τ).Proper :=
      proper_of_raw proper raw
    have sends : p.ledger.Moves
        ({ p with raw := some (Message.respondFrom e.rest s).sink } : Post σ τ).ledger
        { given := sent } := by
      rw [ledger_of_raw proper raw, ledger_of_raw still rfl]
      exact ⟨coming.symm, written, passed, (List.append_nil _).symm, rfl, rfl, rfl⟩
    refine written_meets still ?_ (moves.trans sends) fun all => ?_
    · rw [List.append_assoc, ← rest, split]
    · rw [ledger_of_raw still rfl]
      exact done all

theorem sendingAhead_meets [LawfulStream τ] {data : Bytes} {e : Effort} {p : Post σ τ} {l : Ledger}
    (proper : p.Proper) (underway : Underway (.sendAhead data) e l p.ledger) :
    (e.sendingAhead p).Meets (Settles (.sendAhead data) · l ·)
      (Underway (.sendAhead data) · l ·) := by
  obtain ⟨_, ⟨sent, split, rfl⟩, moves⟩ := underway
  obtain ⟨connection, raw, leaving, far⟩ := p
  cases far with
  | none => exact ⟨proper, sent, ⟨_, split.symm⟩, moves⟩
  | some t =>
    obtain ⟨more, rest, ⟨taken, coming, given, _⟩, done⟩ := Transport.writeAll_spec e.rest t
    rw [sendingAhead]
    dsimp only
    generalize Transport.writeAll e.rest t = w at rest taken coming given done
    have sends : (⟨connection, raw, leaving, some t⟩ : Post σ τ).ledger.Moves
        (⟨connection, raw, leaving, some w.sink⟩ : Post σ τ).ledger { sent := more } :=
      ⟨rfl, (List.append_nil _).symm, List.prefix_refl _, given, taken, coming, rfl⟩
    have further := moves.trans sends
    rw [rest, ← List.append_assoc] at split
    obtain ⟨outcome, rest, t'⟩ := w
    cases outcome with
    | done =>
      obtain rfl := done rfl
      rw [List.append_nil] at split
      exact ⟨proper, split ▸ further⟩
    | failed x => exact ⟨proper, _, ⟨_, split.symm⟩, further⟩
    | blocked => exact ⟨proper, _, ⟨_, split, rfl⟩, further⟩

/-! ## Handing over and closing -/

theorem detaching_meets [LawfulStream σ] {e : Effort} {p : Post σ τ} {l : Ledger}
    (proper : p.Proper) (rests : l.Rests p.ledger) :
    (e.detaching p).Meets (Settles .detach · l ·) (Underway .detach · l ·) := by
  have lost : p.ledger.toFar = l.toFar := rests.toFar.trans (List.append_nil _)
  obtain ⟨⟨size, link⟩, raw, leaving, far⟩ := p
  cases link with
  | attached s r w =>
    obtain ⟨flushed, done⟩ := (⟨w, s⟩ : BufferedSink σ).flush_spec
    rw [detaching, Connection.handOver, connection_writing rfl]
    dsimp only
    rcases flush : (⟨w, s⟩ : BufferedSink σ).flush with ⟨outcome, b⟩
    rw [flush] at flushed done
    cases outcome with
    | done =>
      obtain ⟨empty, all⟩ := done rfl
      rw [BufferedSink.traffic_of_empty empty] at flushed all
      obtain ⟨_, coming, given, passed⟩ := flushed
      have hands : (⟨⟨size, .attached s r w⟩, raw, leaving, far⟩ : Post σ τ).ledger.Moves
          (⟨⟨size, .detached⟩, some b.sink, leaving, far⟩ : Post σ τ).ledger { taken := r.held } :=
        ⟨congrArg (r.held ++ ·) coming.symm, given.trans (List.append_nil _).symm, passed,
          (List.append_nil _).symm, rfl, rfl, rfl⟩
      exact ⟨nofun, rests.trans hands, all⟩
    | failed x => exact ⟨nofun, lost⟩
    | blocked =>
      refine ⟨fun _ _ _ link => ?_, {}, rfl, rests.rests (moves_of_written rfl ?_)⟩
      · cases link
        exact proper s r w rfl
      · rwa [Traffic.write_nil]
  | detached => exact ⟨proper, lost⟩
  | closed => exact ⟨proper, lost⟩

theorem closing_meets {e : Effort} {p : Post σ τ} {l : Ledger} (proper : p.Proper) :
    (e.closing p).Meets (Settles .close · l ·) (Underway .close · l ·) := by
  refine ⟨?_, by split <;> trivial⟩
  rw [closing]
  split
  · rw [closed_post]
    exact proper
  · rw [closed_post]
    obtain ⟨⟨size, link⟩, raw, leaving, far⟩ := p
    cases link <;> exact nofun

/-! ## Tunnels -/

theorem carrying_meets {e : Effort} {p : Post σ τ} {l : Ledger} (proper : p.Proper)
    (carries : Carries [] e.outbound e.inbound l p.ledger) :
    (e.carrying p).Meets (Settles .carry · l ·) (Underway .carry · l ·) := by
  rw [carrying]
  split
  · exact ⟨proper, _, _, carries, rfl, rfl, nofun⟩
  · refine ⟨proper, ?_⟩
    by_cases ended : e.outbound.shut && e.inbound.shut
    · rw [if_pos ended]
      exact ⟨_, _, carries, rfl, rfl, fun _ => Bool.and_eq_true_iff.mp ended⟩
    · rw [if_neg ended]
      exact carries

/-- What is under way between the raw stream and the far side, said of what travels over them. -/
theorem carries_iff {ahead : Bytes} {outbound inbound : Copy} {p : Post σ τ} {s : σ} {t : τ}
    {l : Ledger} (proper : p.Proper) (raw : p.raw = some s) (far : p.far = some t) :
    Carries ahead outbound inbound l p.ledger ↔
      outbound.Conveys (ahead ++ l.unread) (traffic s).coming l.toFar (traffic t).given ∧
        inbound.Conveys l.farLeft (traffic t).coming l.written (traffic s).given ∧
        l.passed <+: (traffic s).passed ∧
        (traffic t).taken ++ (traffic t).coming = l.fromFar ++ l.farLeft ∧
        (inbound.shut → (traffic s).given <+: (traffic s).passed) ∧
        p.connection.bufferSize = l.room := by
  rw [ledger_of_raw proper raw, Post.farTraffic, far]
  exact ⟨fun ⟨out, back, passed, fromFar, flushed, room⟩ =>
      ⟨out, back, passed, fromFar, flushed, room⟩,
    fun ⟨out, back, passed, fromFar, flushed, room⟩ =>
      ⟨out, back, passed, fromFar, flushed, room⟩⟩

/-- **An attempt of a direction to read keeps both directions under way.** -/
theorem pull_carries [LawfulStream σ] [LawfulStream τ] {ahead : Bytes} {d : Observer.Direction}
    {n : Nat} {e : Effort} {p : Post σ τ} {l : Ledger} (proper : p.Proper)
    (carries : Carries ahead e.outbound e.inbound l p.ledger) :
    (e.pull d (n + 1) p).2.Proper ∧
      Carries ahead ((e.pull d (n + 1) p).1.getD e).outbound
        ((e.pull d (n + 1) p).1.getD e).inbound l (e.pull d (n + 1) p).2.ledger := by
  obtain ⟨connection, raw, leaving, far⟩ := p
  match d, raw, far with
  | .outbound, some s, some t =>
    obtain ⟨out, back, passed, fromFar, flushed, room⟩ := (carries_iff proper rfl rfl).mp carries
    obtain ⟨out, _, given, more⟩ := Copy.pull_conveys (Nat.succ_pos n) out
    have still : (⟨connection, some (e.outbound.pull (n + 1) s).2, leaving, some t⟩ :
        Post σ τ).Proper := proper_of_raw proper rfl
    refine ⟨still, (carries_iff still rfl rfl).mpr ?_⟩
    have after : (e.pull .outbound (n + 1) ⟨connection, some s, leaving, some t⟩).1.getD e =
        { e with outbound := (e.outbound.pull (n + 1) s).1.getD e.outbound } := getD_outbound _ e
    rw [after, given]
    exact ⟨out, back, passed.trans more, fromFar, fun ended => (flushed ended).trans more, room⟩
  | .inbound, some s, some t =>
    obtain ⟨out, back, passed, fromFar, flushed, room⟩ := (carries_iff proper rfl rfl).mp carries
    obtain ⟨back, whole, given, _⟩ := Copy.pull_conveys (Nat.succ_pos n) back
    have still : (⟨connection, some s, leaving, some (e.inbound.pull (n + 1) t).2⟩ :
        Post σ τ).Proper := proper
    refine ⟨still, (carries_iff still rfl rfl).mpr ?_⟩
    have after : (e.pull .inbound (n + 1) ⟨connection, some s, leaving, some t⟩).1.getD e =
        { e with inbound := (e.inbound.pull (n + 1) t).1.getD e.inbound } := getD_inbound _ e
    rw [after, given, whole, Copy.pull_shut]
    exact ⟨out, back, passed, fromFar, flushed, room⟩
  | .outbound, none, _ => exact ⟨proper, carries⟩
  | .outbound, some _, none => exact ⟨proper, carries⟩
  | .inbound, none, _ => exact ⟨proper, carries⟩
  | .inbound, some _, none => exact ⟨proper, carries⟩

/-- **An attempt of a direction to write keeps both directions under way.** -/
theorem push_carries [LawfulStream σ] [LawfulStream τ] {ahead : Bytes} {d : Observer.Direction}
    {e : Effort} {p : Post σ τ} {l : Ledger} (proper : p.Proper)
    (carries : Carries ahead e.outbound e.inbound l p.ledger) :
    (e.push d p).2.Proper ∧
      Carries ahead ((e.push d p).1.getD e).outbound ((e.push d p).1.getD e).inbound l
        (e.push d p).2.ledger := by
  obtain ⟨connection, raw, leaving, far⟩ := p
  match d, raw, far with
  | .outbound, some s, some t =>
    obtain ⟨out, back, passed, fromFar, flushed, room⟩ := (carries_iff proper rfl rfl).mp carries
    obtain ⟨out, _, taken, coming, _⟩ := Copy.push_conveys out
    have still : (⟨connection, some s, leaving, some (e.outbound.push t).2⟩ :
        Post σ τ).Proper := proper
    refine ⟨still, (carries_iff still rfl rfl).mpr ?_⟩
    have after : (e.push .outbound ⟨connection, some s, leaving, some t⟩).1.getD e =
        { e with outbound := (e.outbound.push t).1.getD e.outbound } := getD_outbound _ e
    rw [after, taken, coming]
    exact ⟨out, back, passed, fromFar, flushed, room⟩
  | .inbound, some s, some t =>
    obtain ⟨out, back, passed, fromFar, flushed, room⟩ := (carries_iff proper rfl rfl).mp carries
    obtain ⟨back, flushes, _, coming, more⟩ := Copy.push_conveys back
    have still : (⟨connection, some (e.inbound.push s).2, leaving, some t⟩ :
        Post σ τ).Proper := proper_of_raw proper rfl
    refine ⟨still, (carries_iff still rfl rfl).mpr ?_⟩
    have after : (e.push .inbound ⟨connection, some s, leaving, some t⟩).1.getD e =
        { e with inbound := (e.inbound.push s).1.getD e.inbound } := getD_inbound _ e
    rw [after, coming]
    exact ⟨out, back, passed.trans more, fromFar, flushes flushed, room⟩
  | .outbound, none, _ => exact ⟨proper, carries⟩
  | .outbound, some _, none => exact ⟨proper, carries⟩
  | .inbound, none, _ => exact ⟨proper, carries⟩
  | .inbound, some _, none => exact ⟨proper, carries⟩

/-! ## All questions -/

/-- What is known of an attempt under a deadline is known of the attempt. -/
theorem timely_meets {x : Outcome σ τ (Except IoFault Unit)} {waits : Effort → Ledger → Prop}
    {answers : Except IoFault Unit → Ledger → Prop} {answers' : Reading Unit → Ledger → Prop}
    (meets : x.Meets answers waits) (got : ∀ l, answers (.ok ()) l → answers' (.got ()) l)
    (failed : ∀ f l, answers (.error f) l → answers' (.failed f) l) :
    (timely x).Meets answers' waits := by
  obtain ⟨answer, e, p⟩ := x
  obtain ⟨proper, meets⟩ := meets
  match answer, meets with
  | some (.ok ()), meets => exact ⟨proper, got _ meets⟩
  | some (.error f), meets => exact ⟨proper, failed f _ meets⟩
  | none, meets => exact ⟨proper, meets⟩

/-- **One attempt to answer a question leaves it under way or gives a right answer.** -/
theorem attempt_meets [LawfulStream σ] [LawfulStream τ] {q : Question} {e : Effort} {p : Post σ τ}
    {l : Ledger} (proper : p.Proper) (underway : Underway q e l p.ledger) :
    (e.attempt p q).Meets (Settles q · l ·) (Underway q · l ·) := by
  have waiting {response : Bytes} (e : Effort) (l' : Ledger) :
      Responding response l e l' → Underway (.reply response) e l l' :=
    fun ⟨given, split, moves⟩ => ⟨_, ⟨given, split, rfl⟩, moves⟩
  cases q with
  | firstByte =>
    obtain ⟨_, rfl, rests⟩ := underway
    exact firstByte_meets proper rests
  | head => exact head_meets proper underway
  | greeting => exact greeting_meets proper underway
  | body n => exact body_meets proper underway
  | reply r =>
    obtain ⟨_, ⟨given, split, rfl⟩, moves⟩ := underway
    exact timely_meets ((writing_meets proper ⟨given, split, moves⟩).imp (fun _ _ => id) waiting)
      (fun _ => id) (fun _ _ => id)
  | refusal r =>
    obtain ⟨_, ⟨given, split, rfl⟩, moves⟩ := underway
    refine (writing_meets proper ⟨given, split, moves⟩).imp (fun a l' responds => ?_) waiting
    cases a <;> exact responds
  | detach =>
    obtain ⟨_, rfl, rests⟩ := underway
    exact detaching_meets proper rests
  | rawReply r =>
    obtain ⟨_, ⟨given, split, rfl⟩, moves⟩ := underway
    exact timely_meets
      ((rawWriting_meets proper ⟨given, split, moves⟩).imp (fun _ _ => id) waiting)
      (fun _ => id) (fun _ _ => id)
  | sendAhead d => exact sendingAhead_meets proper underway
  | carry => exact carrying_meets proper underway
  | close => exact closing_meets proper
  | dial | exchange | responseBody | freshKey | upgrade | relay | elapsed =>
    exact ⟨proper, underway⟩

end Effort

end Wiretap.Session
