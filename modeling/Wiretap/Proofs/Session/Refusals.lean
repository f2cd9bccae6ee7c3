import Wiretap.Proofs.Session.Decisions
import Wiretap.Proofs.Session.Greetings

/-!
# Refusing a greeting

A client that greets is refused by three questions: for its first byte, for its greeting, and to
write the refusal (`quiet_dispatch`, `quiet_serveGreeting`).  However the text is cut into pieces,
however small the buffer is, and whatever the timing, there are three ends, if the client's side
does not fail (`RefusalEnds`): the greeting has been taken, all of it and nothing more, and the
refusal has been written; or the stream ends within the greeting; or a deadline has passed before
all of it was there.  Only in the first of these has anything been written.

Every move keeps to that (`refusing_step`).  Nobody waits for more than the greeting or the end of
the stream, and a deadline that passes ends the wait (`greeting_is_refused`).
-/

namespace Wiretap.Session

set_option autoImplicit false

open Transport (Accepts Attempt BufferedSink BufferedSource ByteStream LawfulStream Peered Reliable
  Supplies traffic)

/-! ## What is asked -/

namespace Dialogue

variable {α β : Type}

/-- The same questions, where observers are told nothing. -/
def quiet : Dialogue α → Dialogue α
  | finish a => finish a
  | tell _ rest => rest.quiet
  | ask q next => ask q fun a => (next a).quiet

theorem quiet_bind (d : Dialogue α) (f : α → Dialogue β) :
    (d >>= f).quiet = d.quiet >>= fun a => (f a).quiet := by
  change (d.bind f).quiet = d.quiet.bind _
  induction d with
  | finish a => rfl
  | tell n rest ih => exact ih
  | ask q next ih => exact congrArg (ask q) (funext ih)

end Dialogue

theorem quiet_announce (c : Context) (level : Observer.Level) (message : String) :
    (c.announce level message).quiet = .finish () := by
  rw [Context.announce, Observer.report]
  split <;> rfl

/-- What follows the answer to the question to write the refusal. -/
def afterRefusal : Except IoFault Unit → Dialogue Outcome
  | .ok () => .finish ⟨some .socks5, some (.unsupported Protocol.socks5.name)⟩
  | .error e => .finish ⟨some .socks5, some (.io e)⟩

/-- What follows the answer to the question for a greeting. -/
def afterGreeting : Reading Bytes → Dialogue Outcome
  | .got _ => .ask (.refusal noMethod) afterRefusal
  | .failed e => .finish ⟨some .socks5, some (.io e)⟩
  | .expired => .finish ⟨some .socks5, some (.timeout .greeting)⟩

/-- Refusing a greeting is two questions at most. -/
theorem quiet_serveGreeting (c : Context) :
    (serveOpening c .greeting).quiet = .ask .greeting afterGreeting := by
  have served : serveOpening c .greeting =
      c.announce .debug s!"dispatched to {Protocol.socks5.name} processor" >>= fun _ =>
        (refuseGreeting c).run >>= fun result => pure ⟨some .socks5, faultOf result⟩ := rfl
  rw [served, Dialogue.quiet_bind, quiet_announce]
  refine congrArg (Dialogue.ask .greeting) ?_
  funext a
  cases a with
  | got methods =>
    refine congrArg (Dialogue.ask (.refusal noMethod)) ?_
    funext a
    cases a <;> rfl
  | failed | expired => rfl

/-- Dispatching a connection asks for its first byte. -/
theorem quiet_dispatch (c : Context) :
    (dispatch c).quiet = .ask .firstByte fun a => (afterFirst a >>= afterSniffing c).quiet := by
  rw [dispatch_eq, run_sniff]
  rfl

/-- Behind the first byte of a greeting, the greeting is asked for. -/
theorem quiet_afterFirst (c : Context) :
    (afterFirst (.got (some greetingByte)) >>= afterSniffing c).quiet =
      .ask .greeting afterGreeting :=
  quiet_serveGreeting c

/-! ## Waiting for an answer -/

variable {σ τ α : Type} [ByteStream σ] [ByteStream τ]

/-- A question is to be answered or waits for its answer, and the client can be relied on. -/
structure Waiting (s : Standing σ τ α) (l : Ledger) : Prop where
  proper : s.post.Proper
  reliable : s.post.IsReliable
  stands : s.Stands l

/-- A question of a refusal has been answered as it should be. -/
structure Receives (late : Prop) {q : Question} (a : q.Answer) (l : Ledger) (s : Standing σ τ α) :
    Prop where
  waiting : Waiting s s.post.ledger
  settles : Settles q a l s.post.ledger
  faithful : AnswersWell late q a l s.post.ledger

section

variable {s s' : Standing σ τ α} {l : Ledger} {late : Prop} {q : Question}

/-- While nothing is moved, the streams still have come to what they had come to. -/
theorem stands_of_post {post : Post σ τ} (stands : s.Stands l)
    (rests : s.post.ledger.Rests post.ledger) (far : post.far = none → s.post.far = none) :
    ({ s with post } : Standing σ τ α).Stands l := by
  rw [Standing.Stands] at stands ⊢
  dsimp only
  split at stands
  · next rest =>
    rw [rest]
    exact ⟨stands.1.rests rests, fun none => stands.2 (far none)⟩
  · next rest => exact stands.rests rests

/-- An answer that is right leaves the streams to the next question. -/
theorem receives_settle {next : q.Answer → Dialogue α} {post : Post σ τ} {a : q.Answer}
    (proper : post.Proper) (reliable : post.IsReliable) (settles : Settles q a l post.ledger)
    (faithful : AnswersWell late q a l post.ledger) :
    Receives late a l (s.settle q next post a) :=
  ⟨⟨proper, reliable, Standing.stands_of_rests rfl (.refl _)⟩, settles, faithful⟩

omit [ByteStream σ] [ByteStream τ] in
/-- The question that waits for its answer is the first one that is asked. -/
theorem eq_of_quiet {next : q.Answer → Dialogue α} {q' : Question} {next' : q'.Answer → Dialogue α}
    (asks : s.rest.quiet = .ask q next) (asked : s.rest = .ask q' next') :
    ∃ same : q' = q, ∀ a, (next' a).quiet = next (same ▸ a) := by
  rw [asked] at asks
  cases asks
  exact ⟨rfl, fun _ => rfl⟩

variable [LawfulStream σ] [LawfulStream τ] {next : q.Answer → Dialogue α}

omit [LawfulStream σ] [LawfulStream τ] in
/-- The question that is asked is under way. -/
theorem Waiting.underway (waiting : Waiting s l) (asked : s.rest = .ask q next) :
    Underway q (s.effortFor q) l s.post.ledger := by
  have stands := waiting.stands
  rw [Standing.Stands, asked] at stands
  exact stands.1

/-- An attempt leaves the question waiting, or it is answered as it should be. -/
theorem Waiting.attempted (late : Prop) (waiting : Waiting s l)
    (asked : s.rest = .ask q next) (kind : q.Refuses) (room : 0 < l.room) :
    let x := (s.effortFor q).attempt s.post q
    (x.answer = none → Waiting { s with post := x.post, effort := some x.effort } l) ∧
      ∀ a, x.answer = some a → Receives late a l (s.settle q next x.post a) := by
  obtain ⟨proper, reliable, stands⟩ := waiting
  rw [Standing.Stands, asked] at stands
  obtain ⟨underway, unbegun⟩ := stands
  have meets := Effort.attempt_meets proper underway
  have still := unbegun_attempt unbegun
  obtain ⟨stays, faithful⟩ := Effort.attempt_faithful late kind proper reliable underway room
  generalize (s.effortFor q).attempt s.post q = x at meets still stays faithful
  obtain ⟨answer, effort, post⟩ := x
  obtain ⟨proper, meets⟩ := meets
  refine ⟨?_, ?_⟩
  · rintro ⟨⟩
    refine ⟨proper, stays, ?_⟩
    rw [Standing.Stands]
    dsimp only
    rw [asked]
    exact ⟨meets, still⟩
  · rintro a ⟨⟩
    exact receives_settle proper stays meets (faithful a rfl)

/-- **A question of a refusal goes on waiting, or is answered as it should be.** -/
theorem Waiting.step {m : Move σ τ} (waiting : Waiting s l) (asks : s.rest.quiet = .ask q next)
    (kind : q.Refuses) (room : 0 < l.room) (steps : s.Steps m s') (passes : m = .expire → late)
    (client : ∀ stream, m = .client stream → Reliable stream) :
    s'.rest.quiet = s.rest.quiet ∧ Waiting s' l ∨
      ∃ a, s'.rest.quiet = next a ∧ Receives late a l s' := by
  have foreign {q' : Question} {next' : q'.Answer → Dialogue α} (asked : s.rest = .ask q' next') :
      q'.Refuses := (eq_of_quiet asks asked).1 ▸ kind
  cases steps with
  | tells told =>
    obtain ⟨proper, reliable, stands⟩ := waiting
    rw [Standing.Stands, told] at stands
    refine .inl ⟨?_, proper, reliable, Standing.stands_of_rests rfl stands⟩
    rw [told]
    rfl
  | attempts asked =>
    obtain ⟨rfl, behind⟩ := eq_of_quiet asks asked
    obtain ⟨waits, receives⟩ := waiting.attempted late asked kind room
    rw [Standing.attempted]
    generalize (s.effortFor _).attempt s.post _ = x at waits receives ⊢
    obtain ⟨answer, effort, post⟩ := x
    cases answer with
    | none => exact .inl ⟨rfl, waits rfl⟩
    | some a => exact .inr ⟨a, behind a, receives a rfl⟩
  | expires asked expired =>
    obtain ⟨rfl, behind⟩ := eq_of_quiet asks asked
    obtain ⟨proper, reliable, stands⟩ := waiting
    rw [Standing.Stands, asked] at stands
    refine .inr ⟨_, behind _,
      receives_settle proper reliable (settles_late stands.1 expired) ?_⟩
    cases kind with
    | firstByte | greeting =>
      cases expired
      exact passes rfl
    | refusal => cases expired
  | answers asked given =>
    obtain ⟨rfl, _⟩ := eq_of_quiet asks asked
    cases kind <;> cases given
  | dials asked => cases foreign asked
  | relays asked => cases foreign asked
  | client here rests =>
    obtain ⟨proper, reliable, stands⟩ := waiting
    obtain ⟨still, same⟩ := rests_onStream proper here rests
    exact .inl ⟨rfl, still, isReliable_onStream reliable (client _ rfl),
      stands_of_post stands same id⟩
  | farSide here rests =>
    obtain ⟨proper, reliable, stands⟩ := waiting
    exact .inl ⟨rfl, proper, reliable,
      stands_of_post stands (rests_farSide here rests) (by rintro ⟨⟩)⟩
  | pulls tunnel | pushes tunnel =>
    obtain ⟨_, asked, _⟩ | ⟨_, _, asked, _⟩ := Standing.asked_of_tunnel tunnel
    · cases foreign asked
    · cases foreign asked

end

/-! ## The course of a refusal -/

/-- A greeting has been taken off a text, all of it and nothing more. -/
def GreetingTaken (text unread : Bytes) : Prop :=
  ∃ n, greetingLength? text = some n ∧ n ≤ text.length ∧ unread = text.drop n

/-- A deadline has passed before the first byte or the greeting had been read. -/
def TimedOut (o : Outcome) : Prop :=
  o = ⟨none, some (.timeout .firstByte)⟩ ∨ o = ⟨some .socks5, some (.timeout .greeting)⟩

/-- How refusing a greeting ends. -/
inductive RefusalEnds (text : Bytes) (late : Prop) : Outcome → Ledger → Prop where
  /-- The greeting has been taken, and the refusal has been written and passed on. -/
  | refused {l : Ledger} (taken : GreetingTaken text l.unread) (written : l.written = noMethod)
    (passed : noMethod <+: l.passed) :
    RefusalEnds text late ⟨some .socks5, some (.unsupported Protocol.socks5.name)⟩ l
  /-- The stream ends within the greeting. -/
  | torn {l : Ledger} (torn : Torn text) (unread : l.unread = []) (unwritten : l.written = []) :
    RefusalEnds text late ⟨some .socks5, some (.io IoFault.earlyEnd)⟩ l
  /-- A deadline has passed. -/
  | late {o : Outcome} {l : Ledger} (passed : late) (outcome : TimedOut o)
    (unwritten : l.written = []) : RefusalEnds text late o l

theorem RefusalEnds.rests {text : Bytes} {late : Prop} {o : Outcome} {l l' : Ledger}
    (refused : RefusalEnds text late o l) (rests : l.Rests l') : RefusalEnds text late o l' := by
  have written : l'.written = l.written := by rw [rests.written, List.append_nil]
  have unread : l.unread = l'.unread := rests.unread
  cases refused with
  | refused taken written' passed =>
    exact .refused (unread ▸ taken) (written.trans written') (passed.trans rests.passed)
  | torn torn ended unwritten =>
    exact .torn torn (unread.symm.trans ended) (written.trans unwritten)
  | late passed outcome unwritten => exact .late passed outcome (written.trans unwritten)

/-- How far refusing a greeting has come. -/
inductive Refusing (text : Bytes) (late : Prop) (s : Standing σ τ Outcome) : Prop where
  | looks {c : Context} {l : Ledger}
    (asks : s.rest.quiet = .ask .firstByte fun a => (afterFirst a >>= afterSniffing c).quiet)
    (waiting : Waiting s l) (opens : l.Opens text)
  | reads {l : Ledger} (asks : s.rest.quiet = .ask .greeting afterGreeting)
    (waiting : Waiting s l) (opens : l.Opens text)
  | writes {l : Ledger} (asks : s.rest.quiet = .ask (.refusal noMethod) afterRefusal)
    (waiting : Waiting s l) (taken : GreetingTaken text l.unread) (unwritten : l.written = [])
    (room : 0 < l.room)
  | ended {o : Outcome} (ends : s.rest.quiet = .finish o) (proper : s.post.Proper)
    (refused : RefusalEnds text late o s.post.ledger)

section

variable {s s' : Standing σ τ Outcome} {l : Ledger} {late : Prop} {text : Bytes}

/-- Behind the first byte, the greeting is read, unless a deadline has passed. -/
theorem refusing_of_first {c : Context} {a : Reading (Option UInt8)}
    (first : text.head? = some greetingByte) (opens : l.Opens text)
    (behind : s'.rest.quiet = (afterFirst a >>= afterSniffing c).quiet)
    (receives : @Receives σ τ _ _ _ late .firstByte a l s') : Refusing text late s' := by
  obtain ⟨waiting, settles, faithful⟩ := receives
  cases a with
  | got byte =>
    obtain ⟨sees, rests⟩ := settles
    obtain rfl : byte = some greetingByte := (sees opens.room).trans (opens.unread ▸ first)
    exact .reads (behind.trans (quiet_afterFirst c)) waiting (opens.rests rests)
  | failed e => cases faithful
  | expired =>
    exact .ended (o := ⟨none, some (.timeout .firstByte)⟩) behind waiting.proper
      (.late faithful (.inl rfl) (opens.rests settles).written)

/-- Behind a greeting, the refusal is written, unless the greeting could not be read. -/
theorem refusing_of_greeting {a : Reading Bytes} (opens : l.Opens text)
    (behind : s'.rest.quiet = afterGreeting a)
    (receives : @Receives σ τ _ _ _ late .greeting a l s') : Refusing text late s' := by
  obtain ⟨waiting, settles, faithful⟩ := receives
  cases a with
  | got methods =>
    obtain ⟨version, count, all, moves⟩ := settles
    have split : text = (version :: count :: methods) ++ s'.post.ledger.unread :=
      opens.unread.symm.trans moves.unread
    have long : (version :: count :: methods).length = 2 + count.toNat := by
      rw [List.length_cons, List.length_cons, all]
      omega
    refine .writes behind waiting ⟨2 + count.toNat, ?_, ?_, ?_⟩ ?_ (moves.room ▸ opens.room)
    · rw [split]
      rfl
    · rw [split, List.length_append, long]
      exact Nat.le_add_right _ _
    · rw [split, ← long, List.drop_left]
    · rw [moves.written, opens.written, List.append_nil]
  | failed e =>
    obtain ⟨rfl, torn, unread⟩ := faithful
    obtain ⟨taken, moves⟩ := settles
    exact .ended behind waiting.proper (.torn (opens.unread ▸ torn) unread
      (by rw [moves.written, opens.written, List.append_nil]))
  | expired =>
    obtain ⟨taken, moves⟩ := settles
    exact .ended behind waiting.proper (.late faithful (.inr rfl)
      (by rw [moves.written, opens.written, List.append_nil]))

/-- Behind the refusal is the end. -/
theorem refusing_of_refusal {a : Except IoFault Unit} (taken : GreetingTaken text l.unread)
    (unwritten : l.written = []) (behind : s'.rest.quiet = afterRefusal a)
    (receives : @Receives σ τ _ _ _ late (.refusal noMethod) a l s') : Refusing text late s' := by
  obtain ⟨waiting, settles, faithful⟩ := receives
  cases a with
  | error e => cases faithful
  | ok =>
    obtain ⟨moves, passed⟩ := settles
    have unread : l.unread = s'.post.ledger.unread := moves.unread
    have written : s'.post.ledger.written = noMethod := by
      rw [moves.written, unwritten, List.nil_append]
    have passedOn : noMethod <+: s'.post.ledger.passed :=
      ⟨[], (List.append_nil _).trans (passed.trans written).symm⟩
    exact .ended behind waiting.proper (.refused (unread ▸ taken) written passedOn)

variable [LawfulStream σ] [LawfulStream τ]

/-- **Every move keeps to a refusal.** -/
theorem refusing_step {m : Move σ τ} (first : text.head? = some greetingByte)
    (refusing : Refusing text late s) (steps : s.Steps m s') (passes : m = .expire → late)
    (client : ∀ stream, m = .client stream → Reliable stream) : Refusing text late s' := by
  cases refusing with
  | looks asks waiting opens =>
    obtain ⟨same, waits⟩ | ⟨a, behind, receives⟩ :=
      waiting.step asks .firstByte opens.room steps passes client
    · exact .looks (same.trans asks) waits opens
    · exact refusing_of_first first opens behind receives
  | reads asks waiting opens =>
    obtain ⟨same, waits⟩ | ⟨a, behind, receives⟩ :=
      waiting.step asks .greeting opens.room steps passes client
    · exact .reads (same.trans asks) waits opens
    · exact refusing_of_greeting opens behind receives
  | writes asks waiting taken unwritten room =>
    obtain ⟨same, waits⟩ | ⟨a, behind, receives⟩ :=
      waiting.step asks (.refusal noMethod) room steps passes client
    · exact .writes (same.trans asks) waits taken unwritten room
    · exact refusing_of_refusal taken unwritten behind receives
  | ended ends proper refused =>
    have isOver {q : Question} {next : q.Answer → Dialogue Outcome} (asked : s.rest = .ask q next) :
        False := by
      rw [asked] at ends
      cases ends
    cases steps with
    | tells told =>
      rw [told] at ends
      exact .ended ends proper refused
    | attempts asked | expires asked | answers asked | dials asked | relays asked =>
      exact (isOver asked).elim
    | client here rests =>
      obtain ⟨still, same⟩ := rests_onStream proper here rests
      exact .ended ends still (refused.rests same)
    | farSide here rests => exact .ended ends proper (refused.rests (rests_farSide here rests))
    | pulls tunnel | pushes tunnel =>
      obtain ⟨_, asked, _⟩ | ⟨_, _, asked, _⟩ := Standing.asked_of_tunnel tunnel
      · exact (isOver asked).elim
      · exact (isOver asked).elim

/-- **Every run of moves keeps to a refusal.** -/
theorem refusing_run {moves : List (Move σ τ)} (first : text.head? = some greetingByte)
    (refusing : Refusing text late s) (ran : s.run moves = some s')
    (passes : Move.expire ∈ moves → late)
    (client : ∀ stream, Move.client stream ∈ moves → Reliable stream) : Refusing text late s' := by
  induction moves generalizing s with
  | nil =>
    cases ran
    exact refusing
  | cons m moves ih =>
    obtain ⟨t, went, onward⟩ := Option.bind_eq_some_iff.mp ran
    refine ih (refusing_step first refusing (Standing.steps_of_step went) ?_ ?_) onward
      (fun later => passes (List.mem_cons_of_mem _ later))
      (fun stream later => client stream (List.mem_cons_of_mem _ later))
    · rintro rfl
      exact passes List.mem_cons_self
    · rintro stream rfl
      exact client stream List.mem_cons_self

omit [LawfulStream σ] [LawfulStream τ] in
/-- Before the first move, the first byte is asked for. -/
theorem refusing_start {bufferSize : Nat} {stream : σ} {c : Context} (positive : 0 < bufferSize)
    (fresh : (traffic stream).given = []) (reliable : Reliable stream) :
    Refusing (traffic stream).coming late
      (Standing.start bufferSize stream (dispatch c) : Standing σ τ Outcome) := by
  refine .looks (l := .opening bufferSize (traffic stream)) (quiet_dispatch c)
    ⟨?_, ⟨⟨{ capacity := bufferSize }, stream⟩, .empty bufferSize, rfl, reliable⟩,
      Standing.stands_of_rests rfl ⟨rfl, rfl, List.prefix_refl _, rfl, rfl, rfl, rfl⟩⟩
    ⟨rfl, fresh, positive⟩
  rintro _ _ _ ⟨⟩
  exact ⟨rfl, rfl⟩

end

/-! ## Nobody waits for more -/

namespace Standing

variable {s t u : Standing σ τ α}

/-- The proxy goes from one standing to another without anybody else acting. -/
def GoesTo (s t : Standing σ τ α) : Prop := ∃ n, s.run (List.replicate n .go) = some t

theorem GoesTo.refl (s : Standing σ τ α) : s.GoesTo s := ⟨0, rfl⟩

theorem GoesTo.behind (went : s.step .go = some t) (goes : t.GoesTo u) : s.GoesTo u := by
  obtain ⟨n, ran⟩ := goes
  refine ⟨n + 1, ?_⟩
  rw [List.replicate_succ, run, went]
  exact ran

theorem GoesTo.trans (first : s.GoesTo t) (second : t.GoesTo u) : s.GoesTo u := by
  obtain ⟨n, ran⟩ := first
  induction n generalizing s with
  | zero =>
    cases ran
    exact second
  | succ n ih =>
    rw [List.replicate_succ, run] at ran
    obtain ⟨v, went, onward⟩ := Option.bind_eq_some_iff.mp ran
    exact .behind went (ih onward)

/-- Observers are told what they are to be told before the next question. -/
theorem exists_told (s : Standing σ τ α) :
    ∃ t, s.GoesTo t ∧ t.rest.quiet = s.rest.quiet ∧ t.post = s.post ∧
      ∀ n d, t.rest ≠ .tell n d := by
  obtain ⟨post, rest, effort, past, told⟩ := s
  induction rest generalizing effort told with
  | finish a => exact ⟨_, .refl _, rfl, rfl, by rintro _ _ ⟨⟩⟩
  | ask q next => exact ⟨_, .refl _, rfl, rfl, by rintro _ _ ⟨⟩⟩
  | tell n rest ih =>
    obtain ⟨t, goes, same, post', quiet⟩ := ih none (n :: told)
    exact ⟨t, .behind rfl goes, same, post', quiet⟩

/-- The question that is asked next is asked. -/
theorem exists_asked {q : Question} {next : q.Answer → Dialogue α}
    (asks : s.rest.quiet = .ask q next) :
    ∃ t next', s.GoesTo t ∧ t.rest = .ask q next' ∧ t.rest.quiet = .ask q next ∧
      t.post = s.post ∧ ∀ a, (next' a).quiet = next a := by
  obtain ⟨t, goes, same, post, quiet⟩ := s.exists_told
  replace asks := same.trans asks
  cases rest : t.rest with
  | finish a =>
    rw [rest] at asks
    cases asks
  | tell n d => exact absurd rest (quiet n d)
  | ask q' next' =>
    obtain ⟨rfl, behind⟩ := eq_of_quiet asks rest
    exact ⟨t, next', goes, rest, asks, post, behind⟩

/-- Where nothing is asked any more, the end is reached. -/
theorem exists_finished {a : α} (ends : s.rest.quiet = .finish a) :
    ∃ t, s.GoesTo t ∧ t.rest = .finish a ∧ t.post = s.post := by
  obtain ⟨t, goes, same, post, quiet⟩ := s.exists_told
  have ends := same.trans ends
  cases rest : t.rest with
  | finish a' =>
    rw [rest] at ends
    cases ends
    exact ⟨t, goes, rest, post⟩
  | tell n d => exact absurd rest (quiet n d)
  | ask q next =>
    rw [rest] at ends
    cases ends

theorem step_go_of_answer {q : Question} {next : q.Answer → Dialogue α} {a : q.Answer}
    (asked : s.rest = .ask q next)
    (answered : ((s.effortFor q).attempt s.post q).answer = some a) :
    s.step .go = some (s.settle q next ((s.effortFor q).attempt s.post q).post a) := by
  rw [step, asked]
  dsimp only
  rw [attempted, answered]

end Standing

/-- The proxy goes on behind an answer that an attempt gives. -/
theorem Waiting.goes_of_answer [LawfulStream σ] [LawfulStream τ] {s : Standing σ τ α} {l : Ledger}
    {q : Question} {next : q.Answer → Dialogue α} {a : q.Answer} (waiting : Waiting s l)
    (asked : s.rest = .ask q next) (kind : q.Refuses) (room : 0 < l.room)
    (answered : ((s.effortFor q).attempt s.post q).answer = some a) :
    ∃ t, s.GoesTo t ∧ t.rest = next a ∧ t.post = ((s.effortFor q).attempt s.post q).post ∧
      Receives False a l t :=
  ⟨_, .behind (Standing.step_go_of_answer asked answered) (.refl _), rfl, rfl,
    (waiting.attempted False asked kind room).2 a answered⟩

section

variable {p : Post σ τ} {e : Effort} {b : BufferedSource σ} {w : Transport.WriteBuffer}

omit [ByteStream σ] [ByteStream τ] in
theorem stream?_of_link (link : p.connection.link = .attached b.source b.buffer w) :
    p.stream? = some b.source := by
  rw [Post.stream?, Connection.stream?, link]
  rfl

/-- An attempt to read a greeting that does not have to wait is answered. -/
theorem Effort.greeting_answered {e' : Effort} {after : BufferedSource σ} {r : Attempt Bytes}
    (link : p.connection.link = .attached b.source b.buffer w)
    (greeted : e.greeting b = ((r, e'), after)) (unblocked : r ≠ .blocked) :
    ∃ a, (e.attempt p .greeting).answer = some a := by
  have same : e.attempt p .greeting = e.reading p e.greeting := rfl
  have greeted : e.greeting ⟨b.buffer, b.source⟩ = _ := greeted
  rw [same, reading, connection_reading link, greeted]
  cases r with
  | done methods => exact ⟨_, rfl⟩
  | failed x => exact ⟨_, rfl⟩
  | blocked => exact absurd rfl unblocked

/-- An attempt to write a refusal that is accepted is done. -/
theorem Effort.refusal_answered [LawfulStream σ] {response : Bytes} {k : Nat}
    (link : p.connection.link = .attached b.source b.buffer w) (accepts : Accepts k b.source)
    (enough : w.pending.length + e.rest.length ≤ k) :
    (e.attempt p (.refusal response)).answer = some (.ok ()) := by
  have done := (BufferedSink.accepts_of_sink (s := ⟨w, b.source⟩) accepts enough).respondFrom
    (Nat.le_refl e.rest.length)
  have same : e.attempt p (.refusal response) = e.writing p := rfl
  rw [same, writing, connection_writing link]
  generalize Message.respondFrom e.rest (⟨w, b.source⟩ : BufferedSink σ) = x at done
  obtain ⟨outcome, rest, after⟩ := x
  cases done
  rfl

end

section

variable {s t : Standing σ τ Outcome} {text : Bytes} {late : Prop} {b : BufferedSource σ}
  {w : Transport.WriteBuffer} {k : Nat}

theorem Refusing.opens_of_first {c : Context} (refusing : Refusing text late s)
    (asks : s.rest.quiet = .ask .firstByte fun a => (afterFirst a >>= afterSniffing c).quiet) :
    ∃ l, Waiting s l ∧ l.Opens text := by
  cases refusing with
  | looks _ waiting opens => exact ⟨_, waiting, opens⟩
  | reads asks' => cases asks.symm.trans asks'
  | writes asks' => cases asks.symm.trans asks'
  | ended ends => cases asks.symm.trans ends

theorem Refusing.opens_of_greeting (refusing : Refusing text late s)
    (asks : s.rest.quiet = .ask .greeting afterGreeting) : ∃ l, Waiting s l ∧ l.Opens text := by
  cases refusing with
  | looks asks' => cases asks.symm.trans asks'
  | reads _ waiting opens => exact ⟨_, waiting, opens⟩
  | writes asks' => cases asks.symm.trans asks'
  | ended ends => cases asks.symm.trans ends

theorem Refusing.taken_of_refusal (refusing : Refusing text late s)
    (asks : s.rest.quiet = .ask (.refusal noMethod) afterRefusal) :
    ∃ l, Waiting s l ∧ GreetingTaken text l.unread ∧ l.written = [] ∧ 0 < l.room := by
  cases refusing with
  | looks asks' => cases asks.symm.trans asks'
  | reads asks' => cases asks.symm.trans asks'
  | writes _ waiting taken unwritten room => exact ⟨_, waiting, taken, unwritten, room⟩
  | ended ends => cases asks.symm.trans ends

omit [ByteStream σ] [ByteStream τ] in
theorem unfinished_of_asks {q : Question} {next : q.Answer → Dialogue Outcome}
    (asks : s.rest.quiet = .ask q next) : s.Unfinished := by
  intro o ended
  rw [ended] at asks
  cases asks

/-- While a refusal is written nothing is read, and the client has been written its beginning. -/
theorem Waiting.writes {l : Ledger} {response : Bytes}
    {next : (Question.refusal response).Answer → Dialogue Outcome} (waiting : Waiting s l)
    (asks : s.rest.quiet = .ask (.refusal response) next) :
    l.unread = s.post.ledger.unread ∧ ∃ given, given <+: response ∧
      s.post.ledger.written = l.written ++ given := by
  have stands := waiting.stands
  rw [Standing.Stands] at stands
  split at stands
  · next asked =>
    obtain ⟨rfl, _⟩ := eq_of_quiet asks asked
    obtain ⟨⟨_, ⟨given, split, rfl⟩, moves⟩, _⟩ := stands
    exact ⟨moves.unread, given, ⟨_, split.symm⟩, moves.written⟩
  · exact ⟨stands.unread, [], List.nil_prefix, stands.written⟩

/-- While a greeting is awaited nothing is written. -/
theorem Waiting.unwritten {l : Ledger} {q : Question} {next : q.Answer → Dialogue Outcome}
    (waiting : Waiting s l) (opens : l.Opens text) (asks : s.rest.quiet = .ask q next)
    (reads : q = .firstByte ∨ q = .greeting) : s.post.ledger.written = [] := by
  have stands := waiting.stands
  rw [Standing.Stands] at stands
  split at stands
  · next asked =>
    obtain ⟨rfl, _⟩ := eq_of_quiet asks asked
    obtain rfl | rfl := reads
    · obtain ⟨⟨_, rfl, moves⟩, _⟩ := stands
      rw [moves.written, opens.written, List.append_nil]
    · obtain ⟨⟨_, ⟨rfl, _⟩, moves⟩, _⟩ := stands
      rw [moves.written, opens.written, List.append_nil]
  · exact (opens.rests stands).written

/-- A deadline that passes is the answer. -/
theorem exists_expired {q : Question} {next : q.Answer → Dialogue Outcome} {a : q.Answer}
    (asks : s.rest.quiet = .ask q next) (late : q.late? = some a)
    (quiet : ∀ n d, s.rest ≠ .tell n d) :
    ∃ t, s.step .expire = some t ∧ t.rest.quiet = next a ∧ t.post = s.post := by
  cases rest : s.rest with
  | finish o => exact absurd rest (unfinished_of_asks asks o)
  | tell n d => exact absurd rest (quiet n d)
  | ask q' next' =>
    obtain ⟨rfl, behind⟩ := eq_of_quiet asks rest
    refine ⟨s.settle _ next' s.post a, ?_, behind a, rfl⟩
    rw [Standing.step, rest]
    dsimp only
    rw [late]
    rfl

variable [LawfulStream σ] [LawfulStream τ]

/-- A refusal goes on while nobody else acts, and no deadline passes. -/
theorem Refusing.goes (first : text.head? = some greetingByte) (refusing : Refusing text late s)
    (goes : s.GoesTo t) : Refusing text late t := by
  obtain ⟨n, ran⟩ := goes
  refine refusing_run first refusing ran (fun member => ?_) fun stream member => ?_
  · cases List.eq_of_mem_replicate member
  · cases List.eq_of_mem_replicate member

omit [LawfulStream σ] in
/-- So much of a text has arrived where a part has been taken and the buffer holds what is next. -/
theorem length_arrived {taken : Bytes} (whole : text = taken ++ b.unread) (k : Nat) :
    text.length - (traffic b.source).coming.length + k = taken.length + (b.held.length + k) := by
  rw [whole, List.length_append, BufferedSource.unread, List.length_append]
  omega

/-- A greeting that has arrived is read, and so is the end of a stream that ends within it. -/
theorem Refusing.goes_of_greeting (first : text.head? = some greetingByte)
    (refusing : Refusing text late s) (asks : s.rest.quiet = .ask .greeting afterGreeting)
    (link : s.post.connection.link = .attached b.source b.buffer w) (supplies : Supplies k b.source)
    (arrived : GreetingArrived text (text.length - (traffic b.source).coming.length + k)) :
    ∃ t a, s.GoesTo t ∧ Refusing text False t ∧ t.rest.quiet = afterGreeting a := by
  obtain ⟨t, next, goes, asked, asks, post, behind⟩ := Standing.exists_asked asks
  obtain ⟨l, waiting, opens⟩ := (refusing.goes first goes).opens_of_greeting asks
  rw [← post] at link
  obtain ⟨_, ⟨rfl, begun⟩, moves⟩ := waiting.underway asked
  have whole : text = (t.effortFor .greeting).bytes ++ b.unread := by
    rw [← opens.unread, moves.unread, unread_of_link link]
  have positive := capacity_pos waiting.proper link (moves.room ▸ opens.room)
  rcases greeted : (t.effortFor .greeting).greeting b with ⟨⟨r, e'⟩, after⟩
  rw [length_arrived whole] at arrived
  obtain ⟨a, answered⟩ := Effort.greeting_answered link greeted
    (Effort.greeting_advances begun supplies positive (whole ▸ arrived) greeted)
  obtain ⟨u, onwards, rest, _, receives⟩ :=
    waiting.goes_of_answer asked .greeting opens.room answered
  have asks : u.rest.quiet = afterGreeting a := rest ▸ behind a
  exact ⟨u, a, goes.trans onwards, refusing_of_greeting opens asks receives, asks⟩

/-- A first byte that has arrived is seen, and then at least as much has arrived as before. -/
theorem Refusing.sees_first {c : Context} (first : text.head? = some greetingByte)
    (refusing : Refusing text late s)
    (asks : s.rest.quiet = .ask .firstByte fun a => (afterFirst a >>= afterSniffing c).quiet)
    (link : s.post.connection.link = .attached b.source b.buffer w) (supplies : Supplies k b.source)
    (some : 0 < text.length - (traffic b.source).coming.length + k) :
    ∃ t after more, s.GoesTo t ∧ Refusing text False t ∧
      t.rest.quiet = .ask .greeting afterGreeting ∧
      t.post.connection.link = .attached (BufferedSource.source after) after.buffer w ∧
      Supplies more after.source ∧ text.length - (traffic b.source).coming.length + k ≤
        text.length - (traffic after.source).coming.length + more := by
  obtain ⟨t, next, goes, asked, asks, post, behind⟩ := Standing.exists_asked asks
  obtain ⟨l, waiting, opens⟩ := (refusing.goes first goes).opens_of_first asks
  rw [← post] at link
  obtain ⟨_, rfl, moves⟩ := waiting.underway asked
  have whole : text = [] ++ b.unread := by
    rw [← opens.unread, moves.unread, unread_of_link link]
  have positive := capacity_pos waiting.proper link (moves.room ▸ opens.room)
  rw [length_arrived whole, List.length_nil, Nat.zero_add] at some ⊢
  obtain ⟨after, answered, link', onward⟩ :=
    Effort.firstByte_sees (e := t.effortFor .firstByte) link supplies positive some
  obtain ⟨u, onwards, rest, same, receives⟩ :=
    waiting.goes_of_answer asked .firstByte opens.room answered
  obtain ⟨sees, rests⟩ := receives.settles
  have seen : after.held.head? = .some greetingByte :=
    (sees opens.room).trans (opens.unread ▸ first)
  have asks : u.rest.quiet = _ := rest ▸ behind (.got after.held.head?)
  have refusing := refusing_of_first first opens asks receives
  rw [seen, quiet_afterFirst] at asks
  replace link' : u.post.connection.link = .attached after.source after.buffer w := same ▸ link'
  have held : after.held ≠ [] := fun none => by
    rw [none] at seen
    cases seen
  obtain ⟨more, supplies, further⟩ := onward held
  have left : text = [] ++ after.unread := by
    rw [← opens.unread, rests.unread]
    exact unread_of_link link'
  refine ⟨u, after, more, goes.trans onwards, refusing, asks, link', supplies, ?_⟩
  rw [length_arrived left, List.length_nil, Nat.zero_add]
  exact further

/-- A greeting that has arrived is read, also where its first byte has not been seen yet. -/
theorem Refusing.goes_of_first {c : Context} (first : text.head? = some greetingByte)
    (refusing : Refusing text late s)
    (asks : s.rest.quiet = .ask .firstByte fun a => (afterFirst a >>= afterSniffing c).quiet)
    (link : s.post.connection.link = .attached b.source b.buffer w) (supplies : Supplies k b.source)
    (arrived : GreetingArrived text (text.length - (traffic b.source).coming.length + k)) :
    ∃ t a, s.GoesTo t ∧ Refusing text False t ∧ t.rest.quiet = afterGreeting a := by
  obtain ⟨t, after, more, goes, refusing, asks, link, supplies, least⟩ :=
    refusing.sees_first first asks link supplies arrived.pos
  obtain ⟨u, a, onwards, refusing, behind⟩ :=
    refusing.goes_of_greeting first asks link supplies (arrived.mono least)
  exact ⟨u, a, goes.trans onwards, refusing, behind⟩

/-- A refusal that is accepted is written, with what the buffer holds back of it. -/
theorem Refusing.goes_of_refusal (first : text.head? = some greetingByte)
    (refusing : Refusing text late s)
    (asks : s.rest.quiet = .ask (.refusal noMethod) afterRefusal)
    (link : s.post.connection.link = .attached b.source b.buffer w)
    (accepts : Accepts noMethod.length b.source) :
    ∃ t, s.GoesTo t ∧ t.rest = .finish ⟨some .socks5, some (.unsupported Protocol.socks5.name)⟩ ∧
      t.post.ledger.written = noMethod ∧ GreetingTaken text t.post.ledger.unread := by
  obtain ⟨t, next, goes, asked, asks, post, behind⟩ := Standing.exists_asked asks
  obtain ⟨l, waiting, taken, unwritten, room⟩ := (refusing.goes first goes).taken_of_refusal asks
  rw [← post] at link
  obtain ⟨_, ⟨given, split, rfl⟩, moves⟩ := waiting.underway asked
  have enough : w.pending.length + (t.effortFor (.refusal noMethod)).rest.length ≤
      noMethod.length := by
    have written : given = (traffic b.source).given ++ w.pending := by
      have all : t.post.ledger.written = l.written ++ given := moves.written
      rw [unwritten, List.nil_append, Post.ledger, Post.clientTraffic, link] at all
      exact all.symm
    have long := congrArg List.length split
    rw [List.length_append, written, List.length_append] at long
    omega
  have answered : ((t.effortFor (.refusal noMethod)).attempt t.post (.refusal noMethod)).answer =
      some (.ok ()) := Effort.refusal_answered link accepts enough
  obtain ⟨u, onwards, rest, _, receives⟩ :=
    waiting.goes_of_answer asked (.refusal noMethod) room answered
  have ends : u.rest.quiet = afterRefusal (.ok ()) := rest ▸ behind (.ok ())
  have refusing := refusing_of_refusal taken unwritten ends receives
  obtain ⟨v, further, finished, same⟩ := Standing.exists_finished ends
  refine ⟨v, goes.trans (onwards.trans further), finished, ?_⟩
  rw [same]
  cases refusing with
  | looks asks' | reads asks' | writes asks' => cases ends.symm.trans asks'
  | ended ends' _ refused =>
    cases ends.symm.trans ends'
    cases refused with
    | refused taken written => exact ⟨written, taken⟩
    | late passed => exact passed.elim

/-! ## Dispatch -/

/-- A greeting has been taken, and the refusal is being written.  Once the client's side accepts it,
the proxy comes to the end without anybody else acting. -/
structure WritesRefusal (text : Bytes) (s : Standing σ τ Outcome) : Prop where
  unfinished : s.Unfinished
  taken : GreetingTaken text s.post.ledger.unread
  begun : s.post.ledger.written <+: noMethod
  comes : ∀ stream, s.post.stream? = some stream → Accepts noMethod.length stream →
    ∃ t, s.GoesTo t ∧ t.rest = .finish ⟨some .socks5, some (.unsupported Protocol.socks5.name)⟩ ∧
      t.post.ledger.written = noMethod ∧ GreetingTaken text t.post.ledger.unread

/-- A greeting is awaited, and nothing has been written.  Once it has arrived, or the end of the
stream, the proxy goes on without anybody else acting, and a deadline that passes ends the wait. -/
structure AwaitsGreeting (text : Bytes) (s : Standing σ τ Outcome) : Prop where
  unfinished : s.Unfinished
  unwritten : s.post.ledger.written = []
  expires : (∀ n d, s.rest ≠ .tell n d) → ∃ t o, s.step .expire = some t ∧
    t.rest.quiet = .finish o ∧ TimedOut o ∧ t.post.ledger.written = []
  comes : ∀ stream k, s.post.stream? = some stream → Supplies k stream →
    GreetingArrived text (text.length - (traffic stream).coming.length + k) →
      ∃ t, s.GoesTo t ∧ (WritesRefusal text t ∨
        ∃ o, t.rest = .finish o ∧ RefusalEnds text False o t.post.ledger)

theorem Refusing.writesRefusal (first : text.head? = some greetingByte)
    (refusing : Refusing text late s)
    (asks : s.rest.quiet = .ask (.refusal noMethod) afterRefusal) : WritesRefusal text s := by
  obtain ⟨l, waiting, taken, unwritten, _⟩ := refusing.taken_of_refusal asks
  obtain ⟨unread, given, begins, written⟩ := waiting.writes asks
  obtain ⟨b, w, link, _⟩ := waiting.reliable
  refine ⟨unfinished_of_asks asks, unread ▸ taken, ?_, fun stream here accepts => ?_⟩
  · rw [written, unwritten]
    exact begins
  · cases (stream?_of_link link).symm.trans here
    exact refusing.goes_of_refusal first asks link accepts

/-- Behind a greeting that has been read, or could not be, the refusal is written, or the end
follows. -/
theorem Refusing.goes_behind_greeting {a : Reading Bytes} (first : text.head? = some greetingByte)
    (refusing : Refusing text False s) (behind : s.rest.quiet = afterGreeting a) :
    ∃ t, s.GoesTo t ∧ (WritesRefusal text t ∨
      ∃ o, t.rest = .finish o ∧ RefusalEnds text False o t.post.ledger) := by
  have ends {o : Outcome} (ends : s.rest.quiet = .finish o) :
      ∃ t, s.GoesTo t ∧ (WritesRefusal text t ∨
        ∃ o, t.rest = .finish o ∧ RefusalEnds text False o t.post.ledger) := by
    obtain ⟨t, goes, finished, same⟩ := Standing.exists_finished ends
    refine ⟨t, goes, .inr ⟨o, finished, ?_⟩⟩
    cases refusing with
    | looks asks | reads asks | writes asks => cases ends.symm.trans asks
    | ended ends' _ refused =>
      cases ends.symm.trans ends'
      exact same ▸ refused
  cases a with
  | got => exact ⟨s, .refl s, .inl (refusing.writesRefusal first behind)⟩
  | failed | expired => exact ends behind

theorem Refusing.awaitsGreeting {c : Context} {l : Ledger} (first : text.head? = some greetingByte)
    (asks : s.rest.quiet = (.ask .firstByte fun a => (afterFirst a >>= afterSniffing c).quiet) ∨
      s.rest.quiet = .ask .greeting afterGreeting)
    (waiting : Waiting s l) (opens : l.Opens text) : AwaitsGreeting text s := by
  obtain ⟨b, w, link, _⟩ := waiting.reliable
  obtain asks | asks := asks
  · have unwritten := waiting.unwritten opens asks (.inl rfl)
    refine ⟨unfinished_of_asks asks, unwritten, fun quiet => ?_,
      fun stream k here supplies arrived => ?_⟩
    · obtain ⟨t, went, behind, same⟩ := exists_expired asks rfl quiet
      exact ⟨t, _, went, behind, .inl rfl, same ▸ unwritten⟩
    · cases (stream?_of_link link).symm.trans here
      have refusing : Refusing text False s := .looks asks waiting opens
      obtain ⟨t, a, goes, refusing, behind⟩ :=
        refusing.goes_of_first first asks link supplies arrived
      obtain ⟨u, onwards, comes⟩ := refusing.goes_behind_greeting first behind
      exact ⟨u, goes.trans onwards, comes⟩
  · have unwritten := waiting.unwritten opens asks (.inr rfl)
    refine ⟨unfinished_of_asks asks, unwritten, fun quiet => ?_,
      fun stream k here supplies arrived => ?_⟩
    · obtain ⟨t, went, behind, same⟩ := exists_expired asks rfl quiet
      exact ⟨t, _, went, behind, .inr rfl, same ▸ unwritten⟩
    · cases (stream?_of_link link).symm.trans here
      have refusing : Refusing text False s := .reads asks waiting opens
      obtain ⟨t, a, goes, refusing, behind⟩ :=
        refusing.goes_of_greeting first asks link supplies arrived
      obtain ⟨u, onwards, comes⟩ := refusing.goes_behind_greeting first behind
      exact ⟨u, goes.trans onwards, comes⟩

/-- **A client that greets is refused**, however its text is cut into pieces and however small the
buffer is, if its side does not fail.  Its greeting is awaited and nothing is written; or all of the
greeting has been taken, and nothing behind it, and the refusal is being written; or the dispatch has
come to its end: the client has been refused, the stream has ended within the greeting, or a deadline
has passed. -/
theorem greeting_is_refused {bufferSize : Nat} (positive : 0 < bufferSize) {c : Context}
    {stream : σ} (fresh : (traffic stream).given = [])
    (greets : (traffic stream).coming.head? = some greetingByte) (reliable : Reliable stream)
    {moves : List (Move σ τ)} (client : ∀ stream, Move.client stream ∈ moves → Reliable stream)
    (ran : (Standing.start bufferSize stream (dispatch c)).run moves = some s) :
    AwaitsGreeting (traffic stream).coming s ∨ WritesRefusal (traffic stream).coming s ∨
      ∃ o, s.rest.quiet = .finish o ∧
        RefusalEnds (traffic stream).coming (.expire ∈ moves) o s.post.ledger := by
  have refusing : Refusing (traffic stream).coming (.expire ∈ moves) s :=
    refusing_run greets (refusing_start positive fresh reliable) ran id client
  cases id refusing with
  | looks asks waiting opens =>
    exact .inl (Refusing.awaitsGreeting greets (.inl asks) waiting opens)
  | reads asks waiting opens =>
    exact .inl (Refusing.awaitsGreeting (c := c) greets (.inr asks) waiting opens)
  | writes asks => exact .inr (.inl (refusing.writesRefusal greets asks))
  | ended ends _ refused => exact .inr (.inr ⟨_, ends, refused⟩)

end

/-- A greeting of two methods, in two pieces that are read through a buffer of one byte, and a byte
behind it.  Once both pieces have arrived, the proxy goes on without anybody else acting. -/
theorem greeting_is_refused_in_pieces :
    let text : Bytes := [0x05, 0x02, 0x00, 0x01, 0x78]
    let client := Peered.fresh 16 text
    let begun : Peered := { Peered.fresh 16 (text.drop 1) with taken := text.take 1 }
    let arrives : List (Move Peered Peered) :=
      [.go, .client (client.sends 1), .go, .go, .go, .client (begun.sends 4)]
    let moves := arrives ++ [.go, .go, .go]
    let c : Context := ⟨{}, ⟨1, "127.0.0.1:50000"⟩⟩
    (∃ s, (Standing.start 1 client (dispatch c)).run moves = some s ∧ 0 < 1 ∧
      (traffic client).given = [] ∧ (traffic client).coming.head? = some greetingByte ∧
      s.rest.ended? = some ⟨some .socks5, some (.unsupported "socks5")⟩ ∧
      s.post.ledger.written = [0x05, 0xff] ∧ s.post.ledger.unread = [0x78]) ∧
    ∃ s t, (Standing.start 1 client (dispatch c)).run arrives = some s ∧ AwaitsGreeting text s ∧
      s.GoesTo t ∧ (WritesRefusal text t ∨
        ∃ o, t.rest = .finish o ∧ RefusalEnds text False o t.post.ledger) := by
  intro text client begun arrives moves c
  have goes : ((Standing.start 1 client (dispatch c)).run moves).any fun s =>
      s.rest.ended? == some ⟨some .socks5, some (.unsupported "socks5")⟩ := by
    decide +kernel
  have waits : ((Standing.start 1 client (dispatch c)).run arrives).any fun s =>
      s.post.stream? = some (begun.sends 4) ∧ s.post.ledger.unread = text.drop 1 := by
    decide +kernel
  have opened (stream : Peered) (member : Move.client stream ∈ moves) : Reliable stream := by
    refine Peered.reliable_of_open ?_
    have both : stream = client.sends 1 ∨ stream = begun.sends 4 := by
      simpa [moves, arrives] using member
    obtain rfl | rfl := both <;> decide
  constructor
  · obtain ⟨s, ran, goes⟩ := (Option.any_eq_true _ _).mp goes
    have ended := beq_iff_eq.mp goes
    have finished := Dialogue.eq_finish_of_ended? ended
    obtain awaits | writes | ⟨o, ends, refused⟩ :=
      greeting_is_refused (by decide) rfl rfl (Peered.reliable_of_open rfl) opened ran
    · exact absurd finished (awaits.unfinished _)
    · exact absurd finished (writes.unfinished _)
    · rw [finished] at ends
      cases ends
      cases refused with
      | refused taken written =>
        obtain ⟨n, length, _, unread⟩ := taken
        cases length
        exact ⟨s, ran, by decide, rfl, rfl, ended, written, unread⟩
      | late _ timedOut => obtain is | is := timedOut <;> cases is
  · obtain ⟨s, ran, waits⟩ := (Option.any_eq_true _ _).mp waits
    obtain ⟨here, unread⟩ := of_decide_eq_true waits
    have untaken : ¬ GreetingTaken text s.post.ledger.unread := by
      rintro ⟨n, length, _, taken⟩
      cases length
      rw [unread] at taken
      cases taken
    obtain awaits | writes | ⟨o, ends, refused⟩ :=
      greeting_is_refused (by decide) rfl rfl (Peered.reliable_of_open rfl)
        (fun stream member => opened stream (List.mem_append_left _ member)) ran
    · obtain ⟨t, goes, comes⟩ := awaits.comes (begun.sends 4) 4 here
        (Peered.supplies_of_held (.inr (by decide))) (.inr ⟨4, rfl, by decide⟩)
      exact ⟨s, t, ran, awaits, goes, comes⟩
    · exact absurd writes.taken untaken
    · cases refused with
      | refused taken => exact absurd taken untaken
      | torn _ ended =>
        rw [unread] at ended
        cases ended
      | late passed => simp [arrives] at passed

end Wiretap.Session
