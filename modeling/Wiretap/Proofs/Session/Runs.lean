import Wiretap.Proofs.Session.Attempts
import Wiretap.Proofs.Session.Obedience

/-!
# Runs of a performance

A move does one of a few things, where it can be made (`Steps`).  A performance of a dialogue that
obeys a rule is accounted for by a ledger: what the streams had come to when the question that the
proxy waits for was asked (`Accounts`).  Every move keeps that (`accounts_step`), so a run of moves
does, whatever its timing (`accounts_run`), as long as only answers have been given that the rule
reckons with.
-/

namespace Wiretap.Session

set_option autoImplicit false

open Transport (Attempt ByteStream LawfulStream Traffic traffic)

variable {σ τ α : Type}

theorem Answered.eq_of_to? {x : Answered} {q : Question} {a : q.Answer} (given : x.to? q = some a) :
    x = ⟨q, a⟩ := by
  obtain ⟨asked, answer⟩ := x
  rw [Answered.to?] at given
  split at given
  · next same =>
    cases same
    cases given
    rfl
  · cases given

/-! ## What a move does -/

namespace Standing

/-- What a move leads to, where it can be made. -/
inductive Steps [ByteStream σ] [ByteStream τ] (s : Standing σ τ α) :
    Move σ τ → Standing σ τ α → Prop where
  | tells {n : Note} {rest : Dialogue α} (told : s.rest = .tell n rest) :
    s.Steps .go { s with rest, effort := none, told := n :: s.told }
  | attempts {q : Question} {next : q.Answer → Dialogue α} (asked : s.rest = .ask q next) :
    s.Steps .go (s.attempted q next ((s.effortFor q).attempt s.post q))
  | expires {q : Question} {next : q.Answer → Dialogue α} {a : q.Answer}
    (asked : s.rest = .ask q next) (late : q.late? = some a) :
    s.Steps .expire (s.settle q next s.post a)
  | answers {q : Question} {next : q.Answer → Dialogue α} {a : q.Answer}
    (asked : s.rest = .ask q next) (foreign : Answered.isForeign ⟨q, a⟩) :
    s.Steps (.answer ⟨q, a⟩) (s.settle q next s.post a)
  | dials {target : Bytes} {next : Reading Unit → Dialogue α} {t : τ}
    (asked : s.rest = .ask (.dial target) next) (absent : s.post.far = none)
    (fresh : (traffic t).isFresh) :
    s.Steps (.connect t) (s.settle (.dial target) next { s.post with far := some t } (.got ()))
  | relays {ahead : Bytes} {next : WebSocket.Relayed → Dialogue α} {t : τ}
    (asked : s.rest = .ask (.relay ahead) next) (absent : s.post.far = none)
    (fresh : (traffic t).isFresh) :
    s.Steps (.connect t) { s with post := { s.post with far := some t } }
  | client {old stream : σ} (here : s.post.stream? = some old)
    (rests : (traffic old).Rests (traffic stream)) :
    s.Steps (.client stream) { s with post := s.post.onStream fun _ => stream }
  | farSide {old stream : τ} (here : s.post.far = some old)
    (rests : (traffic old).Rests (traffic stream)) :
    s.Steps (.farSide stream) { s with post := { s.post with far := some stream } }
  | pulls {d : Observer.Direction} {n : Nat} {e : Effort} (tunnel : s.tunnel? = some e) :
    s.Steps (.pull d n) (s.moved e (e.pull d (n + 1) s.post))
  | pushes {d : Observer.Direction} {e : Effort} (tunnel : s.tunnel? = some e) :
    s.Steps (.push d) (s.moved e (e.push d s.post))

theorem steps_of_connect [ByteStream σ] [ByteStream τ] {s s' : Standing σ τ α} {t : τ}
    (went : s.connect t = some s') : s.Steps (.connect t) s' := by
  rw [connect] at went
  split at went
  · next may =>
    obtain ⟨absent, fresh⟩ := Bool.and_eq_true_iff.mp may
    rw [Option.isNone_iff_eq_none] at absent
    dsimp only at went
    split at went
    · next asked =>
      cases went
      exact .dials asked absent fresh
    · next asked =>
      cases went
      exact .relays asked absent fresh
    · cases went
  · cases went

/-- **A move does one of these things.** -/
theorem steps_of_step [ByteStream σ] [ByteStream τ] {s s' : Standing σ τ α} {m : Move σ τ}
    (went : s.step m = some s') : s.Steps m s' := by
  cases m with
  | go =>
    rw [step] at went
    split at went
    · cases went
    · next told =>
      cases went
      exact .tells told
    · next asked =>
      cases went
      exact .attempts asked
  | expire =>
    rw [step] at went
    split at went
    · next asked =>
      obtain ⟨a, late, rfl⟩ := Option.map_eq_some_iff.mp went
      exact .expires asked late
    · cases went
  | answer x =>
    rw [step] at went
    split at went
    · next asked =>
      split at went
      · next foreign =>
        obtain ⟨a, given, rfl⟩ := Option.map_eq_some_iff.mp went
        cases Answered.eq_of_to? given
        exact .answers asked foreign
      · cases went
    · cases went
  | connect t => exact steps_of_connect went
  | client stream =>
    rw [step] at went
    split at went
    · next here =>
      split at went
      · next rests =>
        cases went
        exact .client here rests
      · cases went
    · cases went
  | farSide stream =>
    rw [step] at went
    split at went
    · next here =>
      split at went
      · next rests =>
        cases went
        exact .farSide here rests
      · cases went
    · cases went
  | pull d n =>
    obtain ⟨e, tunnel, rfl⟩ := Option.map_eq_some_iff.mp went
    exact .pulls tunnel
  | push d =>
    obtain ⟨e, tunnel, rfl⟩ := Option.map_eq_some_iff.mp went
    exact .pushes tunnel

/-- A tunnel is carried because the dialogue asks for one of the two kinds. -/
theorem asked_of_tunnel {s : Standing σ τ α} {e : Effort} (tunnel : s.tunnel? = some e) :
    (∃ next, s.rest = .ask .carry next ∧ e = s.effortFor .carry) ∨
      ∃ ahead next, s.rest = .ask (.relay ahead) next ∧ e = s.effortFor (.relay ahead) := by
  rw [tunnel?] at tunnel
  split at tunnel
  · next next asked =>
    cases tunnel
    exact .inl ⟨next, asked, rfl⟩
  · next ahead next asked =>
    cases tunnel
    exact .inr ⟨ahead, next, asked, rfl⟩
  · cases tunnel

/-! ## What has been answered -/

theorem past_of_settle (s : Standing σ τ α) (q : Question) (next : q.Answer → Dialogue α)
    (post : Post σ τ) (a : q.Answer) : s.past <:+ (s.settle q next post a).past :=
  List.suffix_cons _ _

theorem past_of_attempted (s : Standing σ τ α) (q : Question) (next : q.Answer → Dialogue α)
    (x : Effort.Outcome σ τ q.Answer) : s.past <:+ (s.attempted q next x).past := by
  rw [attempted]
  split
  · exact past_of_settle ..
  · exact List.suffix_refl _

theorem past_of_moved (s : Standing σ τ α) (e : Effort) (x : Attempt Effort × Post σ τ) :
    s.past <:+ (s.moved e x).past := by
  unfold moved
  split
  · exact List.suffix_refl _
  · exact List.suffix_refl _
  · split
    · exact past_of_settle ..
    · exact List.suffix_refl _

variable [ByteStream σ] [ByteStream τ]

/-- What has been answered stays answered. -/
theorem Steps.past {s s' : Standing σ τ α} {m : Move σ τ} (steps : s.Steps m s') :
    s.past <:+ s'.past := by
  cases steps with
  | tells | relays | client | farSide => exact List.suffix_refl _
  | attempts => exact past_of_attempted ..
  | expires | answers | dials => exact past_of_settle ..
  | pulls | pushes => exact past_of_moved ..

theorem past_of_run {moves : List (Move σ τ)} {s s' : Standing σ τ α}
    (ran : s.run moves = some s') : s.past <:+ s'.past := by
  induction moves generalizing s with
  | nil =>
    cases ran
    exact List.suffix_refl _
  | cons m moves ih =>
    obtain ⟨middle, went, ran⟩ := Option.bind_eq_some_iff.mp ran
    exact (steps_of_step went).past.trans (ih ran)

end Standing

/-! ## Others act -/

/-- A relay that waits for its far side has not begun. -/
def Unbegun : Question → Effort → Prop
  | .relay ahead, e => e.outbound = { held := ahead } ∧ e.inbound = {}
  | _, _ => True

theorem unbegun_start (q : Question) : Unbegun q (.start 0 q) := by
  cases q <;> trivial

variable [ByteStream σ] [ByteStream τ]

theorem unbegun_attempt {q : Question} {e : Effort} {p : Post σ τ}
    (unbegun : p.far = none → Unbegun q e) :
    (e.attempt p q).post.far = none → Unbegun q (e.attempt p q).effort := by
  cases q with
  | relay => exact unbegun
  | _ => exact fun _ => trivial

/-- A ledger stays if nothing travels over the streams. -/
theorem ledger_rests {p p' : Post σ τ} (ahead : p'.readAhead = p.readAhead)
    (client : p.clientTraffic.Rests p'.clientTraffic) (far : p'.far = p.far)
    (size : p'.connection.bufferSize = p.connection.bufferSize) : p.ledger.Rests p'.ledger := by
  obtain ⟨_, coming, given, passed⟩ := client
  rw [Post.ledger, Post.ledger, ahead, coming, given, Post.farTraffic, Post.farTraffic, far, size]
  exact ⟨rfl, (List.append_nil _).symm, passed, (List.append_nil _).symm, rfl, rfl, rfl⟩

/-- Whatever the client does to its end of its stream, the ledger stays. -/
theorem rests_onStream {p : Post σ τ} {old new : σ} (proper : p.Proper)
    (here : p.stream? = some old) (rests : (traffic old).Rests (traffic new)) :
    (p.onStream fun _ => new).Proper ∧ p.ledger.Rests (p.onStream fun _ => new).ledger := by
  obtain ⟨⟨size, link⟩, raw, leaving, far⟩ := p
  have held {buffer : Transport.WriteBuffer} :
      (traffic (⟨buffer, old⟩ : Transport.BufferedSink σ)).Rests
        (traffic (⟨buffer, new⟩ : Transport.BufferedSink σ)) := rests.write _
  cases link with
  | attached s r w =>
    cases here
    obtain ⟨capacity, none⟩ := proper _ r w rfl
    cases none
    refine ⟨?_, ledger_rests rfl held rfl rfl⟩
    rintro _ _ _ ⟨⟩
    exact ⟨capacity, rfl⟩
  | detached | closed =>
    refine ⟨nofun, ledger_rests rfl ?_ rfl rfl⟩
    cases raw with
    | some s =>
      cases here
      exact rests
    | none =>
      cases leaving with
      | some b =>
        cases here
        exact held
      | none => cases here

/-- Whatever the far side does to its end of its stream, the ledger stays. -/
theorem rests_farSide {p : Post σ τ} {old new : τ} (far : p.far = some old)
    (rests : (traffic old).Rests (traffic new)) :
    p.ledger.Rests ({ p with far := some new } : Post σ τ).ledger := by
  obtain ⟨taken, coming, given, _⟩ := rests
  obtain ⟨connection, raw, leaving, far⟩ := p
  cases far
  exact ⟨rfl, (List.append_nil _).symm, List.prefix_refl _, given.trans (List.append_nil _).symm,
    taken, coming, rfl⟩

/-- The far side of a relay that waits for it is there. -/
theorem underway_connected {ahead : Bytes} {e : Effort} {l : Ledger} {p : Post σ τ} {t : τ}
    (underway : Underway (.relay ahead) e l p.ledger) (unbegun : Unbegun (.relay ahead) e)
    (absent : p.far = none) (taken : (traffic t).taken = []) (given : (traffic t).given = []) :
    Underway (.relay ahead) e l ({ p with far := some t } : Post σ τ).ledger := by
  obtain ⟨connection, raw, leaving, far⟩ := p
  cases absent
  obtain ⟨left, ⟨⟨out, toFar, outCount, outOrder⟩, _, _⟩,
    ⟨⟨back, written, backCount, backOrder⟩, _, _⟩, passed, fromFar, _, room⟩ := underway
  obtain ⟨outbound, inbound⟩ := unbegun
  rw [outbound] at outCount outOrder
  rw [inbound] at backCount
  obtain rfl := List.eq_nil_of_length_eq_zero outCount
  obtain rfl := List.eq_nil_of_length_eq_zero backCount
  refine ⟨(traffic t).coming, ?_⟩
  rw [outbound, inbound]
  refine carries_start ahead ⟨List.append_cancel_left outOrder, written, passed, ?_, ?_, rfl, room⟩
  · exact given.trans toFar
  · exact taken.trans (List.append_eq_nil_iff.mp fromFar.symm).1.symm

namespace Standing

/-- What the streams have come to since the last answer. -/
def Stands (s : Standing σ τ α) (l : Ledger) : Prop :=
  match s.rest with
  | .ask q _ => Underway q (s.effortFor q) l s.post.ledger ∧
    (s.post.far = none → Unbegun q (s.effortFor q))
  | _ => l.Rests s.post.ledger

/-- What is left of the dialogue obeys the rule, and the streams have come to what it asked for. -/
structure Accounts (rule : Rule) (ends : α → Ledger → List Answered → Prop) (s : Standing σ τ α)
    (l : Ledger) : Prop where
  proper : s.post.Proper
  obeys : s.rest.Obeys rule ends l s.past
  stands : s.Stands l

variable {rule : Rule} {ends : α → Ledger → List Answered → Prop} {s : Standing σ τ α} {l : Ledger}

/-- As long as no attempt has been made, nothing needs to have been moved. -/
theorem stands_of_rests (unattempted : s.effort = none) (rests : l.Rests s.post.ledger) :
    s.Stands l := by
  rw [Stands]
  split
  · next q next _ =>
    rw [effortFor, unattempted]
    exact ⟨underway_start rests, fun _ => unbegun_start q⟩
  · exact rests

/-- The streams may be replaced by others that have come to the same. -/
theorem Accounts.rests (accounts : s.Accounts rule ends l) {post : Post σ τ} (proper : post.Proper)
    (rests : s.post.ledger.Rests post.ledger) (far : post.far = none → s.post.far = none) :
    ({ s with post } : Standing σ τ α).Accounts rule ends l := by
  obtain ⟨_, obeys, stands⟩ := accounts
  refine ⟨proper, obeys, ?_⟩
  rw [Stands] at stands ⊢
  dsimp only
  split at stands
  · next q next rest =>
    rw [rest]
    exact ⟨stands.1.rests rests, fun none => stands.2 (far none)⟩
  · next rest =>
    exact stands.rests rests

/-- An answer that is right leads to the ledger that it leaves. -/
theorem accounts_settle {q : Question} {next : q.Answer → Dialogue α} {post : Post σ τ}
    {a : q.Answer} (obeys : (Dialogue.ask q next).Obeys rule ends l s.past) (proper : post.Proper)
    (allowed : rule.allows ⟨q, a⟩) (settles : Settles q a l post.ledger) :
    (s.settle q next post a).Accounts rule ends post.ledger where
  proper := proper
  obeys := obeys.2 a _ allowed settles
  stands := stands_of_rests rfl (.refl _)

/-- An effort that is right leaves the question waiting. -/
theorem accounts_wait {q : Question} {next : q.Answer → Dialogue α} {post : Post σ τ} {e : Effort}
    (asked : s.rest = .ask q next) (obeys : s.rest.Obeys rule ends l s.past) (proper : post.Proper)
    (underway : Underway q e l post.ledger) (unbegun : post.far = none → Unbegun q e) :
    ({ s with post, effort := some e } : Standing σ τ α).Accounts rule ends l := by
  refine ⟨proper, obeys, ?_⟩
  rw [Stands]
  dsimp only
  rw [asked]
  exact ⟨underway, unbegun⟩

/-! ## One move -/

/-- A question has been answered by a right answer that moves nothing at the post. -/
theorem Accounts.answered {q : Question} {next : q.Answer → Dialogue α} {a : q.Answer}
    (accounts : s.Accounts rule ends l) (asked : s.rest = .ask q next)
    (allowed : rule.allows ⟨q, a⟩)
    (settles : Underway q (s.effortFor q) l s.post.ledger → Settles q a l s.post.ledger) :
    ∃ l', (s.settle q next s.post a).Accounts rule ends l' := by
  obtain ⟨proper, obeys, stands⟩ := accounts
  rw [Stands, asked] at stands
  rw [asked] at obeys
  exact ⟨_, accounts_settle obeys proper allowed (settles stands.1)⟩

theorem Accounts.dials {target : Bytes} {next : Reading Unit → Dialogue α} {t : τ}
    (accounts : s.Accounts rule ends l) (asked : s.rest = .ask (.dial target) next)
    (fresh : (traffic t).isFresh) (allowed : rule.allows ⟨.dial target, .got ()⟩) :
    ∃ l', (s.settle (.dial target) next { s.post with far := some t } (.got ())).Accounts rule
      ends l' := by
  obtain ⟨proper, obeys, stands⟩ := accounts
  obtain ⟨taken, given⟩ := Traffic.eq_nil_of_isFresh fresh
  rw [Stands, asked] at stands
  rw [asked] at obeys
  obtain ⟨⟨_, rfl, moves⟩, _⟩ := stands
  exact ⟨_, accounts_settle obeys proper allowed
    ⟨given, taken, moves.unread.symm, moves.written.trans (List.append_nil _), moves.passed⟩⟩

theorem Accounts.relays {ahead : Bytes} {next : WebSocket.Relayed → Dialogue α} {t : τ}
    (accounts : s.Accounts rule ends l) (asked : s.rest = .ask (.relay ahead) next)
    (absent : s.post.far = none) (fresh : (traffic t).isFresh) :
    ({ s with post := { s.post with far := some t } } : Standing σ τ α).Accounts rule ends l := by
  obtain ⟨proper, obeys, stands⟩ := accounts
  obtain ⟨taken, given⟩ := Traffic.eq_nil_of_isFresh fresh
  rw [Stands, asked] at stands
  refine ⟨proper, obeys, ?_⟩
  rw [Stands]
  dsimp only
  rw [asked]
  exact ⟨underway_connected stands.1 (stands.2 absent) absent taken given, nofun⟩

/-- What an attempt of a direction comes to, if it keeps both directions under way and moves nothing
while the far side is missing. -/
theorem Accounts.moved {e : Effort} {x : Attempt Effort × Post σ τ}
    (accounts : s.Accounts rule ends l) (tunnel : s.tunnel? = some e)
    (keeps : ∀ ahead l, Carries ahead e.outbound e.inbound l s.post.ledger →
      x.2.Proper ∧ Carries ahead (x.1.getD e).outbound (x.1.getD e).inbound l x.2.ledger)
    (waits : x.2.far = none → x.1 = .blocked ∧ s.post.far = none)
    (allowed : ∀ a ∈ (s.moved e x).past, rule.allows a) :
    ∃ l', (s.moved e x).Accounts rule ends l' := by
  obtain ⟨_, obeys, stands⟩ := accounts
  obtain ⟨r, post⟩ := x
  obtain ⟨next, asked, rfl⟩ | ⟨ahead, next, asked, rfl⟩ := asked_of_tunnel tunnel
  · rw [Stands, asked] at stands
    obtain ⟨proper, carries⟩ := keeps _ _ stands.1
    cases r with
    | done e' => exact ⟨l, accounts_wait asked obeys proper carries fun _ => trivial⟩
    | blocked => exact ⟨l, accounts_wait asked obeys proper carries fun _ => trivial⟩
    | failed f =>
      have settled : s.moved (s.effortFor .carry) (.failed f, post) =
          s.settle .carry next post ((s.effortFor .carry).carried (some f)) := by
        simp only [Standing.moved, asked]
      rw [settled] at allowed ⊢
      rw [asked] at obeys
      exact ⟨_, accounts_settle obeys proper (allowed _ List.mem_cons_self)
        ⟨_, _, carries, rfl, rfl, nofun⟩⟩
  · rw [Stands, asked] at stands
    obtain ⟨⟨left, carries⟩, unbegun⟩ := stands
    obtain ⟨proper, carries⟩ := keeps _ _ carries
    have waiting (none : post.far = none) :
        Unbegun (.relay ahead) (r.getD (s.effortFor (.relay ahead))) := by
      obtain ⟨blocked, none⟩ := waits none
      cases blocked
      exact unbegun none
    cases r with
    | done e' => exact ⟨l, accounts_wait asked obeys proper ⟨left, carries⟩ waiting⟩
    | blocked => exact ⟨l, accounts_wait asked obeys proper ⟨left, carries⟩ waiting⟩
    | failed f =>
      have on : s.moved (s.effortFor (.relay ahead)) (.failed f, post) =
          { s with post, effort := some (s.effortFor (.relay ahead)) } := by
        simp only [Standing.moved, asked]
      rw [on]
      exact ⟨l, accounts_wait asked obeys proper ⟨left, carries⟩ waiting⟩

section

variable [LawfulStream σ] [LawfulStream τ] {s' : Standing σ τ α}

theorem Accounts.attempts {q : Question} {next : q.Answer → Dialogue α}
    (accounts : s.Accounts rule ends l) (asked : s.rest = .ask q next)
    (allowed : ∀ a ∈ (s.attempted q next ((s.effortFor q).attempt s.post q)).past, rule.allows a) :
    ∃ l', (s.attempted q next ((s.effortFor q).attempt s.post q)).Accounts rule ends l' := by
  obtain ⟨proper, obeys, stands⟩ := accounts
  rw [Stands, asked] at stands
  obtain ⟨underway, unbegun⟩ := stands
  have meets := Effort.attempt_meets proper underway
  have still := unbegun_attempt unbegun
  rw [attempted] at allowed ⊢
  generalize (s.effortFor q).attempt s.post q = x at meets still allowed ⊢
  obtain ⟨answer, effort, post⟩ := x
  obtain ⟨proper, meets⟩ := meets
  cases answer with
  | some a =>
    rw [asked] at obeys
    exact ⟨_, accounts_settle obeys proper (allowed _ List.mem_cons_self) meets⟩
  | none => exact ⟨l, accounts_wait asked obeys proper meets still⟩

/-- **Every move keeps the account.** -/
theorem accounts_step {m : Move σ τ} (accounts : s.Accounts rule ends l) (steps : s.Steps m s')
    (allowed : ∀ a ∈ s'.past, rule.allows a) : ∃ l', s'.Accounts rule ends l' := by
  cases steps with
  | tells told =>
    obtain ⟨proper, obeys, stands⟩ := accounts
    rw [Stands, told] at stands
    rw [told] at obeys
    exact ⟨l, proper, obeys, stands_of_rests rfl stands⟩
  | attempts asked => exact accounts.attempts asked allowed
  | expires asked late =>
    exact accounts.answered asked (allowed _ List.mem_cons_self) (settles_late · late)
  | answers asked foreign =>
    exact accounts.answered asked (allowed _ List.mem_cons_self) (settles_foreign · foreign)
  | dials asked _ fresh => exact accounts.dials asked fresh (allowed _ List.mem_cons_self)
  | relays asked absent fresh => exact ⟨l, accounts.relays asked absent fresh⟩
  | client here rests =>
    obtain ⟨proper, still⟩ := rests_onStream accounts.proper here rests
    exact ⟨l, accounts.rests proper still id⟩
  | farSide here rests =>
    exact ⟨l, accounts.rests accounts.proper (rests_farSide here rests) nofun⟩
  | pulls tunnel =>
    exact accounts.moved tunnel (fun _ _ => Effort.pull_carries accounts.proper)
      Effort.pull_waits allowed
  | pushes tunnel =>
    exact accounts.moved tunnel (fun _ _ => Effort.push_carries accounts.proper)
      Effort.push_waits allowed

end

/-! ## A run of moves -/

/-- **Every run of moves keeps the account.** -/
theorem accounts_run [LawfulStream σ] [LawfulStream τ] {moves : List (Move σ τ)}
    {s s' : Standing σ τ α} {l : Ledger} (accounts : s.Accounts rule ends l)
    (ran : s.run moves = some s') (allowed : ∀ a ∈ s'.past, rule.allows a) :
    ∃ l', s'.Accounts rule ends l' := by
  induction moves generalizing s l with
  | nil =>
    cases ran
    exact ⟨l, accounts⟩
  | cons m moves ih =>
    obtain ⟨middle, went, ran⟩ := Option.bind_eq_some_iff.mp ran
    obtain ⟨l', accounts⟩ := accounts_step accounts (steps_of_step went) fun a member =>
      allowed a ((past_of_run ran).subset member)
    exact ih accounts ran

/-- The account of a performance before the first move. -/
theorem accounts_start {bufferSize : Nat} {stream : σ} {d : Dialogue α}
    (obeys : d.Obeys rule ends (.opening bufferSize (traffic stream)) []) :
    (start bufferSize stream d : Standing σ τ α).Accounts rule ends
      (.opening bufferSize (traffic stream)) where
  proper := by
    rintro _ _ _ ⟨⟩
    exact ⟨rfl, rfl⟩
  obeys := obeys
  stands := stands_of_rests rfl ⟨rfl, rfl, List.prefix_refl _, rfl, rfl, rfl, rfl⟩

end Standing

end Wiretap.Session
