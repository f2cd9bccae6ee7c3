import Wiretap.Proofs.Session.Phases
import Wiretap.Proofs.WebSocket.Crossing

/-!
# What goes on for a connection

A move of the dialogue's task tells at most the next note of the dialogue (`Standing.goes_of_step`).
What observers are told of the whole connection, also by the relay, comes in the phases that the
dialogue goes through: a relay tells only what may be told midway, and it tells nothing any more once
the dialogue goes on behind it (`Ensemble.conducted_step`).  So that holds throughout every run,
whatever happens in whatever order (`Ensemble.conducted_of_run`).
-/

namespace Wiretap.Session

set_option autoImplicit false

open Transport (ByteStream)
open WebSocket (Relay RelayAction RelayEvent)

variable {σ τ α : Type}

/-! ## What a move does to the dialogue -/

namespace Standing

/-- What a move does to the dialogue, and what observers are told in it. -/
inductive Goes (s s' : Standing σ τ α) (m : Move σ τ) : Prop where
  | told {n : Note} (told : s.rest = .tell n s'.rest) (news : s.news m = [n])
  | answered {q : Question} {next : q.Answer → Dialogue α} (a : q.Answer)
    (asked : s.rest = .ask q next) (goes : s'.rest = next a) (news : s.news m = [])
    (relayed : q.isRelay → m.isRelayed)
  | stays (same : s'.rest = s.rest) (news : s.news m = [])

variable {s s' : Standing σ τ α}

theorem news_of_asked {q : Question} {next : q.Answer → Dialogue α} (asked : s.rest = .ask q next)
    (m : Move σ τ) : s.news m = [] := by
  cases m with
  | go =>
    unfold news
    rw [asked]
  | _ => rfl

theorem goes_of_attempted [ByteStream σ] [ByteStream τ] {q : Question} {next : q.Answer → Dialogue α}
    (asked : s.rest = .ask q next) :
    s.Goes (s.attempted q next ((s.effortFor q).attempt s.post q)) .go := by
  rw [attempted]
  split
  · next a answered =>
    refine .answered a asked rfl (news_of_asked asked _) fun relay => ?_
    cases q with
    | relay ahead => cases answered
    | _ => cases relay
  · exact .stays rfl (news_of_asked asked _)

theorem goes_of_moved {e : Effort} (tunnel : s.tunnel? = some e)
    (x : Transport.Attempt Effort × Post σ τ) {m : Move σ τ} (news : s.news m = []) :
    s.Goes (s.moved e x) m := by
  obtain ⟨next, asked, _⟩ | ⟨ahead, next, asked, _⟩ := asked_of_tunnel tunnel
  · unfold moved
    split
    · exact .stays rfl news
    · exact .stays rfl news
    · rw [asked]
      exact .answered _ asked rfl news nofun
  · unfold moved
    split
    · exact .stays rfl news
    · exact .stays rfl news
    · rw [asked]
      exact .stays asked.symm news

/-- **A move tells the next note, or goes on with an answer, or leaves the dialogue where it is.** -/
theorem goes_of_step [ByteStream σ] [ByteStream τ] {m : Move σ τ} (went : s.step m = some s') :
    s.Goes s' m := by
  cases steps_of_step went with
  | tells told =>
    refine .told told ?_
    unfold news
    rw [told]
  | attempts asked => exact goes_of_attempted asked
  | @expires q next a asked late =>
    refine .answered a asked rfl (news_of_asked asked _) fun relay => ?_
    cases q with
    | relay ahead => cases late
    | _ => cases relay
  | @answers q next a asked foreign =>
    refine .answered a asked rfl (news_of_asked asked _) fun relay => ?_
    cases q with
    | relay ahead => rfl
    | _ => cases relay
  | dials asked => exact .answered _ asked rfl rfl nofun
  | relays asked => exact .stays rfl rfl
  | client => exact .stays rfl rfl
  | farSide => exact .stays rfl rfl
  | pulls tunnel => exact goes_of_moved tunnel _ rfl
  | pushes tunnel => exact goes_of_moved tunnel _ rfl

end Standing

/-! ## What a cue does -/

namespace Ensemble

variable {c : Context} {e e' : Ensemble σ τ}

/-- What a cue leads to, where it can be taken. -/
inductive Steps (c : Context) (e : Ensemble σ τ) : Cue σ τ → Ensemble σ τ → Prop where
  | dialogue {m : Move σ τ} {standing : Standing σ τ Outcome} (own : m.isRelayed = false)
    (goes : e.standing.Goes standing m) :
    e.Steps c (.dialogue m) ({ e with standing }.tell .dialogue (e.standing.news m))
  | begins {ahead : Bytes} {next : WebSocket.Relayed → Dialogue Outcome}
    (asked : e.standing.rest = .ask (.relay ahead) next) (none : e.relay = none) :
    e.Steps c .begin { e with relay := some {} }
  | relays {event : RelayEvent} {r r' : Relay} {actions : List RelayAction}
    (here : e.relay = some r) (steps : r.Steps event r' actions) :
    e.Steps c (.relay event)
      ({ e with relay := some r' }.tell .relay (actions.filterMap (relayNote c)))
  | resumes {ahead : Bytes} {next : WebSocket.Relayed → Dialogue Outcome} {r : Relay}
    {relayed : WebSocket.Relayed} (asked : e.standing.rest = .ask (.relay ahead) next)
    (here : e.relay = some r) (returns : r.result? = some relayed) :
    e.Steps c .resume
      { e with standing := e.standing.settle (.relay ahead) next e.standing.post relayed }

/-- **A cue does one of these things.** -/
theorem steps_of_step [ByteStream σ] [ByteStream τ] {q : Cue σ τ} (went : e.step c q = some e') :
    e.Steps c q e' := by
  cases q with
  | dialogue m =>
    obtain ⟨own, went⟩ := Option.ite_none_left_eq_some.mp went
    obtain ⟨standing, moved, ⟨⟩⟩ := Option.map_eq_some_iff.mp went
    exact .dialogue (Bool.not_eq_true _ ▸ own) (Standing.goes_of_step moved)
  | begin =>
    rw [step] at went
    split at went
    · next asked none =>
      cases went
      exact .begins asked none
    · cases went
  | relay event =>
    obtain ⟨r, here, went⟩ := Option.bind_eq_some_iff.mp went
    obtain ⟨⟨r', actions⟩, moved, ⟨⟩⟩ := Option.bind_eq_some_iff.mp went
    exact .relays here (Relay.steps_of_step moved)
  | resume =>
    rw [step] at went
    split at went
    · next ahead next asked =>
      obtain ⟨r, here, went⟩ := Option.bind_eq_some_iff.mp went
      obtain ⟨relayed, returns, went⟩ := Option.bind_eq_some_iff.mp went
      obtain ⟨standing, moved, ⟨⟩⟩ := Option.bind_eq_some_iff.mp went
      cases Standing.steps_of_step moved with
      | answers asks =>
        obtain ⟨⟩ := asked.symm.trans asks
        exact .resumes asked here returns
    · cases went

/-- What every cue keeps, a run keeps. -/
theorem run_keeps [ByteStream σ] [ByteStream τ] {P : Ensemble σ τ → Prop}
    (keeps : ∀ {e e' : Ensemble σ τ} {q : Cue σ τ}, e.Steps c q e' → P e → P e')
    {cues : List (Cue σ τ)} (ran : e.run c cues = some e') (before : P e) : P e' := by
  induction cues generalizing e with
  | nil =>
    cases ran
    exact before
  | cons q cues ih =>
    rw [run, List.foldlM_cons] at ran
    obtain ⟨middle, went, ran⟩ := Option.bind_eq_some_iff.mp ran
    exact ih ran (keeps (steps_of_step went) before)

/-! ## Connections in their phases -/

/-- The dialogue waits for a relay. -/
def Relaying (e : Ensemble σ τ) : Prop := ∃ ahead next, e.standing.rest = .ask (.relay ahead) next

/-- What has been told has led to a phase from which the dialogue follows, and a relay from which
the dialogue has gone on can return. -/
structure Conducted (ends : Outcome → Phase → Prop) (p : Phase) (e : Ensemble σ τ) : Prop where
  heard : Phase.unheard.after (e.told.map (·.2)) = some p
  follows : e.standing.rest.Follows ends p
  sound : ∀ r, e.relay = some r → r.Sound
  returned : ∀ r, e.relay = some r → e.Relaying ∨ r.result?.isSome

/-- What a relay tells may be told midway. -/
theorem midway_relayNote (actions : List RelayAction) :
    ∀ n ∈ actions.filterMap (relayNote c), n.isMidway := by
  intro n member
  obtain ⟨a, _, noted⟩ := List.mem_filterMap.mp member
  obtain ⟨d, action⟩ := a
  cases action <;> cases noted <;> rfl

theorem heard_tell {p : Phase} (heard : Phase.unheard.after (e.told.map (·.2)) = some p)
    (teller : Teller) (ns : List Note) :
    Phase.unheard.after ((e.tell teller ns).told.map (·.2)) = p.after ns := by
  have news : (e.tell teller ns).told.map (·.2) = e.told.map (·.2) ++ ns := by
    rw [tell, List.map_append, List.map_map]
    exact congrArg _ (List.map_id ns)
  rw [news, Phase.after_append, heard]
  rfl

variable {ends : Outcome → Phase → Prop} {p : Phase}

theorem conducted_of_goes {m : Move σ τ} {standing : Standing σ τ Outcome}
    (conducted : e.Conducted ends p) (own : m.isRelayed = false)
    (goes : e.standing.Goes standing m) :
    ∃ p', ({ e with standing }.tell .dialogue (e.standing.news m)).Conducted ends p' := by
  have follows := conducted.follows
  cases goes with
  | told told news =>
    rw [told] at follows
    obtain ⟨p', may, follows⟩ := follows
    refine ⟨p', ?_, follows, conducted.sound, fun r here => .inr ?_⟩
    · rw [heard_tell (e := { e with standing }) conducted.heard, news, Phase.after,
        List.foldlM_cons, may]
      rfl
    · obtain ⟨ahead, next, asked⟩ | returns := conducted.returned r here
      · rw [told] at asked
        cases asked
      · exact returns
  | @answered q next a asked goes news relayed =>
    rw [asked] at follows
    refine ⟨p, ?_, goes ▸ follows.2 a, conducted.sound, fun r here => .inr ?_⟩
    · rw [heard_tell (e := { e with standing }) conducted.heard, news]
      rfl
    · obtain ⟨ahead, next', waits⟩ | returns := conducted.returned r here
      · rw [asked] at waits
        cases waits
        rw [relayed rfl] at own
        cases own
      · exact returns
  | stays same news =>
    refine ⟨p, ?_, same ▸ follows, conducted.sound, fun r here => ?_⟩
    · rw [heard_tell (e := { e with standing }) conducted.heard, news]
      rfl
    · obtain ⟨ahead, next, asked⟩ | returns := conducted.returned r here
      · exact .inl ⟨ahead, next, same.trans asked⟩
      · exact .inr returns

/-- A relay tells only what may be told, since it does nothing once the dialogue goes on. -/
theorem conducted_of_relays {event : RelayEvent} {r r' : Relay} {actions : List RelayAction}
    (conducted : e.Conducted ends p) (here : e.relay = some r)
    (steps : r.Steps event r' actions) :
    ({ e with relay := some r' }.tell .relay (actions.filterMap (relayNote c))).Conducted
      ends p := by
  have sound := conducted.sound r here
  refine ⟨?_, conducted.follows, ?_, ?_⟩
  · rw [heard_tell (e := { e with relay := some r' }) conducted.heard]
    obtain ⟨ahead, next, asked⟩ | returns := conducted.returned r here
    · have follows := conducted.follows
      rw [asked] at follows
      rw [follows.1 rfl]
      exact Phase.after_serving (midway_relayNote actions)
    · rw [(Relay.still_of_result sound returns steps).1]
      rfl
  · rintro _ ⟨⟩
    exact Relay.sound_step sound steps
  · rintro _ ⟨⟩
    exact (conducted.returned r here).imp_right fun returns =>
      (Relay.still_of_result sound returns steps).2

/-- **Whatever happens to a connection, it stays in its phases.** -/
theorem conducted_step {q : Cue σ τ} (conducted : e.Conducted ends p) (steps : e.Steps c q e') :
    ∃ p', e'.Conducted ends p' := by
  cases steps with
  | dialogue own goes => exact conducted_of_goes conducted own goes
  | begins asked none =>
    refine ⟨p, conducted.heard, conducted.follows, ?_, fun r here => .inl ⟨_, _, asked⟩⟩
    rintro _ ⟨⟩
    exact Relay.sound_start
  | relays here steps => exact ⟨p, conducted_of_relays conducted here steps⟩
  | resumes asked here returns =>
    have follows := conducted.follows
    rw [asked] at follows
    refine ⟨p, conducted.heard, follows.2 _, conducted.sound, fun r there => .inr ?_⟩
    obtain ⟨⟩ := here.symm.trans there
    rw [returns]
    rfl

/-- **Once the dialogue has come to its end, nothing more is told.** -/
theorem still_of_finish {q : Cue σ τ} {o : Outcome} (conducted : e.Conducted ends p)
    (finished : e.standing.rest = .finish o) (steps : e.Steps c q e') :
    e'.standing.rest = .finish o ∧ e'.told = e.told := by
  cases steps with
  | dialogue own goes =>
    cases goes with
    | told told news =>
      rw [finished] at told
      cases told
    | answered a asked goes news relayed =>
      rw [finished] at asked
      cases asked
    | stays same news =>
      refine ⟨same.trans finished, ?_⟩
      rw [news]
      exact List.append_nil _
  | begins asked none =>
    rw [finished] at asked
    cases asked
  | @relays event r r' actions here steps =>
    refine ⟨finished, ?_⟩
    have returns : r.result?.isSome := by
      obtain ⟨ahead, next, asked⟩ | returns := conducted.returned r here
      · rw [finished] at asked
        cases asked
      · exact returns
    obtain ⟨rfl, _⟩ := Relay.still_of_result (conducted.sound r here) returns steps
    exact List.append_nil _
  | resumes asked here returns =>
    rw [finished] at asked
    cases asked

/-- What has been told stays told. -/
theorem told_of_steps {q : Cue σ τ} (steps : e.Steps c q e') :
    ∃ news, e'.told = e.told ++ news := by
  cases steps with
  | dialogue own goes => exact ⟨_, rfl⟩
  | begins asked none => exact ⟨[], (List.append_nil _).symm⟩
  | relays here steps => exact ⟨_, rfl⟩
  | resumes asked here returns => exact ⟨[], (List.append_nil _).symm⟩

theorem conducted_start (bufferSize : Nat) (stream : σ) {d : Dialogue Outcome}
    (follows : d.Follows ends .unheard) :
    Conducted ends .unheard (start bufferSize stream d : Ensemble σ τ) where
  heard := rfl
  follows := follows
  sound r here := by cases here
  returned r here := by cases here

/-- **Throughout every run of a connection, what observers are told comes in its phases.** -/
theorem conducted_of_run [ByteStream σ] [ByteStream τ] {bufferSize : Nat} {stream : σ}
    {d : Dialogue Outcome} {cues : List (Cue σ τ)} (follows : d.Follows ends .unheard)
    (ran : (start bufferSize stream d).run c cues = some e) : ∃ p, e.Conducted ends p := by
  apply run_keeps (P := fun e => ∃ p, e.Conducted ends p) _ ran
  · exact ⟨.unheard, conducted_start bufferSize stream follows⟩
  · intro e e' q steps ⟨p, conducted⟩
    exact conducted_step conducted steps

end Ensemble

end Wiretap.Session
