import Wiretap.Proofs.Session.Ensembles
import Wiretap.Proofs.Session.Serving

/-!
# Messages that cross a connection

Whatever the order in which the two directions of a relay go on, and wherever each of them ends,
what arrives at one side is a first part of the data messages taken from the other, and what
observers have been told of that direction lies between the two (`Crosses`).  Once the relay has
returned neither pump takes another step, and no payload is shown or counted behind the end of the
connection (`Ensemble.crosses_of_run`).
-/

namespace Wiretap.Session

set_option autoImplicit false

open Observer (Direction)
open Transport (ByteStream Peered)
open WebSocket (Leg PumpAction PumpEvent Relay RelayAction UpgradeRequest captures dataMessages
  contents)

variable {σ τ : Type}

/-! ## What a relay shows -/

/-- The payload of one direction that a note of a relay shows. -/
def shownBy (d : Direction) : Teller × Note → Option Bytes
  | (.relay, .hook (.packet way data)) => if way = d then some data else none
  | _ => none

/-- The payloads of one direction that observers have been shown by a relay.  An executor is called
with those that are not empty. -/
def shownByRelay (d : Direction) (told : List (Teller × Note)) : List Bytes :=
  told.filterMap (shownBy d)

/-- The payloads that an executor is called with. -/
def reported (d : Direction) (told : List (Teller × Note)) : List Bytes :=
  (shownByRelay d told).filter (!·.isEmpty)

theorem shownByRelay_append (d : Direction) (told more : List (Teller × Note)) :
    shownByRelay d (told ++ more) = shownByRelay d told ++ shownByRelay d more :=
  List.filterMap_append

theorem shownByRelay_dialogue (d : Direction) (ns : List Note) :
    shownByRelay d (ns.map (Teller.dialogue, ·)) = [] := by
  induction ns with
  | nil => rfl
  | cons n ns ih => exact ih

/-- A relay shows what its pumps capture. -/
theorem shownByRelay_relay (c : Context) (d way : Direction) (did : List PumpAction) :
    shownByRelay d (((did.map (RelayAction.mk way)).filterMap (relayNote c)).map (Teller.relay, ·)) =
      if way = d then captures did else [] := by
  induction did with
  | nil => exact (ite_self _).symm
  | cons action did ih =>
    cases action with
    | capture data =>
      have first : shownBy d (.relay, .hook (.packet way data)) =
          if way = d then some data else none := rfl
      change List.filterMap (shownBy d) ((.relay, .hook (.packet way data)) :: _) = _
      rw [List.filterMap_cons, first]
      by_cases same : way = d
      · rw [if_pos same] at ih ⊢
        rw [if_pos same]
        exact congrArg (data :: ·) ih
      · rw [if_neg same] at ih ⊢
        rw [if_neg same]
        exact ih
    | count bytes => exact ih
    | give m => exact ih
    | takeFailed why => exact ih
    | giveFailed why => exact ih
    | close => exact ih

namespace Ensemble

variable {c : Context} {e e' : Ensemble σ τ}

/-- Each direction of a relay has shown what it has taken; without a relay nothing has been shown by
one. -/
structure Level (e : Ensemble σ τ) : Prop where
  legs : ∀ r, e.relay = some r → ∀ d, (r.leg d).Level (shownByRelay d e.told)
  unshown : e.relay = none → ∀ d, shownByRelay d e.told = []

theorem shown_of_dialogue (e : Ensemble σ τ) (ns : List Note) (d : Direction) :
    shownByRelay d (e.tell .dialogue ns).told = shownByRelay d e.told := by
  rw [tell, shownByRelay_append, shownByRelay_dialogue, List.append_nil]

theorem legs_of_relays {r r' : Relay} {event : WebSocket.RelayEvent} {actions : List RelayAction}
    (level : ∀ d, (r.leg d).Level (shownByRelay d e.told)) (steps : r.Steps event r' actions)
    (d : Direction) :
    (r'.leg d).Level (shownByRelay d (e.tell .relay (actions.filterMap (relayNote c))).told) := by
  rw [tell, shownByRelay_append]
  cases steps with
  | @leg way _ l did went =>
    rw [shownByRelay_relay]
    by_cases same : way = d
    · subst same
      rw [if_pos rfl, Relay.leg_setLeg_self]
      exact Leg.level_step (level way) went
    · rw [if_neg same, List.append_nil, Relay.leg_setLeg_ne r l (Ne.symm same)]
      exact level d
  | noticed unfinished atEnd =>
    rw [Relay.leg_cancel]
    change Leg.Level _ (_ ++ [])
    rw [List.append_nil]
    exact ⟨(level d).given, (level d).captured⟩

theorem level_start (bufferSize : Nat) (stream : σ) (d : Dialogue Outcome) :
    Level (start bufferSize stream d : Ensemble σ τ) where
  legs r here := by cases here
  unshown _ _ := rfl

theorem level_step {q : Cue σ τ} (steps : e.Steps c q e') (level : e.Level) : e'.Level := by
  cases steps with
  | dialogue own goes =>
    constructor
    · intro r here d
      rw [shown_of_dialogue]
      exact level.legs r here d
    · intro none d
      rw [shown_of_dialogue]
      exact level.unshown none d
  | begins asked none =>
    constructor
    · rintro _ ⟨⟩ d
      change ({} : Relay).leg d |>.Level (shownByRelay d e.told)
      rw [level.unshown none d]
      cases d <;> exact Leg.level_start
    · intro still
      cases still
  | relays here steps =>
    constructor
    · rintro _ ⟨⟩ d
      exact legs_of_relays (level.legs _ here) steps d
    · intro still
      cases still
  | resumes => exact ⟨level.legs, level.unshown⟩

end Ensemble

/-! ## Behind the end -/

/-- Whether a note is of a payload that crosses. -/
def Note.isTraffic : Note → Bool
  | .hook (.packet ..) => true
  | .metric (.relayed ..) => true
  | _ => false

namespace Phase

/-- Whether the connection has ended. -/
def isLast : Phase → Bool
  | ended => true
  | closed .. => true
  | _ => false

theorem isLast_next {p p' : Phase} {n : Note} (last : p.isLast) (may : p.next n = some p') :
    n.isTraffic = false ∧ p'.isLast := by
  cases next_cases may with
  | logged p entry => exact ⟨rfl, last⟩
  | countedOff protocol outcome => exact ⟨rfl, rfl⟩
  | opened | begun | handled | midway | done => cases last

/-- No payload crosses any more when the connection has ended. -/
theorem still_of_isLast {p p' : Phase} {ns : List Note} (last : p.isLast)
    (after : p.after ns = some p') : ∀ n ∈ ns, n.isTraffic = false := by
  induction ns generalizing p with
  | nil => nofun
  | cons n ns ih =>
    rw [Phase.after, List.foldlM_cons] at after
    obtain ⟨middle, may, after⟩ := Option.bind_eq_some_iff.mp after
    obtain ⟨still, last⟩ := isLast_next last may
    intro m member
    obtain rfl | later := List.mem_cons.mp member
    · exact still
    · exact ih last after m later

theorem isLast_of_ended {p p' : Phase} {micros : Nat}
    (may : p.next (.hook (.ended micros)) = some p') : p'.isLast := by
  cases next_cases may with
  | midway midway => cases midway
  | done => rfl

end Phase

/-! ## Whole runs -/

/-- How far the messages of one direction have come, and what observers have been told of them. -/
structure Crosses (l : Leg) (told : List Bytes) : Prop where
  /-- What has arrived is a first part of the data messages taken from the other side. -/
  delivers : dataMessages l.delivered <+: dataMessages l.taken
  /-- What has been reported is a first part of their payloads, but for empty ones. -/
  reports : told <+: (contents l.taken).filter (!·.isEmpty)
  /-- What has arrived has been reported before. -/
  precedes : (contents l.delivered).filter (!·.isEmpty) <+: told

/-- What has been reported in one direction has been taken, and what has arrived has been
reported. -/
theorem crosses_of_level {l : Leg} {d : Direction} {told : List (Teller × Note)}
    (level : l.Level (shownByRelay d told)) : Crosses l (reported d told) where
  delivers := level.delivered
  reports := by
    have same : reported d told = (contents l.taken).filter (!·.isEmpty) := by
      rw [reported, level.captured]
    exact same ▸ List.prefix_refl _
  precedes := level.delivered_captured.filter _

namespace Ensemble

variable [ByteStream σ] [ByteStream τ] {c : Context} {e : Ensemble σ τ}

/-- **Whatever happens to a connection, what crosses it in one direction is in order, and over when
the relay has returned**: the data messages that have arrived are a first part of those that have
been taken, the reported payloads lie between the two, neither pump takes another step once the
dialogue has gone on behind the relay, and no payload is shown or counted behind the end of the
connection. -/
theorem crosses_of_run {panic : Option Nat} {bufferSize : Nat} {stream : σ}
    {cues : List (Cue σ τ)}
    (ran : (start bufferSize stream (attendCaught panic c)).run c cues = some e) :
    (∀ r d, e.relay = some r → Crosses (r.leg d) (reported d e.told)) ∧
      (∀ r, e.relay = some r → ¬ e.Relaying →
        ∀ d event, e.step c (.relay (.leg d (.pump event))) = none) ∧
      ∀ before teller micros behind,
        e.told = before ++ (teller, Note.hook (.ended micros)) :: behind →
          ∀ x ∈ behind, x.2.isTraffic = false := by
  obtain ⟨p, conducted⟩ := conducted_of_run (follows_attendCaught panic c) ran
  have level : e.Level := run_keeps level_step ran (level_start ..)
  refine ⟨fun r d here => crosses_of_level (level.legs r here d), ?_, ?_⟩
  · intro r here gone d event
    have returns := (conducted.returned r here).resolve_left gone
    rw [step, here]
    change (r.step _).bind _ = none
    rw [Relay.pump_of_result (conducted.sound r here) returns d event]
    rfl
  · intro before teller micros behind split x member
    have heard := conducted.heard
    rw [split, List.map_append, List.map_cons, Phase.after_append] at heard
    obtain ⟨q, _, heard⟩ := Option.bind_eq_some_iff.mp heard
    rw [Phase.after, List.foldlM_cons] at heard
    obtain ⟨last, may, heard⟩ := Option.bind_eq_some_iff.mp heard
    exact Phase.still_of_isLast (Phase.isLast_of_ended may) heard x.2
      (List.mem_map_of_mem member)

/-- The client's text arrives, then it closes; the host's message has been reported when the other
direction ends the relay, and never arrives. -/
theorem crosses_of_run_cut_off :
    let key := Bytes.ascii "AAAAAAAAAAAAAAAAAAAAAA=="
    let head := Bytes.ascii "GET /ws HTTP/1.1\r\nHost: h\r\nUpgrade: websocket\r\n" ++
      Bytes.ascii "Connection: Upgrade\r\nSec-WebSocket-Key: AAAAAAAAAAAAAAAAAAAAAA==\r\n\r\n"
    let request : UpgradeRequest :=
      ⟨⟨some (Bytes.ascii "ws"), Bytes.ascii "h", Bytes.ascii "/ws"⟩,
        ⟨[⟨Bytes.ascii "host", [Bytes.ascii "h"]⟩,
          ⟨Bytes.ascii "connection", [Bytes.ascii "Upgrade"]⟩,
          ⟨Bytes.ascii "upgrade", [Bytes.ascii "websocket"]⟩,
          ⟨Bytes.ascii "sec-websocket-version", [Bytes.ascii "13"]⟩,
          ⟨Bytes.ascii "sec-websocket-key", [key]⟩,
          ⟨Bytes.ascii "origin", [Bytes.ascii "http://h"]⟩]⟩⟩
    let c : Context := ⟨{ loggingEnabled := false }, ⟨1, "127.0.0.1:50000"⟩⟩
    let first : Ensemble Peered Peered :=
      start 256 ((Peered.fresh 256 head).sends 256) (attendCaught none c)
    let go : Cue Peered Peered := .dialogue .go
    let pumps (d : Direction) (event : PumpEvent) : Cue Peered Peered :=
      .relay (.leg d (.pump event))
    let cues : List (Cue Peered Peered) :=
      [go, go, go, go, go, .dialogue (.answer ⟨.freshKey, key⟩),
        .dialogue (.answer ⟨.upgrade request, .accepted none⟩), go, go, .begin,
        pumps .outbound (.took (.message (.text (Bytes.ascii "hi")))),
        pumps .inbound (.took (.message (.binary (Bytes.ascii "yo")))),
        .relay (.leg .outbound .arrived), pumps .outbound (.gave none),
        pumps .outbound (.took (.message (.close none))), pumps .outbound (.gave none),
        pumps .outbound .closed, .relay (.noticed .outbound), .relay (.leg .inbound .stopped),
        .resume, go, .dialogue (.answer ⟨.elapsed, (5 : Nat)⟩), go, go]
    ∃ e r, first.run c cues = some e ∧ e.relay = some r ∧
      dataMessages r.outbound.delivered = [.text (Bytes.ascii "hi")] ∧
      r.inbound.delivered = [] ∧ Crosses r.inbound [Bytes.ascii "yo"] ∧
      e.step c (pumps .inbound (.gave none)) = none := by
  intro key head request c first go pumps cues
  have goes : (first.run c cues).any fun e =>
      e.relay.any (fun r =>
        dataMessages r.outbound.delivered == [.text (Bytes.ascii "hi")] &&
          r.inbound.delivered == []) &&
        reported .inbound e.told == [Bytes.ascii "yo"] && e.standing.rest.ended?.isSome := by
    decide +kernel
  obtain ⟨e, ran, came⟩ := (Option.any_eq_true _ _).mp goes
  simp only [Bool.and_eq_true, beq_iff_eq, Option.any_eq_true] at came
  obtain ⟨⟨⟨r, here, hi, none⟩, yo⟩, atEnd⟩ := came
  obtain ⟨o, ended⟩ := Option.isSome_iff_exists.mp atEnd
  have gone : ¬ e.Relaying := by
    rintro ⟨ahead, next, asked⟩
    rw [asked] at ended
    cases ended
  obtain ⟨crosses, still, _⟩ := crosses_of_run ran
  exact ⟨e, r, ran, here, hi, none, yo ▸ crosses r .inbound here,
    still r here gone .inbound (.gave Option.none)⟩

end Ensemble

end Wiretap.Session
