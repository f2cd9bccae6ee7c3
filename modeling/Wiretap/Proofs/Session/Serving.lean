import Wiretap.Proofs.Session.Answers
import Wiretap.Proofs.Session.Runs
import Wiretap.Proofs.Transport.Peered

/-!
# A client is answered at most once

Whatever the client sends, however it arrives, and whatever happens at the other host, serving it
keeps to one answer: each processor is taken through its questions, from a client that has been
given nothing to one that has been answered (`Serves`).  So while a client is dispatched it has been
given the beginning of an answer, and the dispatch ends well only when the response, or the head of
the tunnel, has been passed on (`dispatch_answers_once`).

Writes to the client are supposed not to fail, and the fields of another host's response to be
fields.
-/

namespace Wiretap.Session

set_option autoImplicit false

open Message (Fields IsTunnelHead RequestHead)
open Transport (ByteStream LawfulStream Peered traffic)

variable {l l' : Ledger} {past : List Answered} {given : Bytes}

/-- A task that serves a client that has been given nothing. -/
abbrev Serves (t : Task Unit) (l : Ledger) (past : List Answered) : Prop :=
  Task.Obeys answering (fun _ => Served) (fun _ => Broken) t l past

section

variable {α : Type} {failed : Fault → Ledger → List Answered → Prop}

theorem obeys_quiet {q : Question} {done : q.Answer → Ledger → List Answered → Prop}
    (stage : Stage given l past) (isAnswer : ∀ came, Answers came given) (quiet : q.isQuiet)
    (next : ∀ a l', answering.allows ⟨q, a⟩ → Stage given l' (⟨q, a⟩ :: past) →
      done a l' (⟨q, a⟩ :: past)) :
    Task.Obeys answering done failed (ask q) l past :=
  Task.obeys_ask.mpr ⟨asks_quiet stage isAnswer quiet, fun a l' allowed settles =>
    next a l' allowed (stage.quiet quiet allowed.1 settles)⟩

theorem obeys_reply {done : Unit → Ledger → List Answered → Prop} {response : Bytes}
    (stage : Stage [] l past) (isAnswer : ∀ came, Answers came response)
    (next : ∀ l' past', Stage response l' past' → done () l' past') :
    Task.Obeys answering done failed (reply response) l past := by
  rw [reply, Task.obeys_bind, Task.obeys_ask]
  refine ⟨asks_writing stage isAnswer rfl fun _ => And.left, fun a l' allowed settles => ?_⟩
  obtain rfl := Answered.reply_of_isDelivered allowed.1
  rw [Task.obeys_get]
  exact next _ _ (stage.writes settles.1 settles.2 rfl)

theorem serves_replyText (stage : Stage [] l past) (status : Message.Status) (body : Bytes) :
    Serves (replyText status body) l past :=
  obeys_reply stage (fun _ => .response (Message.isResponse_plainText status body))
    fun _ _ stage => stage.served (Message.isResponse_plainText status body)

/-! ## Serving a client -/

/-- A step that may fail before anything has been written. -/
theorem obeys_got {done : α → Ledger → List Answered → Prop} {r : Except Fault α}
    (stage : Stage [] l past) (next : ∀ a, r = .ok a → done a l past) :
    Task.Obeys answering done (fun _ => Broken) (get r) l past := by
  rw [Task.obeys_get]
  cases r with
  | ok a => exact next a rfl
  | error f => exact stage.broken .nothing

theorem serves_refuseGreeting (c : Context) (stage : Stage [] l past) :
    Serves (refuseGreeting c) l past := by
  rw [Serves, refuseGreeting, Task.obeys_bind]
  refine obeys_quiet stage (fun _ => .nothing) rfl fun a l _ stage => ?_
  rw [Task.obeys_bind]
  refine obeys_got stage fun methods _ => ?_
  rw [Task.obeys_bind, Task.obeys_tell, Task.obeys_bind, Task.obeys_ask]
  refine ⟨asks_writing stage (fun _ => .refusal) rfl fun _ => And.left,
    fun a l' allowed settles => ?_⟩
  obtain rfl := Answered.refusal_of_isDelivered allowed.1
  have stage : Stage noMethod l' (⟨.refusal noMethod, .ok ()⟩ :: _) :=
    stage.writes settles.1 settles.2 rfl
  rw [Task.obeys_bind, Task.obeys_get, Except.mapError, Task.obeys_throw]
  exact stage.broken .refusal

/-! ### Tunnels -/

/-- A tunnel that is carried has been completed when it ends, however it does. -/
theorem Stage.carried {head : Bytes} {carried : Carried} (stage : Stage head l past)
    (isHead : IsTunnelHead head) (settles : Settles .carry carried l l') :
    Served l' (⟨.carry, carried⟩ :: past) := by
  obtain ⟨outbound, inbound, carries, _, _, closed⟩ := settles
  obtain ⟨brought, written, through⟩ := carries.brings stage.fromFar
  rw [stage.written] at written
  refine ⟨.inr ⟨head, brought, isHead, through, written, stage.passed.trans carries.passed, ?_⟩,
    stage.read⟩
  rintro c ⟨⟩ unbroken
  exact carries.flushed (closed unbroken).2

/-- What follows once everything that was sent ahead has been passed on. -/
theorem serves_carry (c : Context) (message : String) (ahead : Bytes)
    (stage : Stage Message.Reply.tunnelOpen l past) :
    Serves (do c.report .info message; tunnelEnded c ahead (← ask .carry)) l past := by
  rw [Serves, Task.obeys_bind, Task.obeys_report, Task.obeys_bind, Task.obeys_ask]
  refine ⟨asks_carry stage (.inl rfl), fun carried l' _ settles => ?_⟩
  exact (obeys_tunnelEnded c ahead carried).mpr (stage.carried (.inl rfl) settles)

theorem serves_tunnelConnected (c : Context) (target : Bytes) (stage : Stage [] l past) :
    Serves (tunnelConnected c target) l past := by
  have isAnswer (came : Bytes) : Answers came Message.Reply.tunnelOpen := .head (.inl rfl)
  rw [Serves, tunnelConnected, Task.obeys_bind]
  refine obeys_reply stage isAnswer fun l past stage => ?_
  rw [Task.obeys_bind]
  refine obeys_quiet stage isAnswer rfl fun a l allowed stage => ?_
  obtain ⟨ahead, rfl⟩ := Answered.detach_of_isDelivered allowed.1
  rw [Task.obeys_bind, Task.obeys_get, Except.mapError]
  dsimp only
  split
  · exact serves_carry c _ ahead stage
  · rw [Task.obeys_bind]
    refine obeys_quiet stage isAnswer rfl fun a l _ stage => ?_
    rw [Task.obeys_bind, Task.obeys_get]
    cases a with
    | ok => exact serves_carry c _ ahead stage
    | error => exact stage.broken (isAnswer [])

theorem serves_tunnelFailed (c : Context) (target : Bytes) (f : Fault) (stage : Stage [] l past) :
    Serves (tunnelFailed c target f) l past := by
  rw [Serves, tunnelFailed, Task.obeys_bind, Task.obeys_report, Task.obeys_bind, Task.obeys_tell]
  exact serves_replyText stage _ _

theorem serves_tunnel (c : Context) (h : RequestHead) (stage : Stage [] l past) :
    Serves (tunnel c h) l past := by
  rw [Serves, tunnel, Task.obeys_bind]
  refine obeys_quiet stage (fun _ => .nothing) rfl fun a l _ stage => ?_
  cases a with
  | got => exact serves_tunnelConnected c h.host stage
  | failed | expired => exact serves_tunnelFailed c h.host _ stage

/-! ### Forwarded requests -/

theorem serves_forwardFailed (c : Context) (message : String) (stage : Stage [] l past) :
    Serves (forwardFailed c message) l past := by
  rw [Serves, forwardFailed, Task.obeys_bind, Task.obeys_report, Task.obeys_bind, Task.obeys_tell]
  exact serves_replyText stage _ _

theorem serves_forwardExpired (stage : Stage [] l past) : Serves forwardExpired l past := by
  rw [Serves, forwardExpired, Task.obeys_bind, Task.obeys_tell]
  exact serves_replyText stage _ _

theorem serves_passBack (c : Context) (h : RequestHead) {response : ResponseHead}
    (proper : response.fields.areFields) (body : Bytes) (stage : Stage [] l past) :
    Serves (passBack c h response body) l past := by
  have isResponse := Message.isResponse_head
    (Fields.areFields_keep proper fun name => !Message.hopNames.contains name) response.status body
  rw [Serves, passBack, Task.obeys_bind, Task.obeys_tell, Task.obeys_bind, Task.obeys_tell,
    Task.obeys_bind]
  refine obeys_reply stage (fun _ => .response isResponse) fun l past stage => ?_
  rw [Task.obeys_report]
  exact stage.served isResponse

theorem serves_receive (c : Context) (h : RequestHead) {response : ResponseHead}
    (proper : response.fields.areFields) (stage : Stage [] l past) :
    Serves (receive c h response) l past := by
  rw [Serves, receive, Task.obeys_bind]
  refine obeys_quiet stage (fun _ => .nothing) rfl fun a l _ stage => ?_
  cases a with
  | got body => exact serves_passBack c h proper body stage
  | failed why => exact serves_forwardFailed c _ stage
  | expired => exact serves_forwardExpired stage

theorem serves_passOn (c : Context) (h : RequestHead) (uri : Message.Uri) (body : Bytes)
    (stage : Stage [] l past) : Serves (passOn c h uri body) l past := by
  rw [Serves, passOn, Task.obeys_bind, Task.obeys_tell, Task.obeys_bind, Task.obeys_tell,
    Task.obeys_bind, Task.obeys_report, Task.obeys_bind]
  refine obeys_quiet stage (fun _ => .nothing) rfl fun a l allowed stage => ?_
  cases a with
  | got response => exact serves_receive c h allowed.2 stage
  | failed why => exact serves_forwardFailed c _ stage
  | expired =>
    dsimp only
    rw [Task.obeys_bind, Task.obeys_report]
    exact serves_forwardExpired stage

/-- A client whose body cannot be read is given nothing. -/
theorem Stage.bodyFailed {taken : Bytes} (stage : Stage [] l past)
    (moves : l.Moves l' { taken }) : ∀ past', Broken l' past' := by
  have written : l'.written = [] := by
    rw [moves.written, stage.written]
    rfl
  exact fun past' => ⟨written ▸ .nothing, fun _ => written⟩

theorem serves_forward (c : Context) (h : RequestHead) (stage : Stage [] l past) :
    Serves (forward c h) l past := by
  rw [Serves, forward]
  split
  · exact serves_replyText stage _ _
  · next p _ =>
    rw [Task.obeys_bind, Task.obeys_ask]
    refine ⟨asks_body stage p.length, fun a l' _ settles => ?_⟩
    rw [Task.obeys_bind, Task.obeys_get]
    cases a with
    | got body => exact serves_passOn c h p.uri body (stage.moves settles.2 rfl rfl)
    | failed | expired =>
      obtain ⟨_, moves⟩ := settles
      exact stage.bodyFailed moves _

/-! ### Upgraded connections -/

theorem obeys_dialUpgrade {done : Except Fault (Option Bytes) → Ledger → List Answered → Prop}
    {h : WebSocket.Handshake} (stage : Stage [] l past)
    (next : ∀ a l' past', Stage [] l' past' → done a l' past') :
    Task.Obeys answering done (fun _ => Broken) (dialUpgrade h) l past := by
  have keeps (q : Question) (remote : q.isRemote) : answering.Keeps (Stage []) q :=
    keeps_quiet (fun _ => .nothing) (Question.isQuiet_of_isRemote remote)
  exact (Task.obeys_of_asks (asks_dialUpgrade rfl (fun _ => rfl) h) keeps stage).mono next
    fun _ _ _ stage => stage.broken .nothing

theorem serves_upgradeRefused (c : Context) (h : WebSocket.Handshake) (f : Fault)
    (stage : Stage [] l past) : Serves (upgradeRefused c h f) l past := by
  rw [Serves, upgradeRefused, Task.obeys_bind, Task.obeys_report, Task.obeys_bind,
    Task.obeys_tell, Task.obeys_bind, Task.obeys_tell]
  exact serves_replyText stage _ _

/-- A relay has been completed when it ends, however it does. -/
theorem Stage.relayed {head ahead : Bytes} {relayed : WebSocket.Relayed}
    (stage : Stage head l past) (isHead : IsTunnelHead head)
    (settles : Settles (.relay ahead) relayed l l') :
    Served l' (⟨.relay ahead, relayed⟩ :: past) := by
  obtain ⟨outbound, inbound, left, carries⟩ := settles
  obtain ⟨brought, written, through⟩ := carries.brings stage.fromFar
  change l'.written = l.written ++ brought at written
  rw [stage.written] at written
  exact ⟨.inr ⟨head, brought, isHead, through, written, stage.passed.trans carries.passed, nofun⟩,
    stage.read⟩

theorem serves_upgradeAccepted (c : Context) (h : WebSocket.Handshake) (key : Bytes)
    (protocol : Option Bytes) (stage : Stage [] l past) :
    Serves (upgradeAccepted c h key protocol) l past := by
  have isHead := isTunnelHead_switching key protocol
  rw [Serves, upgradeAccepted, Task.obeys_bind]
  refine obeys_quiet stage (fun _ => .nothing) rfl fun a l allowed stage => ?_
  obtain ⟨ahead, rfl⟩ := Answered.detach_of_isDelivered allowed.1
  rw [Task.obeys_bind, Task.obeys_get, Except.mapError]
  dsimp only
  rw [Task.obeys_bind, Task.obeys_ask]
  refine ⟨asks_writing stage (fun _ => .head isHead) rfl fun _ => And.left,
    fun a l' allowed settles => ?_⟩
  obtain rfl := Answered.rawReply_of_isDelivered allowed.1
  have stage : Stage (switching key protocol) l'
      (⟨.rawReply (switching key protocol), .got ()⟩ :: _) :=
    stage.writes settles.1 settles.2 rfl
  rw [Task.obeys_bind, Task.obeys_get]
  dsimp only [Reading.result]
  rw [Task.obeys_bind, Task.obeys_report, obeys_relayMessages, Task.obeys_ask]
  exact ⟨asks_relay stage isHead, fun _ _ _ => stage.relayed isHead⟩

theorem serves_upgrade (c : Context) (h : RequestHead) (stage : Stage [] l past) :
    Serves (upgrade c h) l past := by
  rw [Serves, upgrade, Task.obeys_bind, Task.obeys_report]
  split
  · exact serves_replyText stage _ _
  · next key _ =>
    dsimp only
    rw [Task.obeys_bind]
    refine obeys_dialUpgrade stage fun a l past stage => ?_
    cases a with
    | error f => exact serves_upgradeRefused c _ f stage
    | ok protocol => exact serves_upgradeAccepted c _ key protocol stage

/-! ## Dispatch -/

theorem serves_serveRequest (c : Context) (h : RequestHead) (stage : Stage [] l past) :
    Serves (serveRequest c h) l past := by
  rw [serveRequest]
  split
  · exact serves_upgrade c h stage
  · split
    · exact serves_tunnel c h stage
    · exact serves_forward c h stage

/-- Looking at the first bytes of a connection gives the client nothing. -/
theorem stage_sniff (stage : Stage [] l past) :
    Task.Obeys answering (fun _ => Stage []) (fun _ => Stage []) sniff l past :=
  Task.obeys_of_asks (asks_sniff rfl rfl) (fun _ => keeps_quiet fun _ => .nothing) stage

/-- What is known when a dispatch has ended. -/
structure Concluded (o : Outcome) (l : Ledger) (past : List Answered) : Prop where
  answers : Answers l.fromFar l.written
  completed : o.fault = none → o.protocol = none ∧ l.written = [] ∨ Completed l past
  sniffed : o.protocol = none → ∀ f, o.fault = some f → isUnreadable f = false → l.written = []
  unread : past.any Answered.isBodyFailure → l.written = []

theorem Stage.concluded {f : Fault} (stage : Stage [] l past) :
    Concluded ⟨none, some f⟩ l past where
  answers := (stage.broken .nothing).answers
  completed := nofun
  sniffed _ _ _ _ := stage.written
  unread _ := stage.written

theorem Served.concluded {p : Protocol} (served : Served l past) :
    Concluded ⟨some p, none⟩ l past where
  answers := served.completed.answers
  completed _ := .inr served.completed
  sniffed := nofun
  unread failed := by
    rw [served.read] at failed
    cases failed

theorem Broken.concluded {p : Protocol} {f : Fault} (broken : Broken l past) :
    Concluded ⟨some p, some f⟩ l past where
  answers := broken.answers
  completed := nofun
  sniffed := nofun
  unread := broken.unread

theorem obeys_serveOpening (c : Context) (o : Opening) (stage : Stage [] l past) :
    (serveOpening c o).Obeys answering Concluded l past := by
  rw [serveOpening]
  split
  · rw [Dialogue.obeys_bind, Dialogue.obeys_note, Dialogue.obeys_pure]
    exact ⟨(stage.broken .nothing).answers, fun _ => .inl ⟨rfl, stage.written⟩, nofun,
      fun _ => stage.written⟩
  · next p protocol =>
    rw [Dialogue.obeys_bind, Context.obeys_announce, Dialogue.obeys_bind, Task.obeys_run]
    have serves : Serves (serve c o) l past := by
      cases o with
      | nothing => cases protocol
      | greeting => exact serves_refuseGreeting c stage
      | request h => exact serves_serveRequest c h stage
    exact serves.mono (fun _ _ _ served => served.concluded) fun _ _ _ broken => broken.concluded

theorem obeys_rejectUnreadable {done : Except Fault Unit → Ledger → List Answered → Prop}
    (stage : Stage [] l past) (next : ∀ r l' past', Stage unreadable l' past' → done r l' past') :
    rejectUnreadable.run.Obeys answering done l past := by
  have isAnswer (came : Bytes) : Answers came unreadable :=
    .response (Message.isResponse_plainText _ _)
  rw [Task.obeys_run, rejectUnreadable, Task.obeys_bind, Task.obeys_ask]
  refine ⟨asks_writing stage isAnswer rfl fun _ => And.left, fun a l' allowed settles => ?_⟩
  obtain rfl := Answered.reply_of_isDelivered allowed.1
  exact Task.obeys_pure.mpr (next _ _ _ (stage.writes settles.1 settles.2 rfl))

theorem obeys_dispatch (c : Context) (stage : Stage [] l past) :
    (dispatch c).Obeys answering Concluded l past := by
  rw [dispatch, Dialogue.obeys_bind, Task.obeys_run]
  refine (stage_sniff stage).mono (fun o l past stage => obeys_serveOpening c o stage)
    fun f l past stage => ?_
  dsimp only
  split
  · next malformed =>
    rw [Dialogue.obeys_bind]
    refine obeys_rejectUnreadable stage fun r l past stage => ?_
    have broken := stage.broken (.response (Message.isResponse_plainText _ _))
    refine ⟨broken.answers, nofun, ?_, broken.unread⟩
    rintro _ _ ⟨⟩ readable
    rw [malformed] at readable
    cases readable
  · exact stage.concluded

end

/-- As long as the rest obeys, the client has been given the beginning of an answer. -/
theorem begun_of_obeys {d : Dialogue Outcome} (obeys : d.Obeys answering Concluded l past) :
    Begun l :=
  obeys.now (fun _ concluded => begun_of_whole concluded.answers rfl) fun _ asked =>
    asked _ _ (underway_start (.refl l))

theorem Begun.rests (begun : Begun l) (rests : l.Rests l') : Begun l' := by
  obtain ⟨answer, answers, isPrefix⟩ := begun
  refine ⟨answer, ?_, ?_⟩
  · rwa [rests.fromFar]
  · rwa [rests.written, List.append_nil]

theorem Completed.rests (completed : Completed l past) (rests : l.Rests l') :
    Completed l' past := by
  have written : l'.written = l.written := rests.written.trans (List.append_nil _)
  rw [Completed, written, rests.fromFar]
  obtain ⟨isResponse, passed⟩ | ⟨head, carried, isHead, through, whole, passed, closed⟩ := completed
  · exact .inl ⟨isResponse, passed.trans rests.passed⟩
  · exact .inr ⟨head, carried, isHead, through, whole, passed.trans rests.passed,
      fun c last unbroken => (closed c last unbroken).trans rests.passed⟩

theorem Concluded.rests {o : Outcome} (concluded : Concluded o l past) (rests : l.Rests l') :
    Concluded o l' past := by
  have written : l'.written = l.written := rests.written.trans (List.append_nil _)
  obtain ⟨answers, completed, sniffed, unread⟩ := concluded
  refine ⟨?_, fun well => ?_, ?_, ?_⟩
  · rwa [written, rests.fromFar]
  · rw [written]
    exact (completed well).imp id fun completed => completed.rests rests
  · rwa [written]
  · rwa [written]

/-- The value that a dialogue has ended with. -/
def Dialogue.ended? {α : Type} : Dialogue α → Option α
  | .finish a => some a
  | _ => none

theorem Dialogue.eq_finish_of_ended? {α : Type} {d : Dialogue α} {a : α}
    (ended : d.ended? = some a) : d = .finish a := by
  cases d with
  | finish => cases ended; rfl
  | tell | ask => cases ended

/-- **A client is answered at most once.**  While a client is dispatched it has been given the
beginning of an answer.  When the dispatch has ended it has been given an answer; if it ended well,
the client had sent nothing, or the answer has been passed on; and if looking at the first bytes
failed, other than for a request that cannot be read, or the body of the request could not be read,
the client has been given nothing. -/
theorem dispatch_answers_once {σ τ : Type} [ByteStream σ] [ByteStream τ] [LawfulStream σ]
    [LawfulStream τ] {bufferSize : Nat} {stream : σ} (fresh : (traffic stream).given = [])
    {c : Context} {moves : List (Move σ τ)} {s : Standing σ τ Outcome}
    (ran : (Standing.start bufferSize stream (dispatch c)).run moves = some s)
    (delivered : ∀ x ∈ s.past, x.isDelivered) (wellFormed : ∀ x ∈ s.past, x.isWellFormed) :
    Begun s.post.ledger ∧ ∀ o, s.rest = .finish o → Concluded o s.post.ledger s.past := by
  have stage : Stage [] (.opening bufferSize (traffic stream)) [] :=
    ⟨fresh, List.nil_prefix, rfl, rfl⟩
  obtain ⟨l, proper, obeys, stands⟩ :=
    Standing.accounts_run (Standing.accounts_start (obeys_dispatch c stage)) ran fun x member =>
      ⟨delivered x member, wellFormed x member⟩
  rw [Standing.Stands] at stands
  refine ⟨?_, fun o ended => ?_⟩
  · split at stands
    · next q next asked =>
      rw [asked] at obeys
      exact obeys.1 _ _ stands.1
    · exact (begun_of_obeys obeys).rests stands
  · rw [ended] at stands obeys
    exact Concluded.rests obeys stands

/-- A request that arrives in two pieces and is passed on: its client is given one response. -/
theorem dispatch_answers_forwarded :
    let request := Bytes.ascii "GET /a HTTP/1.1\r\nHost: h\r\n\r\n"
    let client := Peered.fresh 128 request
    let begun : Peered := { Peered.fresh 128 (request.drop 9) with taken := request.take 9 }
    let asked : Forwarded :=
      ⟨Bytes.ascii "GET", ⟨some Message.Uri.http, Bytes.ascii "h", Bytes.ascii "/a"⟩,
        ⟨[⟨Bytes.ascii "host", [Bytes.ascii "h"]⟩]⟩, []⟩
    let head : ResponseHead := ⟨⟨200, by decide⟩, ⟨[⟨Bytes.ascii "age", [Bytes.ascii "1"]⟩]⟩⟩
    let moves : List (Move Peered Peered) :=
      [.go, .client (client.sends 9), .go, .go, .client (begun.sends 64), .go, .go, .go, .go, .go,
        .go, .answer ⟨.exchange asked, .got head⟩,
        .answer ⟨.responseBody, .got (Bytes.ascii "hello")⟩, .go, .go, .go, .go]
    let c : Context := ⟨{}, ⟨1, "127.0.0.1:50000"⟩⟩
    ∃ s, (Standing.start 8 client (dispatch c)).run moves = some s ∧ (traffic client).given = [] ∧
      (∀ x ∈ s.past, x.isDelivered) ∧ (∀ x ∈ s.past, x.isWellFormed) ∧
      s.rest.ended? = some ⟨some .http, none⟩ ∧
      Concluded ⟨some .http, none⟩ s.post.ledger s.past := by
  intro request client begun asked head moves c
  have goes : ((Standing.start 8 client (dispatch c)).run moves).any fun s =>
      s.past.all Answered.isDelivered && s.past.all Answered.isWellFormed &&
        s.rest.ended? == some ⟨some .http, none⟩ := by decide +kernel
  obtain ⟨s, ran, ended⟩ := (Option.any_eq_true _ _).mp goes
  simp only [Bool.and_eq_true, List.all_eq_true, beq_iff_eq] at ended
  obtain ⟨⟨delivered, wellFormed⟩, ended⟩ := ended
  exact ⟨s, ran, rfl, delivered, wellFormed, ended,
    (dispatch_answers_once rfl ran delivered wellFormed).2 _ (Dialogue.eq_finish_of_ended? ended)⟩

end Wiretap.Session
