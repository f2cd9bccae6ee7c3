import Wiretap.Proofs.Message.HeadLines
import Wiretap.Proofs.Session.Questions
import Wiretap.Proofs.Session.Runs
import Wiretap.Proofs.Transport.Peered

/-!
# A tunnel hands over every byte

What a client sends behind its request head may lie in the buffer of the connection when its stream
is handed over, in the stream, or not have been sent yet.  Wherever it is cut, the far side of a
tunnel is given these bytes from the first one on and in order, none lost, doubled or taken from the
head, and all of them once the client's half of the tunnel has come to its end; a client whose
tunnel has been opened is given the bytes of the other host likewise (`dispatch_hands_over`).

While the tunnel is open the three places are accounted for: what has been given to the far side,
what the tunnel holds, and what is still to be read are the client's text (`HandsOver`).
-/

namespace Wiretap.Session

set_option autoImplicit false

open Message (IsHead Reply.tunnelOpen RequestHead cutLines_head)
open Transport (ByteStream Copy LawfulStream Peered traffic)

/-! ## What a tunnel has handed over -/

/-- What the far side has been given of a text, what the direction to it holds, and what is still to
be read, one behind the other. -/
structure HandsOver (text : Bytes) (outbound : Copy) (l : Ledger) : Prop where
  order : l.toFar ++ outbound.held ++ l.unread = text
  whole : outbound.ended → outbound.held = [] → l.toFar = text

/-- What the client has been given behind the head that opens the tunnel, and what the direction to
it holds, is what has been taken from the far side. -/
structure GivesBack (inbound : Copy) (l : Ledger) : Prop where
  order : ∃ back, l.written = Reply.tunnelOpen ++ back ∧ back ++ inbound.held = l.fromFar
  whole : inbound.ended → inbound.held = [] →
    l.written = Reply.tunnelOpen ++ l.fromFar ∧ l.farLeft = []

/-- The far side has been given the beginning of a text, and all of it if a tunnel that was carried
last has come to its end at both sides. -/
structure HandedOver (text : Bytes) (l : Ledger) (past : List Answered) : Prop where
  begins : l.toFar <+: text
  carried : ∀ c : Carried, past.head? = some ⟨.carry, c⟩ →
    ∃ outbound inbound, HandsOver text outbound l ∧ GivesBack inbound l ∧
      (c.fault = none →
        l.toFar = text ∧ l.written = Reply.tunnelOpen ++ l.fromFar ∧ l.farLeft = [])

variable {text : Bytes} {l l' : Ledger} {past : List Answered}

theorem HandsOver.begins {outbound : Copy} (handsOver : HandsOver text outbound l) :
    l.toFar <+: text := by
  rw [← handsOver.order, List.append_assoc]
  exact List.prefix_append _ _

/-- A tunnel whose bytes sent ahead go first hands over what was ahead and what is behind that. -/
theorem Carries.handsOver {ahead : Bytes} {outbound inbound : Copy}
    (carries : Carries ahead outbound inbound l l') (here : l.toFar ++ (ahead ++ l.unread) = text) :
    HandsOver text outbound l' := by
  obtain ⟨piece, toFar, _, order⟩ := carries.out.moved
  have whole : l'.toFar ++ outbound.held ++ l'.unread = text := by
    rw [← here, order, toFar]
    simp only [List.append_assoc]
  refine ⟨whole, fun ended empty => ?_⟩
  rwa [carries.out.ended ended, empty, List.append_nil, List.append_nil] at whole

/-- What a tunnel gives back has come from the far side. -/
theorem Carries.givesBack {ahead : Bytes} {outbound inbound : Copy}
    (carries : Carries ahead outbound inbound l l') (opened : l.written = Reply.tunnelOpen)
    (none : l.fromFar = []) : GivesBack inbound l' := by
  obtain ⟨back, written, _, order⟩ := carries.back.moved
  rw [opened] at written
  have taken : back ++ inbound.held = l'.fromFar := by
    have all := carries.fromFar
    rw [none, order, List.nil_append] at all
    exact (List.append_cancel_right all).symm
  refine ⟨⟨back, written, taken⟩, fun ended empty => ?_⟩
  rw [empty, List.append_nil] at taken
  exact ⟨taken ▸ written, carries.back.ended ended⟩

/-! ## When a tunnel may be asked for -/

/-- No tunnel has been carried last. -/
def Uncarried (past : List Answered) : Prop := ∀ c : Carried, past.head? ≠ some ⟨.carry, c⟩

theorem uncarried_cons {q : Question} {a : q.Answer} (other : q ≠ .carry) :
    Uncarried (⟨q, a⟩ :: past) := by
  rintro c ⟨⟩
  exact other rfl

/-- A question that gives the far side bytes is asked where these and what is still to be read come
to the whole text; at any other question the far side has been given nothing. -/
def handing (text : Bytes) : Rule where
  asks q l past := Uncarried past ∧ match q with
    | .sendAhead ahead => l.toFar ++ (ahead ++ l.unread) = text
    | .relay ahead => l.toFar ++ (ahead ++ l.unread) = text
    | .carry => l.toFar ++ l.unread = text ∧ l.written = Reply.tunnelOpen ∧ l.fromFar = []
    | .close => False
    | _ => l.toFar = []
  allows _ := True

/-- The far side has been given nothing. -/
structure Idle (l : Ledger) (past : List Answered) : Prop where
  toFar : l.toFar = []
  uncarried : Uncarried past

/-- The far side has been given nothing and has given nothing, the client has been given some bytes,
and what was read ahead and what is still to be read come to the whole text. -/
structure Poised (text ahead written : Bytes) (l : Ledger) (past : List Answered) : Prop extends
    Idle l past where
  whole : ahead ++ l.unread = text
  written : l.written = written
  fromFar : l.fromFar = []

theorem Idle.handedOver (idle : Idle l past) : HandedOver text l past where
  begins := idle.toFar ▸ List.nil_prefix
  carried c last := absurd last (idle.uncarried c)

theorem Idle.moves {h : Haul} {q : Question} {a : q.Answer} (idle : Idle l past)
    (moves : l.Moves l' h) (unsent : h.sent = []) (other : q ≠ .carry) :
    Idle l' (⟨q, a⟩ :: past) where
  toFar := by rw [moves.toFar, idle.toFar, unsent, List.append_nil]
  uncarried := uncarried_cons other

theorem Poised.rests {ahead written : Bytes} {q : Question} {a : q.Answer}
    (poised : Poised text ahead written l past) (rests : l.Rests l') (other : q ≠ .carry) :
    Poised text ahead written l' (⟨q, a⟩ :: past) where
  toIdle := poised.toIdle.moves rests rfl other
  whole := by
    rw [← poised.whole, rests.unread]
    rfl
  written := rests.written.trans (by rw [List.append_nil, poised.written])
  fromFar := rests.fromFar.trans poised.fromFar

/-- What is written is what the client has been given next. -/
theorem Poised.writes {ahead response : Bytes} {q : Question} {a : q.Answer}
    (poised : Poised text ahead [] l past) (moves : l.Moves l' { given := response })
    (other : q ≠ .carry) : Poised text ahead response l' (⟨q, a⟩ :: past) where
  toIdle := poised.toIdle.moves moves rfl other
  whole := by
    rw [← poised.whole, moves.unread]
    rfl
  written := by rw [moves.written, poised.written, List.nil_append]
  fromFar := moves.fromFar.trans poised.fromFar

/-- An aloof question gives the far side nothing. -/
theorem Idle.aloof {q : Question} {a : q.Answer} (idle : Idle l past) (aloof : q.isAloof)
    (settles : Settles q a l l') : Idle l' (⟨q, a⟩ :: past) := by
  have unmoved (plain : Answered.isPlain ⟨q, a⟩) : Idle l' (⟨q, a⟩ :: past) := by
    obtain ⟨h, admits, moves⟩ := settles_moves plain settles
    refine idle.moves moves (Question.unsent aloof admits) ?_
    rintro rfl
    cases aloof
  cases q with
  | detach =>
    cases a with
    | ok => exact unmoved rfl
    | error => exact ⟨settles.trans idle.toFar, uncarried_cons nofun⟩
  | dial =>
    cases a with
    | got => exact ⟨settles.1, uncarried_cons nofun⟩
    | failed | expired => exact unmoved rfl
  | carry | relay | close => cases aloof
  | _ => exact unmoved rfl

theorem keeps_aloof {q : Question} (aloof : q.isAloof) : (handing text).Keeps Idle q where
  asks l past idle := by
    refine ⟨idle.uncarried, ?_⟩
    cases q with
    | sendAhead | carry | relay | close => cases aloof
    | _ => exact idle.toFar
  stays _ _ _ _ _ idle := idle.aloof aloof

theorem keeps_remote {ahead written : Bytes} {q : Question} (remote : q.isRemote) :
    (handing text).Keeps (Poised text ahead written) q where
  asks l past poised :=
    (keeps_aloof (Question.isAloof_of_isRemote remote)).asks l past poised.toIdle
  stays a l l' past _ poised settles := by
    refine poised.rests (settles_remote remote settles) ?_
    rintro rfl
    cases remote

/-! ## Serving a client -/

/-- A task that serves a client whose text is to be handed over. -/
abbrev Hands (text : Bytes) (t : Task Unit) (l : Ledger) (past : List Answered) : Prop :=
  Task.Obeys (handing text) (fun _ => HandedOver text) (fun _ => HandedOver text) t l past

theorem Idle.hands {t : Task Unit} (idle : Idle l past) (asks : Task.Asks Question.isAloof t) :
    Hands text t l past :=
  (Task.obeys_of_asks asks (fun _ => keeps_aloof) idle).mono (fun _ _ _ idle => idle.handedOver)
    fun _ _ _ idle => idle.handedOver

/-- When the stream is handed over, the bytes read ahead come with it. -/
theorem Poised.obeys_detach {written : Bytes}
    {done : Question.detach.Answer → Ledger → List Answered → Prop}
    {failed : Fault → Ledger → List Answered → Prop} (poised : Poised text [] written l past)
    (ok : ∀ ahead l' past', Poised text ahead written l' past' → done (Except.ok ahead) l' past')
    (error : ∀ e l' past', Idle l' past' → done (Except.error e) l' past') :
    Task.Obeys (handing text) done failed (ask .detach) l past := by
  rw [Task.obeys_ask]
  refine ⟨⟨poised.uncarried, poised.toFar⟩, fun a l' _ settles => ?_⟩
  cases a with
  | ok ahead =>
    obtain ⟨moves, _⟩ := settles
    refine ok ahead _ _ ⟨poised.toIdle.moves moves rfl nofun, ?_, ?_, ?_⟩
    · rw [← poised.whole, moves.unread]
      rfl
    · rw [moves.written, poised.written, List.append_nil]
    · rw [moves.fromFar, poised.fromFar]
  | error e => exact error e _ _ (poised.toIdle.aloof rfl settles)

/-! ### Tunnels -/

/-- What follows once everything that was sent ahead has been passed on. -/
theorem hands_carry (c : Context) (message : String) (ahead : Bytes)
    (may : (handing text).asks .carry l past) :
    Hands text (do c.report .info message; tunnelEnded c ahead (← ask .carry)) l past := by
  rw [Hands, Task.obeys_bind, Task.obeys_report, Task.obeys_bind, Task.obeys_ask]
  refine ⟨may, fun carried l' _ settles => (obeys_tunnelEnded c ahead carried).mpr ?_⟩
  obtain ⟨_, whole, opened, none⟩ := may
  obtain ⟨outbound, inbound, carries, _, _, closed⟩ := settles
  have handsOver := carries.handsOver whole
  have givesBack := carries.givesBack opened none
  refine ⟨handsOver.begins, ?_⟩
  rintro c ⟨⟩
  refine ⟨outbound, inbound, handsOver, givesBack, fun unbroken => ?_⟩
  obtain ⟨out, back⟩ := closed unbroken
  obtain ⟨outEnded, outEmpty⟩ := carries.out.shut out
  obtain ⟨backEnded, backEmpty⟩ := carries.back.shut back
  exact ⟨handsOver.whole outEnded outEmpty, givesBack.whole backEnded backEmpty⟩

theorem Poised.hands_tunnelConnected (c : Context) (target : Bytes)
    (poised : Poised text [] [] l past) : Hands text (tunnelConnected c target) l past := by
  rw [Hands, tunnelConnected, Task.obeys_bind, reply, Task.obeys_bind, Task.obeys_ask]
  refine ⟨⟨poised.uncarried, poised.toFar⟩, fun a l' _ settles => ?_⟩
  rw [Task.obeys_get]
  cases a with
  | failed | expired => exact (poised.toIdle.aloof rfl settles).handedOver
  | got =>
    have opened : Poised text [] Reply.tunnelOpen l' (⟨.reply Reply.tunnelOpen, .got ()⟩ :: past) :=
      poised.writes settles.1 nofun
    dsimp only [Reading.result]
    rw [Task.obeys_bind]
    refine opened.obeys_detach (fun ahead l past poised => ?_) fun e l past idle => ?_
    · rw [Task.obeys_bind, Task.obeys_get, Except.mapError]
      dsimp only
      split
      · next none =>
        rw [List.isEmpty_iff] at none
        refine hands_carry c _ ahead ⟨poised.uncarried, ?_, poised.written, poised.fromFar⟩
        rw [poised.toFar, ← poised.whole, none]
      · rw [Task.obeys_bind, Task.obeys_ask]
        have whole : l.toFar ++ (ahead ++ l.unread) = text := by
          rw [poised.toFar, poised.whole, List.nil_append]
        refine ⟨⟨poised.uncarried, whole⟩, fun a l' _ settles => ?_⟩
        rw [Task.obeys_bind, Task.obeys_get]
        cases a with
        | ok =>
          have moves : l.Moves l' { sent := ahead } := settles
          refine hands_carry c _ ahead ⟨uncarried_cons nofun, ?_, ?_, ?_⟩
          · rw [← whole, moves.toFar, moves.unread]
            exact List.append_assoc ..
          · rw [moves.written, poised.written, List.append_nil]
          · rw [moves.fromFar, poised.fromFar]
        | error e =>
          obtain ⟨sent, isPrefix, moves⟩ := settles
          refine ⟨?_, nofun⟩
          rw [moves.toFar, poised.toFar, ← poised.whole]
          exact isPrefix.trans (List.prefix_append _ _)
    · rw [Task.obeys_bind, Task.obeys_get]
      exact idle.handedOver

theorem Poised.hands_tunnel (c : Context) (h : RequestHead) (poised : Poised text [] [] l past) :
    Hands text (tunnel c h) l past := by
  rw [Hands, tunnel, Task.obeys_bind, Task.obeys_ask]
  refine ⟨⟨poised.uncarried, poised.toFar⟩, fun a l' _ settles => ?_⟩
  cases a with
  | got =>
    obtain ⟨toFar, fromFar, unread, written, _⟩ := settles
    have dialled : Poised text [] [] l' (⟨.dial h.host, .got ()⟩ :: past) :=
      ⟨⟨toFar, uncarried_cons nofun⟩, by rw [unread, poised.whole], by rw [written, poised.written],
        fromFar⟩
    exact dialled.hands_tunnelConnected c h.host
  | failed | expired =>
    exact (poised.toIdle.aloof rfl settles).hands (asks_tunnelFailed c h.host _ fun _ => rfl)

/-! ### Upgraded connections -/

theorem Poised.hands_upgradeAccepted (c : Context) (h : WebSocket.Handshake) (key : Bytes)
    (protocol : Option Bytes) (poised : Poised text [] [] l past) :
    Hands text (upgradeAccepted c h key protocol) l past := by
  rw [Hands, upgradeAccepted, Task.obeys_bind]
  refine poised.obeys_detach (fun ahead l past poised => ?_) fun e l past idle => ?_
  · rw [Task.obeys_bind, Task.obeys_get, Except.mapError]
    dsimp only
    rw [Task.obeys_bind, Task.obeys_ask]
    refine ⟨⟨poised.uncarried, poised.toFar⟩, fun a l' _ settles => ?_⟩
    rw [Task.obeys_bind, Task.obeys_get]
    cases a with
    | failed | expired => exact (poised.toIdle.aloof rfl settles).handedOver
    | got =>
      have opened : Poised text ahead (switching key protocol) l'
          (⟨.rawReply (switching key protocol), .got ()⟩ :: past) :=
        poised.writes settles.1 nofun
      dsimp only [Reading.result]
      rw [Task.obeys_bind, Task.obeys_report, obeys_relayMessages, Task.obeys_ask]
      have whole : l'.toFar ++ (ahead ++ l'.unread) = text := by
        rw [opened.toFar, opened.whole, List.nil_append]
      refine ⟨⟨opened.uncarried, whole⟩, fun events l'' _ settles => ⟨?_, nofun⟩⟩
      obtain ⟨outbound, inbound, left, carries⟩ := settles
      exact (carries.handsOver whole).begins
  · rw [Task.obeys_bind, Task.obeys_get]
    exact idle.handedOver

theorem Poised.hands_upgrade (c : Context) (h : RequestHead) (poised : Poised text [] [] l past) :
    Hands text (upgrade c h) l past := by
  rw [Hands, upgrade, Task.obeys_bind, Task.obeys_report]
  split
  · exact poised.toIdle.hands (asks_reply rfl)
  · next key _ =>
    dsimp only
    rw [Task.obeys_bind]
    refine (Task.obeys_of_asks (asks_dialUpgrade rfl (fun _ => rfl) _)
      (fun _ => keeps_remote) poised).mono (fun a l past poised => ?_)
      fun _ _ _ poised => poised.toIdle.handedOver
    cases a with
    | error f => exact poised.toIdle.hands (asks_upgradeRefused c _ f fun _ => rfl)
    | ok protocol => exact poised.hands_upgradeAccepted c _ key protocol

/-! ### Dispatch -/

theorem Poised.hands_serveRequest (c : Context) (h : RequestHead)
    (poised : Poised text [] [] l past) : Hands text (serveRequest c h) l past := by
  rw [serveRequest]
  split
  · exact poised.hands_upgrade c h
  · split
    · exact poised.hands_tunnel c h
    · exact poised.toIdle.hands
        (asks_forward c h (fun _ => rfl) (fun _ => rfl) (fun _ => rfl) rfl)

/-- Where a request has been read, only the text behind its head is still to be read. -/
def Opened (text : Bytes) : Opening → Ledger → List Answered → Prop
  | .request _, l, past => Poised text [] [] l past
  | _, l, past => Idle l past

theorem Opened.idle {o : Opening} (opened : Opened text o l past) : Idle l past := by
  cases o with
  | request h => exact Poised.toIdle opened
  | nothing | greeting => exact opened

/-- Reading the head takes the head and nothing of the text behind it, which is still to be read even
where the buffer holds some of it. -/
theorem Poised.head {raw : Bytes} {found : Message.HeadEnd} (isHead : IsHead raw)
    (room : 0 < l.room) (poised : Poised (raw ++ text) [] [] l past)
    (settles : Settles .head (.got found) l l') :
    Poised text [] [] l' (⟨.head, .got found⟩ :: past) := by
  obtain ⟨cut, taken, moves⟩ := settles
  have whole : l.unread = raw ++ text := poised.whole
  have behind := cut room
  rw [whole, cutLines_head isHead] at behind
  refine ⟨poised.toIdle.moves moves rfl nofun, (congrArg Prod.snd behind).symm, ?_, ?_⟩
  · rw [moves.written, poised.written, List.append_nil]
  · rw [moves.fromFar, poised.fromFar]

theorem Poised.obeys_sniff {raw : Bytes} (isHead : IsHead raw) (room : 0 < l.room)
    (poised : Poised (raw ++ text) [] [] l past) :
    Task.Obeys (handing text) (Opened text) (fun _ => Idle) sniff l past := by
  rw [sniff, Task.obeys_bind, Task.obeys_ask]
  refine ⟨⟨poised.uncarried, poised.toFar⟩, fun first l' _ settles => ?_⟩
  rw [Task.obeys_bind, Task.obeys_get]
  cases first with
  | failed | expired => exact poised.toIdle.aloof rfl settles
  | got first =>
    obtain ⟨_, rests⟩ := settles
    have looked : Poised (raw ++ text) [] [] l' (⟨.firstByte, .got first⟩ :: past) :=
      poised.rests rests nofun
    cases first with
    | none => exact Task.obeys_pure.mpr looked.toIdle
    | some b =>
      dsimp only [Reading.result]
      split
      · exact Task.obeys_pure.mpr looked.toIdle
      · rw [Task.obeys_bind, Task.obeys_ask]
        refine ⟨⟨looked.uncarried, looked.toFar⟩, fun found l'' _ settles => ?_⟩
        rw [Task.obeys_bind, Task.obeys_get]
        cases found with
        | failed | expired => exact looked.toIdle.aloof rfl settles
        | got found =>
          have read := looked.head isHead (rests.room ▸ room) settles
          dsimp only [Reading.result]
          rw [Task.obeys_bind, Task.obeys_get]
          cases found.result with
          | error f => exact read.toIdle
          | ok h => exact Task.obeys_pure.mpr read

theorem Opened.obeys_serveOpening (c : Context) {o : Opening} (opened : Opened text o l past) :
    (serveOpening c o).Obeys (handing text) (fun _ => HandedOver text) l past := by
  rw [serveOpening]
  split
  · rw [Dialogue.obeys_bind, Dialogue.obeys_note, Dialogue.obeys_pure]
    exact opened.idle.handedOver
  · next p protocol =>
    rw [Dialogue.obeys_bind, Context.obeys_announce, Dialogue.obeys_bind, Task.obeys_run]
    cases o with
    | nothing => cases protocol
    | greeting => exact opened.hands (asks_refuseGreeting c rfl rfl)
    | request h => exact opened.hands_serveRequest c h

theorem Poised.obeys_dispatch {raw : Bytes} (c : Context) (isHead : IsHead raw) (room : 0 < l.room)
    (poised : Poised (raw ++ text) [] [] l past) :
    (dispatch c).Obeys (handing text) (fun _ => HandedOver text) l past := by
  rw [dispatch, Dialogue.obeys_bind, Task.obeys_run]
  refine (poised.obeys_sniff isHead room).mono (fun o l past opened => opened.obeys_serveOpening c)
    fun f l past idle => ?_
  dsimp only
  split
  · rw [Dialogue.obeys_bind, Task.obeys_run]
    exact (Task.obeys_of_asks (asks_rejectUnreadable rfl) (fun _ => keeps_aloof) idle).mono
      (fun _ _ _ idle => idle.handedOver) fun _ _ _ idle => idle.handedOver
  · exact idle.handedOver

/-! ## The account of a run -/

/-- While a question waits for its answer, the far side has been given the beginning of the text.
Three questions give it bytes, each in its own way; the others are aloof. -/
theorem handedOver_of_underway {q : Question} {e : Effort} (asks : (handing text).asks q l past)
    (underway : Underway q e l l') : HandedOver text l' past := by
  obtain ⟨uncarried, may⟩ := asks
  refine ⟨?_, fun c last => absurd last (uncarried c)⟩
  cases q with
  | sendAhead ahead =>
    obtain ⟨_, ⟨sent, split, rfl⟩, moves⟩ := underway
    rw [moves.toFar, ← may, split, List.append_assoc, ← List.append_assoc l.toFar]
    exact List.prefix_append _ _
  | carry => exact (Carries.handsOver underway may.1).begins
  | relay ahead =>
    obtain ⟨left, carries⟩ := underway
    exact (carries.handsOver may).begins
  | close => exact may.elim
  | _ =>
    obtain ⟨h, admits, moves⟩ := underway_moves rfl underway
    rw [moves.toFar, may, Question.unsent rfl admits]
    exact List.nil_prefix

/-- As long as the rest obeys, the far side has been given the beginning of the text. -/
theorem handedOver_of_obeys {d : Dialogue Outcome}
    (obeys : d.Obeys (handing text) (fun _ => HandedOver text) l past) :
    HandedOver text l past :=
  obeys.now (fun _ handedOver => handedOver) fun _ asked =>
    handedOver_of_underway asked (underway_start (.refl l))

theorem HandsOver.rests {outbound : Copy} (handsOver : HandsOver text outbound l)
    (rests : l.Rests l') : HandsOver text outbound l' := by
  have toFar : l'.toFar = l.toFar := rests.toFar.trans (List.append_nil _)
  have unread : l.unread = l'.unread := rests.unread
  refine ⟨?_, ?_⟩
  · rw [toFar, ← unread]
    exact handsOver.order
  · rw [toFar]
    exact handsOver.whole

theorem GivesBack.rests {inbound : Copy} (givesBack : GivesBack inbound l) (rests : l.Rests l') :
    GivesBack inbound l' := by
  have written : l'.written = l.written := rests.written.trans (List.append_nil _)
  refine ⟨?_, ?_⟩
  · rw [written, rests.fromFar]
    exact givesBack.order
  · rw [written, rests.fromFar, rests.farLeft]
    exact givesBack.whole

theorem HandedOver.rests (handedOver : HandedOver text l past) (rests : l.Rests l') :
    HandedOver text l' past := by
  have toFar : l'.toFar = l.toFar := rests.toFar.trans (List.append_nil _)
  have written : l'.written = l.written := rests.written.trans (List.append_nil _)
  refine ⟨toFar ▸ handedOver.begins, fun c last => ?_⟩
  obtain ⟨outbound, inbound, handsOver, givesBack, whole⟩ := handedOver.carried c last
  refine ⟨outbound, inbound, handsOver.rests rests, givesBack.rests rests, ?_⟩
  rw [toFar, written, rests.fromFar, rests.farLeft]
  exact whole

/-- **A tunnel hands over every byte.**  When a client sends a request head and any text behind it,
the far side of its tunnel is at any time given the beginning of that text; while a tunnel is open,
what it holds comes next, and behind that what is still to be read, so that all has been given once
the client's half has come to its end.  The client of a tunnel to a host is given the head that
opens it and then what the host sends, in the same way. -/
theorem dispatch_hands_over {σ τ : Type} [ByteStream σ] [ByteStream τ] [LawfulStream σ]
    [LawfulStream τ] {bufferSize : Nat} (room : 0 < bufferSize) {stream : σ} {raw text : Bytes}
    (isHead : IsHead raw) (sends : (traffic stream).coming = raw ++ text)
    (fresh : (traffic stream).given = []) {c : Context} {moves : List (Move σ τ)}
    {s : Standing σ τ Outcome}
    (ran : (Standing.start bufferSize stream (dispatch c)).run moves = some s) :
    HandedOver text s.post.ledger s.past ∧
      (∀ e, s.tunnel? = some e → HandsOver text e.outbound s.post.ledger) ∧
      ∀ next, s.rest = .ask .carry next →
        GivesBack (s.effortFor .carry).inbound s.post.ledger := by
  have poised : Poised (raw ++ text) [] [] (.opening bufferSize (traffic stream)) [] :=
    ⟨⟨rfl, nofun⟩, sends, fresh, rfl⟩
  obtain ⟨l, proper, obeys, stands⟩ :=
    Standing.accounts_run (Standing.accounts_start (poised.obeys_dispatch c isHead room)) ran
      fun _ _ => trivial
  rw [Standing.Stands] at stands
  refine ⟨?_, fun e tunnel => ?_, fun next asked => ?_⟩
  · split at stands
    · next q next asked =>
      rw [asked] at obeys
      exact handedOver_of_underway obeys.1 stands.1
    · exact (handedOver_of_obeys obeys).rests stands
  · obtain ⟨next, asked, rfl⟩ | ⟨ahead, next, asked, rfl⟩ := Standing.asked_of_tunnel tunnel
    · rw [asked] at stands obeys
      exact Carries.handsOver stands.1 obeys.1.2.1
    · rw [asked] at stands obeys
      obtain ⟨⟨left, carries⟩, _⟩ := stands
      exact carries.handsOver obeys.1.2
  · rw [asked] at stands obeys
    exact Carries.givesBack stands.1 obeys.1.2.2.1 obeys.1.2.2.2

/-- A client whose text is partly read ahead with the head, partly in its stream when that is handed
over, and partly sent when the tunnel is open. -/
theorem dispatch_hands_over_in_three :
    let raw := Bytes.ascii "CONNECT h:1 HTTP/1.1\r\n\r\n"
    let client := Peered.fresh 64 (raw ++ Bytes.ascii "abc")
    let dialling : Peered := { Peered.fresh 64 (Bytes.ascii "bc") with
      taken := raw ++ Bytes.ascii "a" }
    let opened : Peered := { Peered.fresh 64 (Bytes.ascii "c") with
      taken := raw ++ Bytes.ascii "ab", kept := Reply.tunnelOpen }
    let host := Peered.fresh 64 (Bytes.ascii "xyz")
    let moves : List (Move Peered Peered) :=
      [.client (client.sends 25), .go, .go, .go, .client (dialling.sends 1), .connect host,
        .farSide (host.sends 3).ends, .go, .go, .go, .go, .pull .outbound 8,
        .client (opened.sends 1).ends, .pull .outbound 8, .pull .outbound 8, .push .outbound,
        .push .outbound, .pull .inbound 8, .pull .inbound 8, .push .inbound, .push .inbound, .go]
    let c : Context := ⟨{}, ⟨1, "127.0.0.1:50000"⟩⟩
    ∃ s, (Standing.start 10 client (dispatch c)).run moves = some s ∧ 0 < 10 ∧ IsHead raw ∧
      (traffic client).coming = raw ++ Bytes.ascii "abc" ∧ (traffic client).given = [] ∧
      s.past.head? = some ⟨.carry, ⟨2, 3, none⟩⟩ ∧ s.post.ledger.toFar = Bytes.ascii "abc" ∧
      s.post.ledger.written = Reply.tunnelOpen ++ s.post.ledger.fromFar := by
  intro raw client dialling opened host moves c
  have goes : ((Standing.start 10 client (dispatch c)).run moves).any fun s =>
      decide ((s.past.head?.bind (·.to? .carry) : Option Carried) = some ⟨2, 3, none⟩) := by
    decide +kernel
  obtain ⟨s, ran, ended⟩ := (Option.any_eq_true _ _).mp goes
  obtain ⟨x, last, given⟩ := Option.bind_eq_some_iff.mp (of_decide_eq_true ended)
  rw [Answered.eq_of_to? given] at last
  have cut : Message.cutLines [] raw = (.complete raw, []) := by decide +kernel
  obtain ⟨_, _, isHead, _⟩ := Message.cutLines_complete_iff.mp cut
  have sends : (traffic client).coming = raw ++ Bytes.ascii "abc" := by decide +kernel
  have handedOver := (dispatch_hands_over (by decide) isHead sends rfl ran).1
  obtain ⟨_, _, _, _, whole⟩ := handedOver.carried _ last
  obtain ⟨toFar, written, _⟩ := whole rfl
  exact ⟨s, ran, by decide, isHead, sends, rfl, last, toFar, written⟩

end Wiretap.Session
