import Wiretap.Proofs.Message.ReplyReading
import Wiretap.Proofs.Session.Answers
import Wiretap.Proofs.Session.Forwarding
import Wiretap.Proofs.Transport.Peered
import Wiretap.Proofs.WebSocket.Offers

/-!
# One subprotocol on both sides

An upgraded connection has a subprotocol on the client's side and one on the host's, and messages
are relayed as they are, so the two must be the same.  The host selects one of what the client
offers, or nothing; in the latter case the connection that was opened is of no use, and the host is
asked again without an offer.  Each question of a negotiation belongs to one of its stages
(`Negotiation`), and what the client is told follows from the last stage alone (`Agreeing`).

How a host's answer is taken is the business of the library that asks it.  Of that library it is
assumed only that what it accepts is what the host has selected, that this was offered, and that it
complains of a missing selection only where there is none after an offer (`Judges`).
-/

namespace Wiretap.Session

set_option autoImplicit false

open Message (RequestHead decode?)
open Message.Fields (valuesOf)
open Transport (ByteStream LawfulStream Peered traffic)
open WebSocket (Handshake UpgradeRequest offered offeredNames)

/-! ## Handshakes of a dialogue -/

namespace Answered

/-- The request for an upgrade that was answered, with its answer. -/
def upgrade? : Answered → Option (UpgradeRequest × Upgraded)
  | ⟨.upgrade r, u⟩ => some (r, u)
  | _ => none

/-- The key that was drawn. -/
def key? : Answered → Option Bytes
  | ⟨.freshKey, key⟩ => some key
  | _ => none

end Answered

/-- The request for an upgrade that waits for its answer. -/
def Turn.upgrade? : Turn → Option UpgradeRequest
  | .asking (.upgrade r) => some r
  | _ => none

/-- The requests for an upgrade that have been answered, the first one first. -/
def handshakes (past : List Answered) : List (UpgradeRequest × Upgraded) :=
  past.reverse.filterMap Answered.upgrade?

/-- The keys that have been drawn, the first one first. -/
def drawnKeys (past : List Answered) : List Bytes := past.reverse.filterMap Answered.key?

theorem handshakes_cons (x : Answered) (past : List Answered) :
    handshakes (x :: past) = handshakes past ++ x.upgrade?.toList := by
  rw [handshakes, handshakes, List.reverse_cons, List.filterMap_append]
  cases found : x.upgrade? <;> simp [found]

theorem drawnKeys_cons (x : Answered) (past : List Answered) :
    drawnKeys (x :: past) = drawnKeys past ++ x.key?.toList := by
  rw [drawnKeys, drawnKeys, List.reverse_cons, List.filterMap_append]
  cases found : x.key? <;> simp [found]

/-! ## Stages of a negotiation -/

/-- The keys drawn, the requests answered and the one that waits, at each stage of a negotiation. -/
inductive Negotiation (hs : Handshake) :
    List Bytes → List (UpgradeRequest × Upgraded) → Option UpgradeRequest → Prop where
  | begun : Negotiation hs [] [] none
  | drawn {k : Bytes} : Negotiation hs [k] [] none
  | asking {k : Bytes} {r : UpgradeRequest} (made : hs.request k = .ok r) :
    Negotiation hs [k] [] (some r)
  | asked {k : Bytes} {r : UpgradeRequest} {u : Upgraded} (made : hs.request k = .ok r) :
    Negotiation hs [k] [(r, u)] none
  | drawnAgain {k k' : Bytes} {r : UpgradeRequest} (made : hs.request k = .ok r)
    (offers : hs.protocols.isSome) :
    Negotiation hs [k, k'] [(r, .failed .nothingSelected)] none
  | askingAgain {k k' : Bytes} {r r' : UpgradeRequest} (made : hs.request k = .ok r)
    (offers : hs.protocols.isSome) (again : hs.withoutOffer.request k' = .ok r') :
    Negotiation hs [k, k'] [(r, .failed .nothingSelected)] (some r')
  | askedAgain {k k' : Bytes} {r r' : UpgradeRequest} {u : Upgraded}
    (made : hs.request k = .ok r) (offers : hs.protocols.isSome)
    (again : hs.withoutOffer.request k' = .ok r') :
    Negotiation hs [k, k'] [(r, .failed .nothingSelected), (r', u)] none

/-- What the client is told where the host has accepted: nothing is selected of no offer. -/
def connected? : List (UpgradeRequest × Upgraded) → Option (Option Bytes)
  | [(_, .accepted protocol)] => some protocol
  | [_, (_, .accepted _)] => some none
  | _ => none

/-- What a client is answered whose upgrade failed. -/
def unavailable : Bytes :=
  Bytes.ascii
    "HTTP/1.1 502 Bad Gateway\r\nContent-Type: text/plain\r\nContent-Length: 28\r\n\r\n" ++
  Bytes.ascii "WebSocket connection failed\n"

theorem plainText_upgradeFailed :
    Message.Reply.plainText .badGateway Message.Reply.upgradeFailed = unavailable := by
  decide +kernel

/-! ## While a client waits for its upgrade -/

variable {hs : Handshake} {key : Bytes} {keys : List Bytes}
  {tries : List (UpgradeRequest × Upgraded)} {ch : Chronicle}

/-- Whether a question may be asked when the host has been asked so often: the client is told that
it is upgraded only where the host has accepted, and with the subprotocol of that connection; it is
told that it is not only where the host has not. -/
def Fitting (key : Bytes) (tries : List (UpgradeRequest × Upgraded)) : Question → Prop
  | .rawReply w => ∃ protocol, connected? tries = some protocol ∧ w = switching key protocol
  | .reply w => connected? tries = none ∧ w = unavailable
  | _ => True

/-- What is known at every turn of an upgrade: how far the negotiation has come, and that what is
done fits to that. -/
structure Agreeing (hs : Handshake) (key : Bytes) (turn : Turn) (ch : Chronicle) : Prop where
  negotiation : Negotiation hs (drawnKeys ch.past) (handshakes ch.past) turn.upgrade?
  fitting : ∀ q, Comes turn ch.past q → Fitting key (handshakes ch.past) q

/-- How an upgrade ends: the client has been answered first of all that it is upgraded, or that it
is not and nothing else, or it could not be reached. -/
inductive Ends (result : Except Fault Unit) (ch : Chronicle) : Prop where
  | upgraded {w : Bytes} (ok : result = .ok ()) (answered : ⟨.rawReply w, .got ()⟩ ∈ ch.past)
    (begins : w <+: ch.ledger.written)
  | refused (ok : result = .ok ()) (written : ch.ledger.written = unavailable)
    (passed : unavailable <+: ch.ledger.passed)
  | unreached {f : Fault} {x : Answered} (failed : result = .error f) (member : x ∈ ch.past)
    (undelivered : x.isDelivered = false)

/-- A task in the course of which both sides keep to one subprotocol, up to an end. -/
abbrev Agrees {α : Type} (hs : Handshake) (key : Bytes) (done : α → Chronicle → Prop)
    (t : Task α) (ch : Chronicle) : Prop :=
  Task.Holds (upholding (Agreeing hs key)) done
    (fun f ch => Agreeing hs key .ended ch ∧ Ends (.error f) ch) t ch

/-- A negotiation has come so far, and what has been done fits to that. -/
structure Informed (key : Bytes) (keys : List Bytes) (tries : List (UpgradeRequest × Upgraded))
    (ch : Chronicle) : Prop where
  drew : drawnKeys ch.past = keys
  tried : handshakes ch.past = tries
  fitting : ∀ x ∈ ch.past, Fitting key tries x.question

theorem Informed.agreeing {turn : Turn} (informed : Informed key keys tries ch)
    (stage : Negotiation hs keys tries turn.upgrade?)
    (fits : ∀ q, turn = .asking q → Fitting key tries q) : Agreeing hs key turn ch where
  negotiation := by rwa [informed.drew, informed.tried]
  fitting q comes := by
    rw [informed.tried]
    obtain asking | past := comes
    · exact fits q asking
    · obtain ⟨x, member, rfl⟩ := List.mem_map.mp past
      exact informed.fitting x member

/-- What is told asks for nothing. -/
theorem Informed.telling (informed : Informed key keys tries ch)
    (stage : Negotiation hs keys tries none) : Agreeing hs key .telling ch := by
  apply informed.agreeing stage
  rintro _ ⟨⟩

/-- Neither does the end. -/
theorem Informed.ended (informed : Informed key keys tries ch)
    (stage : Negotiation hs keys tries none) : Agreeing hs key .ended ch := by
  apply informed.agreeing stage
  rintro _ ⟨⟩

/-- What fits and belongs to no negotiation may be asked. -/
theorem Informed.answer {x : Answered} {l : Ledger} (informed : Informed key keys tries ch)
    (fits : Fitting key tries x.question) (undrawn : x.key? = none) (untried : x.upgrade? = none) :
    Informed key keys tries (ch.answer x l) where
  drew := by
    rw [Chronicle.answer, drawnKeys_cons, undrawn, informed.drew]
    exact List.append_nil keys
  tried := by
    rw [Chronicle.answer, handshakes_cons, untried, informed.tried]
    exact List.append_nil tries
  fitting := List.forall_mem_cons.mpr ⟨fits, informed.fitting⟩

/-- The host is being asked, and the client has been given nothing. -/
structure Dialing (keys : List Bytes) (tries : List (UpgradeRequest × Upgraded)) (ch : Chronicle) :
    Prop where
  remote : Answered.Only Question.isRemote ch.past
  unwritten : ch.ledger.written = []
  drew : drawnKeys ch.past = keys
  tried : handshakes ch.past = tries

theorem fitting_of_isRemote {q : Question} (remote : q.isRemote) : Fitting key tries q := by
  cases q with
  | rawReply | reply => cases remote
  | _ => trivial

theorem Dialing.informed (dialing : Dialing keys tries ch) : Informed key keys tries ch :=
  ⟨dialing.drew, dialing.tried, fun x member => fitting_of_isRemote (dialing.remote x member)⟩

theorem Dialing.agreeing {turn : Turn} (dialing : Dialing keys tries ch)
    (stage : Negotiation hs keys tries turn.upgrade?)
    (quiet : ∀ q, turn = .asking q → q.isRemote) : Agreeing hs key turn ch :=
  dialing.informed.agreeing stage fun q asking => fitting_of_isRemote (quiet q asking)

theorem Dialing.tell (dialing : Dialing keys tries ch) (n : Note) :
    Dialing keys tries (ch.tell n) :=
  ⟨dialing.remote, dialing.unwritten, dialing.drew, dialing.tried⟩

theorem Dialing.draw {k : Bytes} {l : Ledger} (dialing : Dialing keys tries ch)
    (settles : Settles .freshKey k ch.ledger l) :
    Dialing (keys ++ [k]) tries (ch.answer ⟨.freshKey, k⟩ l) where
  remote := Answered.only_cons rfl dialing.remote
  unwritten := settles.written.trans (by rw [dialing.unwritten]; rfl)
  drew := by
    rw [← dialing.drew]
    exact drawnKeys_cons ⟨.freshKey, k⟩ ch.past
  tried := by
    rw [← dialing.tried]
    exact (handshakes_cons ⟨.freshKey, k⟩ ch.past).trans (List.append_nil _)

theorem Dialing.ask {r : UpgradeRequest} {u : Upgraded} {l : Ledger}
    (dialing : Dialing keys tries ch) (settles : Settles (.upgrade r) u ch.ledger l) :
    Dialing keys (tries ++ [(r, u)]) (ch.answer ⟨.upgrade r, u⟩ l) where
  remote := Answered.only_cons rfl dialing.remote
  unwritten := settles.written.trans (by rw [dialing.unwritten]; rfl)
  drew := by
    rw [← dialing.drew]
    exact (drawnKeys_cons ⟨.upgrade r, u⟩ ch.past).trans (List.append_nil _)
  tried := by
    rw [← dialing.tried]
    exact handshakes_cons ⟨.upgrade r, u⟩ ch.past

/-! ## Asking the host -/

/-- The host has been asked once more, or the request could not be made. -/
inductive Tried (hs : Handshake) (keys : List Bytes) (tries : List (UpgradeRequest × Upgraded))
    (u : Upgraded) (ch : Chronicle) : Prop where
  | unmade {k : Bytes} {e : UpgradeFault} (failed : hs.request k = .error e) (same : u = .failed e)
    (dialing : Dialing (keys ++ [k]) tries ch)
  | made {k : Bytes} {r : UpgradeRequest} (made : hs.request k = .ok r)
    (dialing : Dialing (keys ++ [k]) (tries ++ [(r, u)]) ch)

theorem Dialing.agrees_askUpgrade {asked : Handshake} (dialing : Dialing keys tries ch)
    (before : Negotiation hs keys tries none)
    (asking : ∀ k r, asked.request k = .ok r → Negotiation hs (keys ++ [k]) tries (some r)) :
    Agrees hs key (Tried asked keys tries) (askUpgrade asked) ch := by
  rw [Agrees, askUpgrade, Task.holds_bind, Task.upholds_ask]
  refine ⟨dialing.agreeing before ?_, fun k l settles => ?_⟩
  · rintro _ ⟨⟩
    rfl
  have next := dialing.draw settles
  cases request : asked.request k with
  | error e => exact Task.holds_pure.mpr (.unmade request rfl next)
  | ok r =>
    have waits : Agreeing hs key (.asking (.upgrade r)) (ch.answer ⟨.freshKey, k⟩ l) := by
      apply next.agreeing (asking k r request)
      rintro _ ⟨⟩
      rfl
    exact Task.upholds_ask.mpr ⟨waits, fun u l' settles => .made request (next.ask settles)⟩

/-- The negotiation has ended, and the client is to be told of its result. -/
inductive Negotiated (hs : Handshake) (result : Except Fault (Option Bytes)) (ch : Chronicle) :
    Prop where
  | connected {keys : List Bytes} {tries : List (UpgradeRequest × Upgraded)}
    {protocol : Option Bytes} (dialing : Dialing keys tries ch)
    (stage : Negotiation hs keys tries none) (connected : connected? tries = some protocol)
    (same : result = .ok protocol)
  | failed {keys : List Bytes} {tries : List (UpgradeRequest × Upgraded)} {f : Fault}
    (dialing : Dialing keys tries ch) (stage : Negotiation hs keys tries none)
    (connected : connected? tries = none) (same : result = .error f)

/-- A negotiation that has come to its last answer ends with it. -/
theorem negotiated_of_answer {r : UpgradeRequest} {u : Upgraded} {keys : List Bytes}
    (dialing : Dialing keys [(r, u)] ch) (stage : Negotiation hs keys [(r, u)] none) :
    Negotiated hs (upgradeResult u) ch := by
  cases u with
  | accepted protocol => exact .connected dialing stage rfl rfl
  | failed e => exact .failed dialing stage rfl rfl
  | expired => exact .failed dialing stage rfl rfl

/-- The host is asked again without an offer, and its selection is not looked at. -/
theorem Dialing.agrees_askAgain {k : Bytes} {r : UpgradeRequest}
    (dialing : Dialing [k] [(r, .failed .nothingSelected)] ch) (made : hs.request k = .ok r)
    (offers : hs.protocols.isSome) :
    Agrees hs key (fun u => Negotiated hs ((upgradeResult u).map fun _ => none))
      (askUpgrade hs.withoutOffer) ch := by
  refine (dialing.agrees_askUpgrade (.asked made) fun _ _ again =>
    .askingAgain made offers again).mono (fun u ch tried => ?_) fun _ _ => id
  cases tried with
  | unmade failed same dialing =>
    rw [same]
    exact .failed dialing (.drawnAgain made offers) rfl rfl
  | made again dialing =>
    have stage := Negotiation.askedAgain (u := u) made offers again
    cases u with
    | accepted protocol => exact .connected dialing stage rfl rfl
    | failed e => exact .failed dialing stage rfl rfl
    | expired => exact .failed dialing stage rfl rfl

theorem agrees_negotiate (dialing : Dialing [] [] ch) :
    Agrees hs key (Negotiated hs) (negotiate hs) ch := by
  rw [Agrees, negotiate, Task.holds_bind]
  refine (dialing.agrees_askUpgrade .begun fun _ _ made =>
    .asking made).mono (fun u ch tried => ?_) fun _ _ => id
  cases tried with
  | unmade failed same dialing =>
    rw [same]
    split
    · next e selected =>
      cases selected
      exact absurd failed WebSocket.request_ne_nothingSelected
    · exact Task.holds_pure.mpr (.failed dialing .drawn rfl rfl)
  | made made dialing =>
    split
    · split
      · next offers =>
        rw [Task.holds_bind, Task.upholds_tell, Task.holds_bind]
        refine ⟨dialing.informed.telling (.asked made), ?_⟩
        refine ((dialing.tell _).agrees_askAgain made offers).mono (fun u ch negotiated => ?_)
          fun _ _ => id
        exact Task.holds_pure.mpr negotiated
      · exact Task.holds_pure.mpr (negotiated_of_answer dialing (.asked made))
    · exact Task.holds_pure.mpr (negotiated_of_answer dialing (.asked made))

theorem agrees_dialUpgrade (dialing : Dialing [] [] ch) :
    Agrees hs key (Negotiated hs) (dialUpgrade hs) ch := by
  rw [dialUpgrade]
  split
  · exact Task.holds_pure.mpr (.failed dialing .begun rfl rfl)
  · exact agrees_negotiate dialing

/-! ## Telling the client -/

/-- What is known when an upgrade has ended. -/
abbrev UpgradeEnded (hs : Handshake) (key : Bytes) (result : Except Fault Unit) (ch : Chronicle) :
    Prop :=
  Agreeing hs key .ended ch ∧ Ends result ch

theorem Dialing.agrees_upgradeRefused (c : Context) (h : Handshake) (f : Fault)
    (dialing : Dialing keys tries ch) (stage : Negotiation hs keys tries none)
    (failed : connected? tries = none) :
    Agrees hs key (fun _ => UpgradeEnded hs key (.ok ())) (upgradeRefused c h f) ch := by
  have fits : Fitting key tries (.reply unavailable) := ⟨failed, rfl⟩
  rw [Agrees, upgradeRefused, Task.holds_bind]
  apply Task.upholds_report (dialing.informed.telling stage)
  rw [Task.holds_bind, Task.upholds_tell]
  refine ⟨dialing.informed.telling stage, ?_⟩
  rw [Task.holds_bind, Task.upholds_tell]
  refine ⟨(dialing.tell _).informed.telling stage, ?_⟩
  have told := (dialing.tell (.metric (.targetFailed Protocol.webSocket.name))).tell
    (.hook (.fault f "websocket upstream dial"))
  rw [replyText, plainText_upgradeFailed, reply, Task.holds_bind, Task.upholds_ask]
  refine ⟨told.informed.agreeing stage ?_, fun a l settles => ?_⟩
  · rintro _ ⟨⟩
    exact fits
  have answered : Informed key keys tries (Chronicle.answer _ ⟨.reply unavailable, a⟩ l) :=
    told.informed.answer fits rfl rfl
  have ended : Agreeing hs key .ended _ := answered.ended stage
  rw [Task.holds_get]
  cases a with
  | got =>
    obtain ⟨moves, flushed⟩ := settles
    have written : l.written = unavailable := by
      rw [moves.written, told.unwritten, List.nil_append]
    exact ⟨ended, .refused rfl written ((flushed.trans written) ▸ List.prefix_refl _)⟩
  | failed | expired => exact ⟨ended, .unreached rfl List.mem_cons_self rfl⟩

theorem Dialing.agrees_upgradeAccepted (c : Context) (h : Handshake) {protocol : Option Bytes}
    (dialing : Dialing keys tries ch) (stage : Negotiation hs keys tries none)
    (connected : connected? tries = some protocol) :
    Agrees hs key (fun _ => UpgradeEnded hs key (.ok ())) (upgradeAccepted c h key protocol)
      ch := by
  have fits : Fitting key tries (.rawReply (switching key protocol)) := ⟨protocol, connected, rfl⟩
  rw [Agrees, upgradeAccepted, Task.holds_bind, Task.upholds_ask]
  refine ⟨dialing.informed.agreeing stage ?_, fun detached l handed => ?_⟩
  · rintro _ ⟨⟩
    trivial
  have behind : Informed key keys tries (ch.answer ⟨.detach, detached⟩ l) :=
    dialing.informed.answer trivial rfl rfl
  rw [Task.holds_bind, Task.holds_get]
  cases detached with
  | error e => exact ⟨behind.ended stage, .unreached rfl List.mem_cons_self rfl⟩
  | ok ahead =>
    dsimp only [Except.mapError]
    rw [Task.holds_bind, Task.upholds_ask]
    refine ⟨behind.agreeing stage ?_, fun answered l' settles => ?_⟩
    · rintro _ ⟨⟩
      exact fits
    have told : Informed key keys tries
        ((ch.answer ⟨.detach, .ok ahead⟩ l).answer
          ⟨.rawReply (switching key protocol), answered⟩ l') := behind.answer fits rfl rfl
    rw [Task.holds_bind, Task.holds_get]
    cases answered with
    | failed | expired => exact ⟨told.ended stage, .unreached rfl List.mem_cons_self rfl⟩
    | got =>
      have written : l'.written = switching key protocol := by
        rw [settles.1.written]
        change l.written ++ switching key protocol = _
        rw [handed.1.written, dialing.unwritten]
        rfl
      dsimp only [Reading.result]
      rw [Task.holds_bind]
      apply Task.upholds_report (told.telling stage)
      rw [relayMessages, Task.holds_bind, Task.upholds_ask]
      refine ⟨told.agreeing stage ?_, fun relayed l'' settles => ?_⟩
      · rintro _ ⟨⟩
        trivial
      have carried : Informed key keys tries (Chronicle.answer _ ⟨.relay ahead, relayed⟩ l'') :=
        told.answer trivial rfl rfl
      refine Task.upholds_report (carried.telling stage) ⟨carried.ended stage, ?_⟩
      obtain ⟨_, _, _, carries⟩ := settles
      obtain ⟨_, through, _⟩ := carries.back.moved
      exact .upgraded rfl (List.mem_cons_of_mem _ List.mem_cons_self)
        ⟨_, (congrArg (· ++ _) written).symm.trans through.symm⟩

/-- **The client is told of the subprotocol that the host has selected.** -/
theorem agrees_upgrade (c : Context) {h : RequestHead}
    (keyed : h.fields.get? Message.Name.webSocketKey = some key) (dialing : Dialing [] [] ch) :
    Agrees (Handshake.ofHead c.settings.tlsTerminated h) key
      (fun _ => UpgradeEnded (Handshake.ofHead c.settings.tlsTerminated h) key (.ok ()))
      (upgrade c h) ch := by
  rw [Agrees, upgrade, Task.holds_bind]
  apply Task.upholds_report (dialing.informed.telling .begun)
  rw [keyed]
  dsimp only
  rw [Task.holds_bind]
  refine (agrees_dialUpgrade dialing).mono (fun result ch negotiated => ?_) fun _ _ => id
  cases negotiated with
  | connected dialing stage connected same =>
    rw [same]
    exact dialing.agrees_upgradeAccepted c _ stage connected
  | failed dialing stage failed same =>
    rw [same]
    exact dialing.agrees_upgradeRefused c _ _ stage failed

/-! ## What the client reads -/

/-- The fields of the head that accepts an upgrade. -/
def switchingLines (key : Bytes) (protocol : Option Bytes) : List (Bytes × Bytes) :=
  [(Bytes.ascii "Upgrade", Bytes.ascii "websocket"),
    (Bytes.ascii "Connection", Bytes.ascii "Upgrade"),
    (Bytes.ascii "Sec-WebSocket-Accept", Bytes.ascii (WebSocket.acceptKey key))] ++
    protocol.toList.map fun p => (Bytes.ascii "Sec-WebSocket-Protocol", p)

theorem areFieldLines_switchingLines {protocol : Option Bytes}
    (visible : ∀ p ∈ protocol, p.all Bytes.isVisible) :
    Message.AreFieldLines (switchingLines key protocol) := by
  have upgrade : Message.Fields.isName (Bytes.ascii "Upgrade") ∧
      Message.Fields.isValue (Bytes.ascii "websocket") := by decide
  have connection : Message.Fields.isName (Bytes.ascii "Connection") ∧
      Message.Fields.isValue (Bytes.ascii "Upgrade") := by decide
  have accept : Message.Fields.isName (Bytes.ascii "Sec-WebSocket-Accept") := by decide
  have subprotocol : Message.Fields.isName (Bytes.ascii "Sec-WebSocket-Protocol") := by decide
  refine List.forall_mem_append.mpr ⟨?_, ?_⟩
  · exact List.forall_mem_cons.mpr ⟨upgrade, List.forall_mem_cons.mpr ⟨connection,
      List.forall_mem_singleton.mpr ⟨accept, Message.isValue_encode _⟩⟩⟩
  · intro line member
    obtain ⟨p, selected, rfl⟩ := List.mem_map.mp member
    exact ⟨subprotocol, Message.isValue_of_isVisible (visible p (Option.mem_toList.mp selected))⟩

/-- The head that accepts an upgrade is read with the fields that were written. -/
theorem decode?_switching {protocol : Option Bytes}
    (visible : ∀ p ∈ protocol, p.all Bytes.isVisible) :
    decode? (switching key protocol) = some ⟨101, switchingLines key protocol, []⟩ := by
  have written : switching key protocol =
      Message.Reply.statusLine ⟨101, by decide⟩ ++
        Message.fieldLines (switchingLines key protocol) ++ Bytes.crlf ++ [] := by
    have status : Message.Reply.statusLine ⟨101, by decide⟩ =
        Bytes.ascii "HTTP/1.1 101 Switching Protocols\r\n" := by decide +kernel
    cases protocol with
    | none => simp [switching, status, switchingLines, Message.fieldLines]
    | some p =>
      have kept : (some p).filter (fun p => p.all Bytes.isVisible) = some p :=
        Option.filter_some_pos (visible p rfl)
      simp [switching, status, switchingLines, Message.fieldLines, kept]
  rw [written]
  exact Message.decode?_response _ (areFieldLines_switchingLines visible) []

theorem valuesOf_switchingLines (key : Bytes) (protocol : Option Bytes) :
    valuesOf (switchingLines key protocol) Message.Name.webSocketProtocol = protocol.toList := by
  cases protocol <;> rfl

/-! ## The answers of a host -/

/-- How a host answers a request for an upgrade. -/
inductive HostAnswer where
  /-- It accepts, perhaps selecting a subprotocol. -/
  | accepts (selected : Option Bytes)
  | refuses (why : String)
  /-- It cannot be reached. -/
  | fails (e : IoFault)
  deriving DecidableEq, Repr

/-- What is assumed of the library that asks a host, and makes of its answer to an offer what the
proxy learns. -/
structure Judges (judge : Option Bytes → HostAnswer → Upgraded) : Prop where
  /-- What is accepted is what the host has selected. -/
  selected : ∀ offer a protocol, judge offer a = .accepted protocol → a = .accepts protocol
  /-- A name that is accepted was offered. -/
  offered : ∀ offer a name, judge offer a = .accepted (some name) →
    ∃ names, offer = some names ∧ name ∈ offeredNames names
  /-- A selection is missing where there is none after an offer. -/
  nothing : ∀ offer a, judge offer a = .failed .nothingSelected →
    offer.isSome ∧ a = .accepts none

/-- The requests have been answered by some hosts one after the other, unless the deadline
passed. -/
def AnsweredBy (judge : Option Bytes → HostAnswer → Upgraded) (hosts : Nat → HostAnswer)
    (tries : List (UpgradeRequest × Upgraded)) : Prop :=
  ∀ i r u, tries[i]? = some (r, u) →
    u = .expired ∨ u = judge (r.fields.get? Message.Name.webSocketProtocol) (hosts i)

variable {σ τ : Type}

/-- The requests for an upgrade that have been made, the last of which may wait for its answer. -/
def Standing.requests {α : Type} (s : Standing σ τ α) : List UpgradeRequest :=
  (handshakes s.past).map (·.1) ++ s.rest.turn.upgrade?.toList

/-- What is known of a client's upgrade, whatever hosts answer. -/
structure OneSubprotocol [ByteStream σ] [ByteStream τ] (h : RequestHead)
    (hosts : Nat → HostAnswer) (s : Standing σ τ (Except Fault Unit)) : Prop where
  atMostTwo : s.requests.length ≤ 2
  first : ∀ r ∈ s.requests.head?,
    r.fields.get? Message.Name.webSocketProtocol = offered h.fields
  /-- A second request is the first one without its offer, and with a key of its own. -/
  second : ∀ r r', s.requests = [r, r'] → (offered h.fields).isSome ∧ hosts 0 = .accepts none ∧
    ∃ k k', drawnKeys s.past = [k, k'] ∧ r' = r.again k'
  /-- The client is told what the host has selected that was asked last, and that it had offered
  this name. -/
  switched : ∀ w, Comes s.rest.turn s.past (.rawReply w) → ∃ n selected lines,
    s.requests.length = n + 1 ∧ hosts n = .accepts selected ∧
      decode? w = some ⟨101, lines, []⟩ ∧
      valuesOf lines Message.Name.webSocketProtocol = selected.toList ∧
      ∀ name ∈ selected, ∃ names, offered h.fields = some names ∧ name ∈ offeredNames names
  /-- A client that is told something else is not told this as well. -/
  refused : ∀ w, Comes s.rest.turn s.past (.reply w) →
    w = unavailable ∧ ∀ w, ¬ Comes s.rest.turn s.past (.rawReply w)
  ended : ∀ result, s.rest = .finish result →
    (result = .ok () ∧ ∃ w, ⟨.rawReply w, .got ()⟩ ∈ s.past ∧ w <+: s.post.ledger.written) ∨
    (result = .ok () ∧ s.post.ledger.written = unavailable ∧
      unavailable <+: s.post.ledger.passed) ∨
    ∃ f, result = .error f ∧ ∃ x ∈ s.past, x.isDelivered = false

/-! ## Throughout a run -/

section

variable {pending : Option UpgradeRequest} {judge : Option Bytes → HostAnswer → Upgraded}
  {hosts : Nat → HostAnswer} {tls : Bool} {h : RequestHead}

/-- What the requests of a negotiation have to do with each other. -/
theorem Negotiation.requests_cases (stage : Negotiation hs keys tries pending) :
    tries.map (·.1) ++ pending.toList = [] ∨
    (∃ k r, hs.request k = .ok r ∧ tries.map (·.1) ++ pending.toList = [r]) ∨
    ∃ k k' r r', keys = [k, k'] ∧ hs.request k = .ok r ∧ hs.withoutOffer.request k' = .ok r' ∧
      hs.protocols.isSome ∧ tries.map (·.1) ++ pending.toList = [r, r'] ∧
      tries[0]? = some (r, .failed .nothingSelected) := by
  cases stage with
  | begun | drawn => exact .inl rfl
  | asking made | asked made | drawnAgain made => exact .inr (.inl ⟨_, _, made, rfl⟩)
  | askingAgain made offers again | askedAgain made offers again =>
    exact .inr (.inr ⟨_, _, _, _, rfl, made, again, offers, rfl, rfl⟩)

/-- A host is asked twice at most. -/
theorem Negotiation.length_requests_le (stage : Negotiation hs keys tries pending) :
    (tries.map (·.1) ++ pending.toList).length ≤ 2 := by
  obtain none | ⟨_, _, _, one⟩ | ⟨_, _, _, _, _, _, _, _, two, _⟩ := stage.requests_cases
  · rw [none]
    exact Nat.zero_le 2
  · rw [one]
    exact Nat.le_succ 1
  · rw [two]
    exact Nat.le_refl 2

/-- The first request offers what the client does. -/
theorem Negotiation.first (lower : h.fields.Folded)
    (stage : Negotiation (Handshake.ofHead tls h) keys tries pending) {r : UpgradeRequest}
    (first : r ∈ (tries.map (·.1) ++ pending.toList).head?) :
    r.fields.get? Message.Name.webSocketProtocol = offered h.fields := by
  obtain none | ⟨_, _, made, one⟩ | ⟨_, _, _, _, _, made, _, _, two, _⟩ := stage.requests_cases
  · rw [none] at first
    cases first
  · rw [one] at first
    cases first
    exact WebSocket.get?_offer_of_request lower made
  · rw [two] at first
    cases first
    exact WebSocket.get?_offer_of_request lower made

/-- Where the host has accepted, its last answer is what was accepted. -/
theorem Negotiation.connected_cases {protocol : Option Bytes}
    (stage : Negotiation hs keys tries pending) (connected : connected? tries = some protocol) :
    (∃ k r, hs.request k = .ok r ∧ tries = [(r, .accepted protocol)] ∧ pending = none) ∨
    ∃ k k' r r' selected, hs.request k = .ok r ∧ hs.withoutOffer.request k' = .ok r' ∧
      tries = [(r, .failed .nothingSelected), (r', .accepted selected)] ∧ pending = none ∧
      protocol = none := by
  cases stage with
  | begun | drawn | asking | drawnAgain | askingAgain => cases connected
  | @asked k r u made =>
    cases u with
    | accepted selected =>
      cases connected
      exact .inl ⟨_, _, made, rfl, rfl⟩
    | failed | expired => cases connected
  | @askedAgain k k' r r' u made offers again =>
    cases u with
    | accepted selected =>
      cases connected
      exact .inr ⟨_, _, _, _, selected, made, again, rfl, rfl, rfl⟩
    | failed | expired => cases connected

/-- An answer that came in time is what the library makes of a host's. -/
theorem AnsweredBy.judged {i : Nat} {r : UpgradeRequest} {u : Upgraded}
    (answers : AnsweredBy judge hosts tries) (there : tries[i]? = some (r, u))
    (inTime : u ≠ .expired) :
    judge (r.fields.get? Message.Name.webSocketProtocol) (hosts i) = u :=
  ((answers i r u there).resolve_left inTime).symm

section

variable (judges : Judges judge) (lower : h.fields.Folded)
  (stage : Negotiation (Handshake.ofHead tls h) keys tries pending)
  (answers : AnsweredBy judge hosts tries)

include judges lower stage answers

/-- A host is asked again only where it accepted before without selecting anything. -/
theorem Negotiation.second {r r' : UpgradeRequest}
    (asked : tries.map (·.1) ++ pending.toList = [r, r']) :
    (offered h.fields).isSome ∧ hosts 0 = .accepts none ∧
      ∃ k k', keys = [k, k'] ∧ r' = r.again k' := by
  obtain none | ⟨_, _, _, one⟩ | ⟨k, k', first, second, drew, made, again, offers, two, missed⟩ :=
    stage.requests_cases
  · rw [asked] at none
    cases none
  · rw [asked] at one
    cases one
  · rw [asked] at two
    cases two
    have judged := answers.judged missed nofun
    exact ⟨offers, (judges.nothing _ _ judged).2, k, k', drew,
      WebSocket.request_again lower made again⟩

/-- What the client is told is what the host has selected that was asked last. -/
theorem Negotiation.selected {protocol : Option Bytes}
    (connected : connected? tries = some protocol) :
    ∃ n, (tries.map (·.1) ++ pending.toList).length = n + 1 ∧ hosts n = .accepts protocol ∧
      ∀ name ∈ protocol, ∃ names, offered h.fields = some names ∧ name ∈ offeredNames names := by
  obtain ⟨k, r, made, rfl, rfl⟩ | ⟨k, k', r, r', selected, made, again, rfl, rfl, rfl⟩ :=
    stage.connected_cases connected
  · have judged : judge (offered h.fields) (hosts 0) = .accepted protocol := by
      rw [← WebSocket.get?_offer_of_request lower made]
      exact answers.judged (i := 0) rfl nofun
    refine ⟨0, rfl, judges.selected _ _ _ judged, ?_⟩
    rintro name ⟨⟩
    exact judges.offered _ _ name judged
  · have judged : judge none (hosts 1) = .accepted selected := by
      rw [← WebSocket.get?_offer_of_again r k',
        ← WebSocket.request_again lower made again]
      exact answers.judged (i := 1) rfl nofun
    cases selected with
    | none => exact ⟨1, rfl, judges.selected _ _ _ judged, nofun⟩
    | some name =>
      obtain ⟨_, offer, _⟩ := judges.offered _ _ name judged
      cases offer

end

end

variable [ByteStream σ] [ByteStream τ] [LawfulStream σ] [LawfulStream τ] {bufferSize : Nat}
  {stream : σ} {c : Context} {h : RequestHead} {moves : List (Move σ τ)}
  {s : Standing σ τ (Except Fault Unit)}

/-- What is known of an upgrade at every point of a run, and at its end. -/
theorem agreeing_of_run (fresh : (traffic stream).given = [])
    (keyed : h.fields.get? Message.Name.webSocketKey = some key)
    (ran : (Standing.start bufferSize stream (upgrade c h).run).run moves = some s) :
    ∃ l, s.Stands l ∧
      Agreeing (Handshake.ofHead c.settings.tlsTerminated h) key s.rest.turn
        ⟨l, s.past, s.shown⟩ ∧
      ∀ result, s.rest = .finish result → Ends result ⟨l, s.past, s.shown⟩ := by
  have dialing : Dialing [] [] { ledger := .opening bufferSize (traffic stream) } :=
    ⟨nofun, fresh, rfl, rfl⟩
  have whole : (upgrade c h).run.Holds
      (upholding (Agreeing (Handshake.ofHead c.settings.tlsTerminated h) key))
      (UpgradeEnded (Handshake.ofHead c.settings.tlsTerminated h) key)
      { ledger := .opening bufferSize (traffic stream) } :=
    Task.holds_run.mpr (agrees_upgrade c keyed dialing)
  obtain ⟨l, stands, upholds⟩ := Standing.upholds_of_run whole ran
  refine ⟨l, stands, (upholds.mono fun _ _ ended => ended.1).law_turn, ?_⟩
  intro result finished
  rw [finished] at upholds
  exact upholds.2

/-- **Client, first connection and second connection agree on one subprotocol**, whatever hosts
answer and whenever. -/
theorem upgrade_keeps_subprotocol {raw : Bytes} (parsed : RequestHead.parse raw = .ok h)
    (keyed : h.fields.get? Message.Name.webSocketKey = some key)
    (fresh : (traffic stream).given = []) {judge : Option Bytes → HostAnswer → Upgraded}
    (judges : Judges judge) {hosts : Nat → HostAnswer}
    (ran : (Standing.start bufferSize stream (upgrade c h).run).run moves = some s)
    (answers : AnsweredBy judge hosts (handshakes s.past)) : OneSubprotocol h hosts s := by
  obtain ⟨l, stands, agreeing, ends⟩ := agreeing_of_run fresh keyed ran
  have lower := WebSocket.folded_of_parse parsed
  have stage := agreeing.negotiation
  refine ⟨stage.length_requests_le, ?_, ?_, ?_, ?_, ?_⟩
  · intro r first
    exact stage.first lower first
  · intro r r' two
    exact stage.second judges lower answers two
  · intro w comes
    obtain ⟨protocol, connected, rfl⟩ := agreeing.fitting _ comes
    obtain ⟨n, last, accepted, own⟩ := stage.selected judges lower answers connected
    have visible : ∀ p ∈ protocol, p.all Bytes.isVisible := by
      intro p selected
      obtain ⟨names, _, member⟩ := own p selected
      exact WebSocket.isVisible_of_mem_offeredNames member
    exact ⟨n, protocol, _, last, accepted, decode?_switching visible,
      valuesOf_switchingLines key protocol, own⟩
  · intro w comes
    obtain ⟨failed, told⟩ := agreeing.fitting _ comes
    refine ⟨told, fun w' switched => ?_⟩
    obtain ⟨_, connected, _⟩ := agreeing.fitting _ switched
    cases failed.symm.trans connected
  · intro result finished
    have rests : l.Rests s.post.ledger := stands.rests_of_ended (by rw [finished]; rfl)
    cases ends result finished with
    | upgraded ok answered begins =>
      refine .inl ⟨ok, _, answered, begins.trans ?_⟩
      exact ⟨[], rests.written.symm⟩
    | refused ok written passed =>
      refine .inr (.inl ⟨ok, ?_, passed.trans rests.passed⟩)
      exact rests.written.trans (by simpa using written)
    | unreached failed member undelivered =>
      exact .inr (.inr ⟨_, failed, _, member, undelivered⟩)

/-- What the library makes of a host's answer to an offer. -/
def judged (offer : Option Bytes) : HostAnswer → Upgraded
  | .accepts none => if offer.isSome then .failed .nothingSelected else .accepted none
  | .accepts (some name) =>
    if offer.any fun names => (offeredNames names).contains name then .accepted (some name)
    else .failed (.refused "SubProtocol error")
  | .refuses why => .failed (.refused why)
  | .fails e => .failed (.io e)

theorem judges_judged : Judges judged where
  selected offer a protocol accepted := by
    match a with
    | .accepts none | .accepts (some _) =>
      rw [judged] at accepted
      split at accepted <;> cases accepted
      rfl
    | .refuses _ | .fails _ => cases accepted
  offered offer a name accepted := by
    match a with
    | .accepts none =>
      rw [judged] at accepted
      split at accepted <;> cases accepted
    | .accepts (some _) =>
      rw [judged] at accepted
      split at accepted
      · next own =>
        cases accepted
        obtain ⟨names, same, member⟩ := (Option.any_eq_true _ _).mp own
        exact ⟨names, same, List.contains_iff_mem.mp member⟩
      · cases accepted
    | .refuses _ | .fails _ => cases accepted
  nothing offer a missed := by
    match a with
    | .accepts none =>
      rw [judged] at missed
      split at missed
      · next offers => exact ⟨offers, rfl⟩
      · cases missed
    | .accepts (some _) =>
      rw [judged] at missed
      split at missed <;> cases missed
    | .refuses _ | .fails _ => cases missed

/-- A host that selects none of two names, and accepts when it is asked without an offer. -/
theorem upgrade_keeps_no_subprotocol :
    let raw := Bytes.ascii "GET /c HTTP/1.1\r\nHost: h\r\nUpgrade: websocket\r\n" ++
      Bytes.ascii "Connection: Upgrade\r\nSec-WebSocket-Key: k\r\n" ++
      Bytes.ascii "Sec-WebSocket-Protocol: a, b\r\n\r\n"
    let fields : Message.Fields := ⟨[⟨Bytes.ascii "host", [Bytes.ascii "h"]⟩,
      ⟨Bytes.ascii "upgrade", [Bytes.ascii "websocket"]⟩,
      ⟨Bytes.ascii "connection", [Bytes.ascii "Upgrade"]⟩,
      ⟨Bytes.ascii "sec-websocket-key", [Bytes.ascii "k"]⟩,
      ⟨Bytes.ascii "sec-websocket-protocol", [Bytes.ascii "a, b"]⟩]⟩
    let h : RequestHead :=
      ⟨Bytes.ascii "GET", Bytes.ascii "/c", Bytes.ascii "h", Bytes.ascii "/c", fields, raw⟩
    let uri : Message.Uri := ⟨some (Bytes.ascii "ws"), Bytes.ascii "h", Bytes.ascii "/c"⟩
    let hs := Handshake.ofHead false h
    let r : UpgradeRequest := ⟨uri, WebSocket.offering
      (WebSocket.plainFields (Bytes.ascii "h") (Bytes.ascii "one") hs) hs.protocols⟩
    let r' := r.again (Bytes.ascii "two")
    let client := Peered.fresh 512 []
    let moves : List (Move Peered Peered) := [.go, .answer ⟨.freshKey, Bytes.ascii "one"⟩,
      .answer ⟨.upgrade r, .failed .nothingSelected⟩, .go,
      .answer ⟨.freshKey, Bytes.ascii "two"⟩, .answer ⟨.upgrade r', .accepted none⟩, .go, .go]
    let c : Context := ⟨{}, ⟨1, "127.0.0.1:50000"⟩⟩
    let hosts : Nat → HostAnswer := fun _ => .accepts none
    ∃ s, (Standing.start 8 client (upgrade c h).run).run moves = some s ∧
      RequestHead.parse raw = .ok h ∧
      h.fields.get? Message.Name.webSocketKey = some (Bytes.ascii "k") ∧
      (traffic client).given = [] ∧ Judges judged ∧
      AnsweredBy judged hosts (handshakes s.past) ∧
      handshakes s.past = [(r, .failed .nothingSelected), (r', .accepted none)] ∧
      (∃ w, Comes s.rest.turn s.past (.rawReply w)) ∧ OneSubprotocol h hosts s := by
  intro raw fields h uri hs r r' client moves c hosts
  have goes : ((Standing.start 8 client (upgrade c h).run).run moves).any fun s =>
      decide (s.past = [⟨.rawReply (switching (Bytes.ascii "k") none), .got ()⟩,
        ⟨.detach, .ok []⟩, ⟨.upgrade r', .accepted none⟩, ⟨.freshKey, Bytes.ascii "two"⟩,
        ⟨.upgrade r, .failed .nothingSelected⟩, ⟨.freshKey, Bytes.ascii "one"⟩]) := by
    decide +kernel
  obtain ⟨s, ran, past⟩ := (Option.any_eq_true _ _).mp goes
  have past := of_decide_eq_true past
  have tries : handshakes s.past = [(r, .failed .nothingSelected), (r', .accepted none)] := by
    rw [past]
    rfl
  have offers : r.fields.get? Message.Name.webSocketProtocol = some (Bytes.ascii "a, b") := by
    decide +kernel
  have offersNothing : r'.fields.get? Message.Name.webSocketProtocol = none := by decide +kernel
  have answers : AnsweredBy judged hosts (handshakes s.past) := by
    rw [tries]
    intro i q u asked
    rcases i with _ | _ | i
    · cases asked
      exact .inr (by rw [offers]; rfl)
    · cases asked
      exact .inr (by rw [offersNothing]; rfl)
    · cases asked
  have parsed : RequestHead.parse raw = .ok h := by decide +kernel
  have keyed : h.fields.get? Message.Name.webSocketKey = some (Bytes.ascii "k") := by decide +kernel
  refine ⟨s, ran, parsed, keyed, rfl, judges_judged, answers, tries,
    ⟨switching (Bytes.ascii "k") none, .inr ?_⟩,
    upgrade_keeps_subprotocol parsed keyed rfl judges_judged ran answers⟩
  rw [past]
  exact List.mem_cons_self

end Wiretap.Session
