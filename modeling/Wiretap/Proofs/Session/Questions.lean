import Wiretap.Proofs.Session.Obedience
import Wiretap.Session.Dispatch

/-!
# What a dialogue may ask

Some things are known of a dialogue from the questions alone that it may come to, whatever is
answered (`Task.Asks`).  If each of them keeps a stage that the streams have come to, so does
the dialogue (`Task.obeys_of_asks`).  Opening an upgraded connection leaves the streams alone
(`asks_dialUpgrade`), and a client that is not given a tunnel is served without a far side
(`asks_forward`, `asks_refuseGreeting`, `asks_tunnelFailed`, `asks_upgradeRefused`).  Only a tunnel
asks for its host to be connected to; an upgraded connection does not (`asks_upgrade`).
-/

namespace Wiretap.Session

set_option autoImplicit false

open Message (RequestHead)

variable {α : Type} {may : Question → Bool}

/-- Whatever is answered, the task asks only such questions. -/
abbrev Task.Asks (may : Question → Bool) (t : Task α) : Prop := Task.Within { asks := may } t

theorem Task.asks_tell (n : Note) : Task.Asks may (tell n) := Task.within_tell rfl

theorem Task.asks_report (c : Context) (level : Observer.Level) (message : String) :
    Task.Asks may (c.report level message) := Task.within_report (fun _ => rfl) c level message

/-! ## Stages that questions keep -/

/-- A question may be asked at a stage, and its answer leaves the streams at that stage. -/
structure Rule.Keeps (rule : Rule) (stage : Ledger → List Answered → Prop) (q : Question) :
    Prop where
  asks : ∀ l past, stage l past → rule.asks q l past
  stays : ∀ a l l' past, rule.allows ⟨q, a⟩ → stage l past → Settles q a l l' →
    stage l' (⟨q, a⟩ :: past)

variable {rule : Rule} {stage : Ledger → List Answered → Prop} {l l' : Ledger}
  {past : List Answered}

/-- **A stage that all questions keep is kept by the task that asks them.** -/
theorem Task.obeys_of_asks {t : Task α} (asks : Task.Asks may t)
    (keeps : ∀ q, may q → rule.Keeps stage q) (here : stage l past) :
    Task.Obeys rule (fun _ => stage) (fun _ => stage) t l past := by
  refine Task.holds_of_within asks (fun _ _ _ here => here) (fun q k one here => ?_) here
  have kept := keeps q one
  exact ⟨kept.asks k.1 k.2 here, fun a l' allowed settles =>
    kept.stays a k.1 l' k.2 allowed here settles⟩

/-! ## What the processors ask -/

namespace Question

/-- Whether a question is answered elsewhere and leaves the streams alone. -/
def isRemote : Question → Bool
  | exchange _ => true
  | responseBody => true
  | freshKey => true
  | upgrade _ => true
  | elapsed => true
  | _ => false

/-- Whether a question gives a far side nothing, and does not close the connection. -/
def isAloof : Question → Bool
  | sendAhead _ => false
  | carry => false
  | relay _ => false
  | close => false
  | _ => true

theorem isAloof_of_isRemote {q : Question} (remote : q.isRemote) : q.isAloof := by
  cases q with
  | exchange | responseBody | freshKey | upgrade | elapsed => rfl
  | _ => cases remote

end Question

theorem Question.unsent {q : Question} {h : Haul} (aloof : q.isAloof) (admits : q.Admits h) :
    h.sent = [] := by
  cases q with
  | head | greeting | body | detach | reply | refusal | rawReply => exact admits.2
  | firstByte | dial | exchange | responseBody | freshKey | upgrade | elapsed => exact admits ▸ rfl
  | sendAhead | carry | relay | close => cases aloof

theorem settles_remote {q : Question} {a : q.Answer} (remote : q.isRemote)
    (settles : Settles q a l l') : l.Rests l' := by
  cases q with
  | exchange | responseBody | freshKey | upgrade | elapsed => exact settles
  | _ => cases remote

section

variable (key : may .freshKey) (upgrade : ∀ request, may (.upgrade request))

include key upgrade

theorem asks_askUpgrade (h : WebSocket.Handshake) : Task.Asks may (askUpgrade h) := by
  refine .bind (Task.within_ask key) fun key => ?_
  cases h.request key with
  | error e => exact Task.within_pure _
  | ok request => exact Task.within_ask (upgrade request)

theorem asks_negotiate (h : WebSocket.Handshake) : Task.Asks may (negotiate h) := by
  refine .bind (asks_askUpgrade key upgrade h) fun a => ?_
  split
  · split
    · exact .bind (Task.asks_tell _) fun _ => .bind (asks_askUpgrade key upgrade _) fun _ =>
        Task.within_pure _
    · exact Task.within_pure _
  · exact Task.within_pure _

theorem asks_dialUpgrade (h : WebSocket.Handshake) : Task.Asks may (dialUpgrade h) := by
  rw [dialUpgrade]
  split
  · exact Task.within_pure _
  · exact asks_negotiate key upgrade h

end

/-- Looking at the first bytes of a connection reads, at most, a head. -/
theorem asks_sniff (first : may .firstByte) (second : may .head) : Task.Asks may sniff := by
  refine .bind (Task.within_ask first) fun _ => .bind (Task.within_get _) fun _ => ?_
  split
  · exact Task.within_pure _
  · split
    · exact Task.within_pure _
    · exact .bind (Task.within_ask second) fun _ => .bind (Task.within_get _) fun _ =>
        .bind (Task.within_get _) fun _ => Task.within_pure _

theorem asks_reply {response : Bytes} (one : may (.reply response)) :
    Task.Asks may (reply response) :=
  .bind (Task.within_ask one) fun _ => Task.within_get _

theorem asks_refuseGreeting (c : Context) (first : may .greeting)
    (second : may (.refusal noMethod)) : Task.Asks may (refuseGreeting c) :=
  .bind (Task.within_ask first) fun _ => .bind (Task.within_get _) fun _ => .bind (Task.asks_tell _)
    fun _ => .bind (Task.within_ask second) fun _ => .bind (Task.within_get _) fun _ =>
      Task.within_throw _

theorem asks_rejectUnreadable (one : may (.reply unreadable)) :
    Task.Asks may rejectUnreadable := by
  refine .bind (Task.within_ask one) fun a => ?_
  split
  · exact Task.within_pure _
  · exact Task.asks_tell _

theorem asks_tunnelFailed (c : Context) (target : Bytes) (f : Fault)
    (one : ∀ response, may (.reply response)) : Task.Asks may (tunnelFailed c target f) :=
  .bind (Task.asks_report ..) fun _ => .bind (Task.asks_tell _) fun _ => asks_reply (one _)

theorem asks_upgradeRefused (c : Context) (h : WebSocket.Handshake) (f : Fault)
    (one : ∀ response, may (.reply response)) : Task.Asks may (upgradeRefused c h f) :=
  .bind (Task.asks_report ..) fun _ => .bind (Task.asks_tell _) fun _ =>
    .bind (Task.asks_tell _) fun _ => asks_reply (one _)

theorem asks_tunnelEnded (c : Context) (ahead : Bytes) (carried : Carried) :
    Task.Asks may (tunnelEnded c ahead carried) := by
  rw [tunnelEnded]
  split
  · exact Task.asks_tell _
  · exact .bind (Task.asks_tell _) fun _ => .bind (Task.asks_tell _) fun _ => Task.asks_report ..

theorem asks_relayMessages (c : Context) {ahead : Bytes} (one : may (.relay ahead)) :
    Task.Asks may (relayMessages c ahead) :=
  .bind (Task.within_ask one) fun _ => Task.asks_report ..

section

variable {done : Unit → Ledger → List Answered → Prop}
  {failed : Fault → Ledger → List Answered → Prop}

/-- Once a tunnel has been carried, nothing more is asked. -/
theorem obeys_tunnelEnded (c : Context) (ahead : Bytes) (carried : Carried) :
    Task.Obeys rule done failed (tunnelEnded c ahead carried) l past ↔ done () l past := by
  rw [tunnelEnded]
  split
  · rw [Task.obeys_tell]
  · rw [Task.obeys_bind, Task.obeys_tell, Task.obeys_bind, Task.obeys_tell, Task.obeys_report]

/-- Of a relay nothing is asked but to carry it. -/
theorem obeys_relayMessages (c : Context) (ahead : Bytes) :
    Task.Obeys rule done failed (relayMessages c ahead) l past ↔
      Task.Obeys rule (fun _ => done ()) failed (ask (.relay ahead)) l past := by
  rw [relayMessages, Task.obeys_bind, Task.obeys_ask, Task.obeys_ask]
  refine and_congr_right fun _ => forall_congr' fun relayed => forall_congr' fun l' =>
    forall_congr' fun _ => forall_congr' fun _ => ?_
  rw [Task.obeys_report]

end

/-! ### Upgraded connections -/

section

variable (c : Context) (replies : ∀ response, may (.reply response)) (key : may .freshKey)
  (request : ∀ r, may (.upgrade r)) (detach : may .detach)
  (rawReplies : ∀ response, may (.rawReply response)) (relay : ∀ ahead, may (.relay ahead))

include detach rawReplies relay

theorem asks_upgradeAccepted (h : WebSocket.Handshake) (key : Bytes) (protocol : Option Bytes) :
    Task.Asks may (upgradeAccepted c h key protocol) :=
  .bind (Task.within_ask detach) fun _ => .bind (Task.within_get _) fun _ =>
    .bind (Task.within_ask (rawReplies _)) fun _ => .bind (Task.within_get _) fun _ =>
      .bind (Task.asks_report ..) fun _ => asks_relayMessages c (relay _)

include replies key request

theorem asks_upgrade (h : RequestHead) : Task.Asks may (upgrade c h) := by
  refine .bind (Task.asks_report ..) fun _ => ?_
  split
  · exact asks_reply (replies _)
  · refine .bind (asks_dialUpgrade key request _) fun a => ?_
    split
    · exact asks_upgradeRefused c _ _ replies
    · exact asks_upgradeAccepted c detach rawReplies relay _ _ _

end

/-! ### Forwarded requests -/

section

variable (c : Context) (h : RequestHead) (replies : ∀ response, may (.reply response))

include replies

theorem asks_forwardFailed (message : String) : Task.Asks may (forwardFailed c message) :=
  .bind (Task.asks_report ..) fun _ => .bind (Task.asks_tell _) fun _ => asks_reply (replies _)

theorem asks_forwardExpired : Task.Asks may forwardExpired :=
  .bind (Task.asks_tell _) fun _ => asks_reply (replies _)

theorem asks_passBack (response : ResponseHead) (body : Bytes) :
    Task.Asks may (passBack c h response body) :=
  .bind (Task.asks_tell _) fun _ => .bind (Task.asks_tell _) fun _ =>
    .bind (asks_reply (replies _)) fun _ => Task.asks_report ..

theorem asks_receive (whole : may .responseBody) (response : ResponseHead) :
    Task.Asks may (receive c h response) := by
  refine .bind (Task.within_ask whole) fun a => ?_
  cases a with
  | got body => exact asks_passBack c h replies response body
  | failed why => exact asks_forwardFailed c replies _
  | expired => exact asks_forwardExpired replies

theorem asks_passOn (whole : may .responseBody) {uri : Message.Uri} {body : Bytes}
    (one : may (.exchange (forwarded h uri body))) : Task.Asks may (passOn c h uri body) := by
  refine .bind (Task.asks_tell _) fun _ => .bind (Task.asks_tell _) fun _ =>
    .bind (Task.asks_report ..) fun _ => .bind (Task.within_ask one) fun a => ?_
  cases a with
  | got response => exact asks_receive c h replies whole response
  | failed why => exact asks_forwardFailed c replies _
  | expired => exact .bind (Task.asks_report ..) fun _ => asks_forwardExpired replies

theorem asks_forward (body : ∀ n, may (.body n)) (request : ∀ r, may (.exchange r))
    (whole : may .responseBody) : Task.Asks may (forward c h) := by
  rw [forward]
  split
  · exact asks_reply (replies _)
  · exact .bind (Task.within_ask (body _)) fun _ => .bind (Task.within_get _) fun _ =>
      asks_passOn c h replies whole (request _)

end

end Wiretap.Session
