import Mathlib.Tactic.Common
import Wiretap.Proofs.Session.Logic
import Wiretap.Session.Crash

/-!
# What is told midway

Whatever a connection is served by, observers are told of payloads, of faults, of what was relayed
and of hosts that were not reached, and of nothing else (`Task.TellsMidway`): the start and the end
of a connection are not for its service to tell.  That holds of every processor
(`tellsMidway_serve`), also of one that panics at some turn (`Dialogue.Within.cutShort`).
-/

namespace Wiretap.Session

set_option autoImplicit false

open Message (RequestHead)
open Observer (Level)

variable {α : Type}

/-- Whether a note may be told while a connection is served. -/
def Note.isMidway : Note → Bool
  | .log _ => true
  | .metric (.relayed ..) => true
  | .metric (.targetFailed _) => true
  | .hook (.packet ..) => true
  | .hook (.fault ..) => true
  | _ => false

/-- What may be told while a connection is served; anything may be asked. -/
def midway : Limits := { tells := Note.isMidway }

/-- Whatever is answered, nothing is told but what may be told midway. -/
abbrev Dialogue.TellsMidway (d : Dialogue α) : Prop := d.Within midway

/-- A dialogue that is cut short stays within its limits. -/
theorem Dialogue.Within.cutShort {limits : Limits} {d : Dialogue α} (within : d.Within limits)
    (a : α) (turns : Nat) : (d.cutShort a turns).Within limits := by
  induction d generalizing turns with
  | finish b => cases turns <;> trivial
  | tell n rest ih =>
    cases turns with
    | zero => trivial
    | succ turns => exact ⟨within.1, ih within.2 turns⟩
  | ask q next ih =>
    cases turns with
    | zero => trivial
    | succ turns => exact ⟨within.1, fun x => ih x (within.2 x) turns⟩

namespace Task

/-- The same for a task. -/
abbrev TellsMidway (t : Task α) : Prop := Within midway t

theorem tellsMidway_report (c : Context) (level : Level) (message : String) :
    TellsMidway (c.report level message) := within_report (fun _ => rfl) c level message

end Task

open Wiretap.Session.Task

/-! ## Replies and refused greetings -/

theorem tellsMidway_reply (response : Bytes) : TellsMidway (reply response) :=
  .bind (within_ask rfl) fun _ => within_get _

theorem tellsMidway_sniff : TellsMidway sniff := by
  refine .bind (within_ask rfl) fun _ => .bind (within_get _) fun first => ?_
  cases first with
  | none => exact within_pure _
  | some b =>
    by_cases greets : isGreeting b
    · simp only [greets, if_true]
      exact within_pure _
    · simp only [greets]
      exact .bind (within_ask rfl) fun _ => .bind (within_get _) fun _ =>
        .bind (within_get _) fun _ => within_pure _

theorem tellsMidway_rejectUnreadable : TellsMidway rejectUnreadable := by
  refine .bind (within_ask rfl) fun a => ?_
  cases Reading.result .replyWritten a with
  | ok => exact within_pure _
  | error f => exact within_tell rfl

theorem tellsMidway_refuseGreeting (c : Context) : TellsMidway (refuseGreeting c) :=
  .bind (within_ask rfl) fun _ => .bind (within_get _) fun _ =>
    .bind (within_tell rfl) fun _ => .bind (within_ask rfl) fun _ =>
      .bind (within_get _) fun _ => within_throw _

/-! ## Tunnels -/

theorem tellsMidway_tunnelFailed (c : Context) (target : Bytes) (f : Fault) :
    TellsMidway (tunnelFailed c target f) :=
  .bind (tellsMidway_report ..) fun _ => .bind (within_tell rfl) fun _ =>
    tellsMidway_reply _

theorem tellsMidway_tunnelEnded (c : Context) (ahead : Bytes) (carried : Carried) :
    TellsMidway (tunnelEnded c ahead carried) := by
  rw [tunnelEnded]
  cases carried.fault with
  | some e => exact within_tell rfl
  | none =>
    exact .bind (within_tell rfl) fun _ => .bind (within_tell rfl) fun _ =>
      tellsMidway_report ..

theorem tellsMidway_tunnelConnected (c : Context) (target : Bytes) :
    TellsMidway (tunnelConnected c target) := by
  refine .bind (tellsMidway_reply _) fun _ => .bind (within_ask rfl) fun _ =>
    .bind (within_get _) fun ahead => ?_
  have opened : TellsMidway (do
      c.report .info s!"CONNECT tunnel open to {Text.Utf8.toText target}"
      tunnelEnded c ahead (← ask .carry)) :=
    .bind (tellsMidway_report ..) fun _ => .bind (within_ask rfl) fun _ =>
      tellsMidway_tunnelEnded ..
  cases ahead.isEmpty with
  | true => exact opened
  | false => exact .bind (within_ask rfl) fun _ => .bind (within_get _) fun _ => opened

theorem tellsMidway_tunnel (c : Context) (h : RequestHead) : TellsMidway (tunnel c h) := by
  refine .bind (within_ask rfl) fun a => ?_
  cases Reading.result .tunnelTarget a with
  | ok => exact tellsMidway_tunnelConnected ..
  | error f => exact tellsMidway_tunnelFailed ..

/-! ## Upgraded connections -/

theorem tellsMidway_askUpgrade (h : WebSocket.Handshake) : TellsMidway (askUpgrade h) := by
  refine .bind (within_ask rfl) fun key => ?_
  cases h.request key with
  | error e => exact within_pure _
  | ok request => exact within_ask rfl

theorem tellsMidway_negotiate (h : WebSocket.Handshake) : TellsMidway (negotiate h) := by
  refine .bind (tellsMidway_askUpgrade h) fun a => ?_
  split
  · split
    · exact .bind (within_tell rfl) fun _ => .bind (tellsMidway_askUpgrade _) fun _ =>
        within_pure _
    · exact within_pure _
  · exact within_pure _

theorem tellsMidway_dialUpgrade (h : WebSocket.Handshake) : TellsMidway (dialUpgrade h) := by
  rw [dialUpgrade]
  split
  · exact within_pure _
  · exact tellsMidway_negotiate h

theorem tellsMidway_upgradeRefused (c : Context) (h : WebSocket.Handshake) (f : Fault) :
    TellsMidway (upgradeRefused c h f) :=
  .bind (tellsMidway_report ..) fun _ => .bind (within_tell rfl) fun _ =>
    .bind (within_tell rfl) fun _ => tellsMidway_reply _

theorem tellsMidway_upgradeAccepted (c : Context) (h : WebSocket.Handshake) (key : Bytes)
    (protocol : Option Bytes) : TellsMidway (upgradeAccepted c h key protocol) :=
  .bind (within_ask rfl) fun _ => .bind (within_get _) fun _ =>
    .bind (within_ask rfl) fun _ => .bind (within_get _) fun _ =>
      .bind (tellsMidway_report ..) fun _ => .bind (within_ask rfl) fun _ =>
        tellsMidway_report ..

theorem tellsMidway_upgrade (c : Context) (h : RequestHead) : TellsMidway (upgrade c h) := by
  refine .bind (tellsMidway_report ..) fun _ => ?_
  cases h.fields.get? Message.Name.webSocketKey with
  | none => exact tellsMidway_reply _
  | some key =>
    refine .bind (tellsMidway_dialUpgrade _) fun r => ?_
    cases r with
    | error f => exact tellsMidway_upgradeRefused ..
    | ok protocol => exact tellsMidway_upgradeAccepted ..

/-! ## Forwarded requests -/

theorem tellsMidway_forwardFailed (c : Context) (message : String) :
    TellsMidway (forwardFailed c message) :=
  .bind (tellsMidway_report ..) fun _ => .bind (within_tell rfl) fun _ =>
    tellsMidway_reply _

theorem tellsMidway_forwardExpired : TellsMidway forwardExpired :=
  .bind (within_tell rfl) fun _ => tellsMidway_reply _

theorem tellsMidway_passBack (c : Context) (h : RequestHead) (response : ResponseHead)
    (body : Bytes) : TellsMidway (passBack c h response body) :=
  .bind (within_tell rfl) fun _ => .bind (within_tell rfl) fun _ =>
    .bind (tellsMidway_reply _) fun _ => tellsMidway_report ..

theorem tellsMidway_receive (c : Context) (h : RequestHead) (response : ResponseHead) :
    TellsMidway (receive c h response) := by
  refine .bind (within_ask rfl) fun a => ?_
  cases a with
  | got body => exact tellsMidway_passBack c h response body
  | failed why => exact tellsMidway_forwardFailed c _
  | expired => exact tellsMidway_forwardExpired

theorem tellsMidway_passOn (c : Context) (h : RequestHead) (uri : Message.Uri) (body : Bytes) :
    TellsMidway (passOn c h uri body) := by
  refine .bind (within_tell rfl) fun _ => .bind (within_tell rfl) fun _ =>
    .bind (tellsMidway_report ..) fun _ => .bind (within_ask rfl) fun a => ?_
  cases a with
  | got response => exact tellsMidway_receive c h response
  | failed why => exact tellsMidway_forwardFailed c _
  | expired => exact .bind (tellsMidway_report ..) fun _ => tellsMidway_forwardExpired

theorem tellsMidway_forward (c : Context) (h : RequestHead) : TellsMidway (forward c h) := by
  rw [forward]
  cases plan h with
  | error refused => exact tellsMidway_reply _
  | ok p =>
    exact .bind (within_ask rfl) fun _ => .bind (within_get _) fun _ =>
      tellsMidway_passOn c h _ _

/-! ## Every service -/

theorem tellsMidway_serveRequest (c : Context) (h : RequestHead) :
    TellsMidway (serveRequest c h) := by
  rw [serveRequest]
  split
  · exact tellsMidway_upgrade c h
  · split
    · exact tellsMidway_tunnel c h
    · exact tellsMidway_forward c h

/-- **Every processor tells only what may be told midway.** -/
theorem tellsMidway_serve (c : Context) (o : Opening) : TellsMidway (serve c o) := by
  cases o with
  | nothing => exact within_pure _
  | greeting => exact tellsMidway_refuseGreeting c
  | request h => exact tellsMidway_serveRequest c h

theorem tellsMidway_caught {d : Dialogue (Except Fault Unit)} (midway : d.TellsMidway)
    (panic : Option Nat) (p : Protocol) : (caught panic p d).TellsMidway := by
  cases panic with
  | none => exact midway
  | some turns => exact midway.cutShort _ turns

theorem tellsMidway_serveOpeningCaught (panic : Option Nat) (c : Context) (o : Opening) :
    (serveOpeningCaught panic c o).TellsMidway := by
  rw [serveOpeningCaught]
  cases o.protocol? with
  | none => exact ⟨rfl, trivial⟩
  | some p =>
    exact (Context.within_announce (fun _ => rfl) ..).bind fun _ =>
      (tellsMidway_caught (within_run.mpr (tellsMidway_serve c o)) panic p).bind fun _ => trivial

/-- **However a connection is served, also by a processor that panics, only what may be told midway
is told.** -/
theorem tellsMidway_dispatchCaught (panic : Option Nat) (c : Context) :
    (dispatchCaught panic c).TellsMidway := by
  refine (within_run.mpr tellsMidway_sniff).bind fun r => ?_
  cases r with
  | ok o => exact tellsMidway_serveOpeningCaught panic c o
  | error f =>
    dsimp only
    split
    · exact (within_run.mpr tellsMidway_rejectUnreadable).bind fun _ => trivial
    · trivial

end Wiretap.Session
