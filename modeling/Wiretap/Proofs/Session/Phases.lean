import Wiretap.Proofs.Session.Midway
import Wiretap.Proofs.Session.Runs
import Wiretap.Session.Ensemble

/-!
# The phases of a connection

What observers are told of a connection comes in phases: it is counted, it is started and handled,
then come the notes of its service, then it is ended and counted off (`Phase.next`, with its cases in
`Phase.next_cases`).  A dialogue follows the phases if each of its notes may come where it is told,
whatever is answered, and if it asks for a relay only in the midst of the service
(`phased`).  Attending a connection does so (`follows_attendCaught`).
-/

namespace Wiretap.Session

set_option autoImplicit false

variable {α : Type}

/-- How far observers have been told of a connection. -/
inductive Phase where
  | unheard
  | counted
  | started
  | serving
  | ended
  /-- It has been counted off under these words. -/
  | closed (protocol outcome : String)
  deriving DecidableEq

namespace Phase

/-- The phase behind a note, if the note may come. -/
def next : Phase → Note → Option Phase
  | p, .log _ => some p
  | unheard, .metric .opened => some counted
  | counted, .hook .started => some started
  | started, .hook .handled => some serving
  | serving, .hook (.ended _) => some ended
  | serving, n => if n.isMidway then some serving else none
  | ended, .metric (.closed protocol outcome) => some (closed protocol outcome)
  | _, _ => none

@[simp] theorem next_log (p : Phase) (entry : Observer.Log) : p.next (.log entry) = some p := by
  cases p <;> rfl

/-- How a note brings a phase to the next one. -/
inductive Next : Phase → Note → Phase → Prop where
  | logged (p : Phase) (entry : Observer.Log) : Next p (.log entry) p
  | opened : Next unheard (.metric .opened) counted
  | begun : Next counted (.hook .started) started
  | handled : Next started (.hook .handled) serving
  | midway {n : Note} (midway : n.isMidway) : Next serving n serving
  | done (micros : Nat) : Next serving (.hook (.ended micros)) ended
  | countedOff (protocol outcome : String) :
    Next ended (.metric (.closed protocol outcome)) (closed protocol outcome)

/-- **These are the ways in which a note may come.** -/
theorem next_cases {p p' : Phase} {n : Note} (may : p.next n = some p') : Next p n p' := by
  cases n with
  | log entry =>
    rw [next_log] at may
    cases may
    exact .logged p entry
  | metric m =>
    cases p with
    | unheard => cases m <;> cases may; exact .opened
    | serving => cases m <;> cases may <;> exact .midway rfl
    | ended => cases m <;> cases may; exact .countedOff ..
    | counted => cases m <;> cases may
    | started => cases m <;> cases may
    | closed => cases m <;> cases may
  | hook c =>
    cases p with
    | counted => cases c <;> cases may; exact .begun
    | started => cases c <;> cases may; exact .handled
    | serving => cases c <;> cases may <;> first | exact .midway rfl | exact .done _
    | unheard => cases c <;> cases may
    | ended => cases c <;> cases may
    | closed => cases c <;> cases may

/-- The phase behind some notes, if they may come in this order. -/
def after (p : Phase) (ns : List Note) : Option Phase := ns.foldlM next p

theorem after_append (p : Phase) (ns more : List Note) :
    p.after (ns ++ more) = (p.after ns).bind fun q => q.after more := List.foldlM_append

theorem next_serving {n : Note} (midway : n.isMidway) : serving.next n = some serving := by
  cases n with
  | log entry => rfl
  | metric m => cases m <;> first | rfl | cases midway
  | hook c => cases c <;> first | rfl | cases midway

theorem after_serving {ns : List Note} (midway : ∀ n ∈ ns, n.isMidway) :
    serving.after ns = some serving := by
  induction ns with
  | nil => rfl
  | cons n ns ih =>
    rw [after, List.foldlM_cons, next_serving (midway n List.mem_cons_self)]
    exact ih fun m member => midway m (List.mem_cons_of_mem n member)

end Phase

/-! ## Dialogues that follow the phases -/

/-- Whether a question is for a relay. -/
def Question.isRelay : Question → Bool
  | relay _ => true
  | _ => false

/-- The logic that keeps the phase: every note may come where it is told, and a relay is asked for
only in the midst of the service. -/
def phased : Logic Phase where
  tells n kept p := ∃ p', p.next n = some p' ∧ kept p'
  asks q kept p := (q.isRelay → p = .serving) ∧ ∀ a, kept a p
  tells_mono holds weaker :=
    let ⟨p', may, kept⟩ := holds
    ⟨p', may, weaker p' kept⟩
  asks_mono holds weaker := ⟨holds.1, fun a => weaker a _ (holds.2 a)⟩

namespace Dialogue

/-- The dialogue follows the phases. -/
abbrev Follows (ends : α → Phase → Prop) (d : Dialogue α) (p : Phase) : Prop :=
  d.Holds phased ends p

/-- A service that tells only what may be told midway may come in the midst. -/
theorem TellsMidway.follows {d : Dialogue α} (midway : d.TellsMidway) :
    d.Follows (fun _ p => p = .serving) .serving := by
  refine holds_of_within midway ?_ ?_ rfl
  · rintro n _ may rfl
    exact ⟨.serving, Phase.next_serving may, rfl⟩
  · rintro q _ - rfl
    exact ⟨fun _ => rfl, fun _ => rfl⟩

theorem follows_note {n : Note} {p : Phase} (p' : Phase) (may : p.next n = some p') :
    (note n).Follows (fun _ q => q = p') p := ⟨p', may, rfl⟩

theorem follows_announce (c : Context) (level : Observer.Level) (message : String) (p : Phase) :
    (c.announce level message).Follows (fun _ q => q = p) p := by
  refine (Context.holds_announce fun entry kept => ?_).mpr rfl
  change (∃ p', p.next (.log entry) = some p' ∧ kept p') ↔ kept p
  simp

end Dialogue

open Dialogue (follows_announce follows_note)

/-! ## Attending a connection -/

theorem follows_opening (c : Context) :
    (opening c).Follows (fun _ p => p = .serving) .unheard := by
  apply (follows_note .counted rfl).bind
  rintro _ _ rfl
  apply (follows_announce ..).bind
  rintro _ _ rfl
  apply (follows_note .started rfl).bind
  rintro _ _ rfl
  exact follows_note _ rfl

theorem follows_failure (c : Context) (o : Outcome) :
    (failure c o).Follows (fun _ p => p = .serving) .serving := by
  rw [failure]
  cases o.fault with
  | none => rfl
  | some f =>
    apply (follows_announce ..).bind
    rintro _ _ rfl
    exact follows_note _ rfl

theorem follows_closeQuietly : closeQuietly.Follows (fun _ p => p = .serving) .serving := by
  refine ⟨nofun, fun a => ?_⟩
  cases a with
  | ok => rfl
  | error e => exact follows_note _ rfl

/-- The connection has been counted off under the words for its outcome. -/
def CountedOff (o : Outcome) (p : Phase) : Prop := p = .closed (o.protocolName "none") o.label

theorem follows_ending (c : Context) (o : Outcome) :
    (ending c o).Follows (fun _ p => CountedOff o p) .serving := by
  refine ⟨nofun, fun micros => ?_⟩
  apply (follows_note .ended rfl).bind
  rintro _ _ rfl
  apply (follows_note _ rfl).bind
  rintro _ _ rfl
  exact follows_announce ..

/-- **Attending a connection goes through the phases**, whatever serves it, as long as the service
tells only what may be told midway; and it is counted off under the words for its outcome. -/
theorem follows_attendWith (c : Context) {service : Dialogue Outcome}
    (midway : service.TellsMidway) :
    (attendWith c service).Follows CountedOff .unheard := by
  apply (follows_opening c).bind
  rintro _ _ rfl
  apply midway.follows.bind
  rintro o _ rfl
  apply (follows_failure c o).bind
  rintro _ _ rfl
  apply follows_closeQuietly.bind
  rintro _ _ rfl
  apply (follows_ending c o).bind
  intro _ _ countedOff
  exact countedOff

theorem follows_attendCaught (panic : Option Nat) (c : Context) :
    (attendCaught panic c).Follows CountedOff .unheard :=
  follows_attendWith c (tellsMidway_dispatchCaught panic c)

end Wiretap.Session
