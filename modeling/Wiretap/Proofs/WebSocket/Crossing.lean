import Mathlib.Tactic.Common
import Wiretap.WebSocket.Relay

/-!
# Messages that cross a relay

A pump gives away just the data messages that it takes, in their order, and captures the payload of
each (`Pump.gives_of_step`).  So at any moment one direction of a relay has given what it has taken,
but for pings, pongs and the end, and has captured that (`Leg.Level`); what has arrived is a first
part of it.

A relay that can return is over in both directions (`Relay.over_of_result`): neither pump takes
another step, and nothing is done any more (`Relay.still_of_result`).
-/

namespace Wiretap.WebSocket

set_option autoImplicit false

open Observer (Direction)

/-! ## Data messages -/

/-- The texts and the binary messages among some messages. -/
def dataMessages (ms : List Message) : List Message := ms.filter (·.data?.isSome)

/-- The payloads of the data messages. -/
def contents (ms : List Message) : List Bytes := ms.filterMap Message.data?

/-- What is captured by some actions. -/
def captures (actions : List PumpAction) : List Bytes :=
  actions.filterMap fun
    | .capture data => some data
    | _ => none

theorem contents_dataMessages (ms : List Message) : contents (dataMessages ms) = contents ms := by
  induction ms with
  | nil => rfl
  | cons m ms ih =>
    cases m with
    | text data => exact congrArg (data :: ·) ih
    | binary data => exact congrArg (data :: ·) ih
    | ping data => exact ih
    | pong data => exact ih
    | close frame => exact ih

/-! ## One direction -/

namespace Pump

/-- **What a pump takes it captures and gives, if it is data.** -/
theorem gives_of_step {p p' : Pump} {e : PumpEvent} {actions : List PumpAction}
    (went : p.step e = some (p', actions)) :
    dataMessages (actions.filterMap PumpAction.given?) = dataMessages e.taken?.toList ∧
      captures actions = contents e.taken?.toList := by
  obtain ⟨phase, relayed⟩ := p
  cases phase with
  | taking =>
    cases e with
    | took item =>
      cases item with
      | message m => cases m <;> cases went <;> exact ⟨rfl, rfl⟩
      | failed why => cases went; exact ⟨rfl, rfl⟩
      | ended => cases went; exact ⟨rfl, rfl⟩
    | gave failure => cases went
    | closed => cases went
  | giving =>
    cases e with
    | gave failure => cases failure <;> cases went <;> exact ⟨rfl, rfl⟩
    | took item => cases went
    | closed => cases went
  | givingClose =>
    cases e with
    | gave failure => cases went; exact ⟨rfl, rfl⟩
    | took item => cases went
    | closed => cases went
  | closing =>
    cases e with
    | closed => cases went; exact ⟨rfl, rfl⟩
    | took item => cases went
    | gave failure => cases went
  | done => cases went

theorem step_of_done {p : Pump} (done : p.phase = .done) (e : PumpEvent) : p.step e = none := by
  obtain ⟨phase, relayed⟩ := p
  cases done
  rfl

end Pump

namespace Leg

variable {l l' : Leg} {e : LegEvent} {actions : List PumpAction}

theorem advance_of_over (ended : l.isOver) (e : PumpEvent) : l.advance e = none := by
  rw [isOver, Bool.or_eq_true, bne_iff_ne, beq_iff_eq] at ended
  rw [advance]
  cases task : l.task with
  | running =>
    obtain other | done := ended
    · exact absurd task other
    · dsimp only
      rw [Pump.step_of_done done]
      rfl
  | crashed => rfl
  | stopped => rfl

/-- A task that is over stays so and does nothing. -/
theorem still_of_over (ended : l.isOver) (went : l.step e = some (l', actions)) :
    actions = [] ∧ l'.isOver := by
  cases e with
  | pump e =>
    rw [step, advance_of_over ended] at went
    cases went
  | arrived =>
    obtain ⟨_, ⟨⟩⟩ := Option.ite_none_right_eq_some.mp went
    exact ⟨rfl, ended⟩
  | crashed =>
    rw [step, if_pos ended] at went
    cases went
  | stopped =>
    rw [step, ended, Bool.not_true, Bool.and_false] at went
    cases went

/-- What has been taken, but for pings, pongs and the end, has been given and captured. -/
structure Level (l : Leg) (captured : List Bytes) : Prop where
  given : dataMessages l.given = dataMessages l.taken
  captured : captured = contents l.taken

theorem level_start : Level {} [] := ⟨rfl, rfl⟩

theorem level_step {captured : List Bytes} (level : l.Level captured)
    (went : l.step e = some (l', actions)) : l'.Level (captured ++ captures actions) := by
  have same (taken : l'.taken = l.taken) (given : l'.given = l.given) (none : actions = []) :
      l'.Level (captured ++ captures actions) := by
    rw [none]
    constructor
    · rw [taken, given, level.given]
    · rw [taken, level.captured]
      exact List.append_nil _
  cases e with
  | pump e =>
    rw [step, advance] at went
    split at went
    · obtain ⟨⟨pump, did⟩, moved, ⟨⟩⟩ := Option.map_eq_some_iff.mp went
      obtain ⟨gives, catches⟩ := Pump.gives_of_step moved
      constructor
      · change dataMessages (l.given ++ _) = dataMessages (l.taken ++ _)
        rw [dataMessages, List.filter_append, ← dataMessages, ← dataMessages, level.given, gives]
        exact (List.filter_append ..).symm
      · change captured ++ captures actions = contents (l.taken ++ _)
        rw [catches, level.captured]
        exact (List.filterMap_append ..).symm
    · cases went
  | arrived =>
    obtain ⟨_, ⟨⟩⟩ := Option.ite_none_right_eq_some.mp went
    exact same rfl rfl rfl
  | crashed =>
    obtain ⟨_, ⟨⟩⟩ := Option.ite_none_left_eq_some.mp went
    exact same rfl rfl rfl
  | stopped =>
    obtain ⟨_, ⟨⟩⟩ := Option.ite_none_right_eq_some.mp went
    exact same rfl rfl rfl

/-- What has arrived is a first part of what has been taken. -/
theorem Level.delivered {captured : List Bytes} (level : l.Level captured) :
    dataMessages l.delivered <+: dataMessages l.taken := by
  rw [← level.given]
  exact (List.take_prefix _ _).filter _

/-- What has arrived has been captured. -/
theorem Level.delivered_captured {captured : List Bytes} (level : l.Level captured) :
    contents l.delivered <+: captured := by
  rw [level.captured, ← contents_dataMessages l.delivered, ← contents_dataMessages l.taken]
  exact level.delivered.filterMap _

end Leg

/-! ## Both directions -/

namespace Relay

variable {r r' : Relay} {e : RelayEvent} {actions : List RelayAction}

@[simp] theorem leg_setLeg_self (r : Relay) (d : Direction) (l : Leg) :
    (r.setLeg d l).leg d = l := by
  cases d <;> rfl

theorem leg_setLeg_ne (r : Relay) {d way : Direction} (l : Leg) (other : way ≠ d) :
    (r.setLeg d l).leg way = r.leg way := by
  cases d <;> cases way <;> first | rfl | exact absurd rfl other

@[simp] theorem finished_setLeg (r : Relay) (d : Direction) (l : Leg) :
    (r.setLeg d l).finished = r.finished := by
  cases d <;> rfl

/-- A direction that has been told to stop is as far as before. -/
theorem leg_cancel (r : Relay) (d way : Direction) :
    (r.cancel d).leg way = { r.leg way with
      cancelled := (r.leg way).cancelled || decide (way = d) } := by
  by_cases same : way = d
  · subst same
    rw [cancel, leg_setLeg_self]
    simp
  · rw [cancel, leg_setLeg_ne r _ same]
    simp [same]

/-- What an event does to a relay, where it can happen. -/
inductive Steps (r : Relay) : RelayEvent → Relay → List RelayAction → Prop where
  | leg {d : Direction} {e : LegEvent} {l : Leg} {did : List PumpAction}
    (went : (r.leg d).step e = some (l, did)) :
    r.Steps (.leg d e) (r.setLeg d l) (did.map (⟨d, ·⟩))
  | noticed {d : Direction} (unfinished : r.finished = none) (ended : (r.leg d).isOver) :
    r.Steps (.noticed d) ({ r with finished := some d }.cancel d.other) []

theorem steps_of_step (went : r.step e = some (r', actions)) : r.Steps e r' actions := by
  cases e with
  | leg d e =>
    obtain ⟨⟨l, did⟩, moved, ⟨⟩⟩ := Option.map_eq_some_iff.mp went
    exact .leg moved
  | noticed d =>
    obtain ⟨may, ⟨⟩⟩ := Option.ite_none_right_eq_some.mp went
    obtain ⟨unfinished, ended⟩ := Bool.and_eq_true_iff.mp may
    exact .noticed (Option.isNone_iff_eq_none.mp unfinished) ended

/-- The direction that ended the relay is over. -/
def Sound (r : Relay) : Prop := ∀ d, r.finished = some d → (r.leg d).isOver

theorem sound_start : Sound {} := nofun

/-- A direction that is over stays so, whatever happens to the relay. -/
theorem Steps.isOver {d : Direction} (steps : r.Steps e r' actions) (ended : (r.leg d).isOver) :
    (r'.leg d).isOver := by
  cases steps with
  | @leg way _ l _ went =>
    by_cases same : d = way
    · subst same
      rw [leg_setLeg_self]
      exact (Leg.still_of_over ended went).2
    · rwa [leg_setLeg_ne r l same]
  | noticed => rwa [leg_cancel]

theorem sound_step (sound : r.Sound) (steps : r.Steps e r' actions) : r'.Sound := by
  intro d finished
  apply steps.isOver
  cases steps with
  | leg went =>
    rw [finished_setLeg] at finished
    exact sound d finished
  | noticed unfinished ended =>
    rw [cancel, finished_setLeg] at finished
    cases finished
    exact ended

/-- **A relay that can return is over in both directions.** -/
theorem over_of_result (sound : r.Sound) (returns : r.result?.isSome) (d : Direction) :
    (r.leg d).isOver := by
  rw [result?] at returns
  cases finished : r.finished with
  | none =>
    rw [finished] at returns
    cases returns
  | some first =>
    rw [finished] at returns
    dsimp only at returns
    by_cases ended : (r.leg first.other).isOver
    · have firstEnded := sound first finished
      cases first <;> cases d <;> assumption
    · rw [if_neg ended] at returns
      cases returns

/-- Neither pump takes another step. -/
theorem pump_of_result (sound : r.Sound) (returns : r.result?.isSome) (d : Direction)
    (e : PumpEvent) : r.step (.leg d (.pump e)) = none := by
  rw [step, Leg.step, Leg.advance_of_over (over_of_result sound returns d)]
  rfl

/-- **A relay that can return does nothing any more, and can still return.** -/
theorem still_of_result (sound : r.Sound) (returns : r.result?.isSome)
    (steps : r.Steps e r' actions) : actions = [] ∧ r'.result?.isSome := by
  have overs : ∀ d, (r'.leg d).isOver := fun d => steps.isOver (over_of_result sound returns d)
  have over_returns {d : Direction} (finished : r'.finished = some d) : r'.result?.isSome := by
    rw [result?, finished]
    dsimp only
    rw [if_pos (overs d.other)]
    rfl
  cases finished : r.finished with
  | none =>
    rw [result?, finished] at returns
    cases returns
  | some first =>
    cases steps with
    | leg went =>
      obtain ⟨none, _⟩ := Leg.still_of_over (over_of_result sound returns _) went
      exact ⟨by rw [none]; rfl, over_returns ((finished_setLeg ..).trans finished)⟩
    | noticed unfinished =>
      rw [finished] at unfinished
      cases unfinished

end Relay

end Wiretap.WebSocket
