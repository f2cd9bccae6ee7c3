import Mathlib.Data.List.Induction
import Wiretap.Proofs.Observer.Totals
import Wiretap.Proofs.Session.Chronicle
import Wiretap.Proofs.WebSocket.Pumping
import Wiretap.Session.Ensemble

/-!
# What observers are told of a pump

A pump captures the payload of every data message and counts its length before it gives the message
away.  So what an executor of hooks is called with (`calls_recorded`), what is added to the total of
one direction (`total_recorded`) and what is given describe the same messages, wherever the pump
stops and whatever is refused (`pump_conveys_same_messages`).
-/

namespace Wiretap.Session

set_option autoImplicit false

open Observer (Direction Executor HookCall Metric)
open WebSocket (CutAtRefusal Item Pump PumpAction Unfolds captures contents counted course
  course_shows cutAtRefusal dataAhead farewell? getLast?_lastActions lastActions refusal?
  upToRefused)

/-- The total of the bytes that messages carry one way. -/
def messageSeries (d : Direction) : String :=
  Metric.series "capture_relayed_bytes_total" [("direction", d.name), ("protocol", "websocket")]

/-- What observers have of a pump that has done something. -/
def recorded (executor : Option Executor) (c : Context) (d : Direction) (did : List PumpAction) :
    Record :=
  (did.filterMap fun a => relayNote c ⟨d, a⟩).foldl (Record.note executor c.peer) {}

section

variable (executor : Option Executor) (c : Context) (d : Direction)

theorem recorded_concat (did : List PumpAction) (a : PumpAction) :
    recorded executor c d (did ++ [a]) =
      (relayNote c ⟨d, a⟩).toList.foldl (Record.note executor c.peer)
        (recorded executor c d did) := by
  rw [recorded, List.filterMap_append, List.foldl_append]
  rfl

/-- **An executor is called with every payload that is captured**, but for empty ones. -/
theorem calls_recorded (executor : Executor) (did : List PumpAction) :
    (recorded (some executor) c d did).calls =
      ((captures did).filter (!·.isEmpty)).map (HookCall.packet d) := by
  induction did using List.reverseRecOn with
  | nil => rfl
  | append_singleton did a ih =>
    rw [recorded_concat, WebSocket.captures_append, List.filter_append, List.map_append, ← ih]
    cases a with
    | capture data =>
      refine (Record.calls_hook executor c.peer _ (.packet d data)).trans ?_
      cases data <;> rfl
    | count n | give m | takeFailed why | giveFailed why | close => exact (List.append_nil _).symm

/-- What is counted does not depend on calls of an executor. -/
theorem counted_hook (r : Record) (call : HookCall) :
    (r.note executor c.peer (.hook call)).counted = r.counted := by
  cases executor <;> rfl

/-- **The total is what is counted.** -/
theorem total_recorded (did : List PumpAction) :
    Metric.total (Metric.totals (recorded executor c d did).counted) (messageSeries d) =
      counted did := by
  rw [Metric.total_totals]
  induction did using List.reverseRecOn with
  | nil => rfl
  | append_singleton did a ih =>
    rw [recorded_concat, WebSocket.counted_append]
    push_cast
    rw [← ih]
    cases a with
    | count n =>
      have one : Metric.shares (messageSeries d)
          (Metric.changes (.relayed Protocol.webSocket.name d n)) = (n : Int) := by
        simp [Metric.changes, Metric.shares, Metric.share, messageSeries, Protocol.name]
      change Metric.shares _ (List.flatMap _ (_ ++ [_])) = _
      rw [List.flatMap_append, Metric.shares_append, List.flatMap_singleton, one]
      rfl
    | capture data =>
      have same := counted_hook executor c (recorded executor c d did) (.packet d data)
      exact (congrArg _ (congrArg _ same)).trans (Int.add_zero _).symm
    | give m | takeFailed why | giveFailed why | close => exact (Int.add_zero _).symm

end

/-! ## The same messages -/

/-- What a pump has come to that has given just these data messages, and then perhaps a close
message. -/
structure ConveysAlike (c : Context) (d : Direction) (sent : List WebSocket.Message)
    (farewell : Option WebSocket.Message) (p : Pump) (did : List PumpAction) : Prop where
  given : did.filterMap WebSocket.PumpAction.given? = sent ++ farewell.toList
  shown : ∀ executor : Executor, (recorded (some executor) c d did).calls =
    ((contents sent).filter (!·.isEmpty)).map (HookCall.packet d)
  total : ∀ executor : Option Executor,
    Metric.total (Metric.totals (recorded executor c d did).counted) (messageSeries d) =
      (contents sent).flatten.length
  reported : p.relayed = (contents sent).flatten.length

variable {c : Context} {d : Direction} {refuses : Nat → Option String} {items left : List Item}
  {es : List WebSocket.PumpEvent} {k : Nat} {p : Pump} {did : List PumpAction}

/-- A pump that has done its course has conveyed the messages alike. -/
theorem conveysAlike_of_course (reports : p.relayed = counted did)
    (whole : did = course refuses 0 items) :
    ConveysAlike c d (upToRefused refuses 0 (dataAhead items))
      (farewell? (refusal? refuses 0 (dataAhead items)) (items.find? Item.stops)) p did := by
  obtain ⟨given, captured, sum, _⟩ := course_shows refuses 0 items
  subst whole
  refine ⟨given, fun executor => ?_, fun executor => ?_, reports.trans sum⟩
  · rw [calls_recorded, captured]
  · rw [total_recorded, sum]

/-- **A pump gives, captures and counts the same messages.**  Whatever items come and whatever
messages are refused, a pump has done a first part of its course, and can go on until it rests.  Then
it has given the data messages in front of the first item that stops it, up to the first that is
refused, each captured and counted right before it was given; a close message that stopped it follows
as it came, and nothing else.  An executor was called with the payloads that are not empty, and the
total and the length that is reported are those of all of them.  If something stopped the pump, it
has closed the other side once, at last. -/
theorem pump_conveys_same_messages (c : Context) (d : Direction)
    (unfolds : Unfolds refuses 0 items es k left) (ran : ({} : Pump).run es = some (p, did)) :
    p.CanRest refuses k left ∧ did <+: course refuses 0 items ∧
    let sent := upToRefused refuses 0 (dataAhead items)
    let refusal := refusal? refuses 0 (dataAhead items)
    let stopper := items.find? Item.stops
    CutAtRefusal refuses 0 (dataAhead items) sent refusal ∧
    (p.Rests left →
      did = sent.flatMap WebSocket.Message.crossing ++ lastActions refusal stopper ∧
      ConveysAlike c d sent (farewell? refusal stopper) p did ∧
      (p.phase = .done ↔ refusal.isSome ∨ stopper.isSome) ∧
      (p.phase = .done → did.getLast? = some .close ∧ did.count .close = 1)) := by
  have course_eq : course refuses 0 items = did ++ p.outlook refuses k left :=
    Pump.outlook_of_run unfolds ran
  obtain ⟨reports, closes⟩ := Pump.counts_of_run ran
  refine ⟨p.canRest k left, ⟨_, course_eq.symm⟩, cutAtRefusal 0 _, fun rests => ?_⟩
  have whole : did = course refuses 0 items := by
    rw [course_eq, rests.outlook_eq, List.append_nil]
  have reported : p.relayed = counted did := reports.trans (Nat.zero_add _)
  have stopped : p.isClosing = ((refusal? refuses 0 (dataAhead items)).isSome ||
      (items.find? Item.stops).isSome) := by
    have once := (course_shows refuses 0 items).2.2.2
    rw [← whole] at once
    have injective : ∀ a b : Bool, a.toNat = b.toNat → a = b := by decide
    exact injective _ _ ((closes.trans (Nat.zero_add _)).trans once)
  have done_iff : p.phase = .done ↔ (refusal? refuses 0 (dataAhead items)).isSome ∨
      (items.find? Item.stops).isSome := by
    rw [← rests.isClosing_iff, stopped, Bool.or_eq_true]
  refine ⟨whole, conveysAlike_of_course reported whole, done_iff, fun done => ⟨?_, ?_⟩⟩
  · have last := getLast?_lastActions (done_iff.mp done)
    rw [whole, course, List.getLast?_append, last]
    rfl
  · have closing : p.isClosing = true := rests.isClosing_iff.mpr done
    rw [closing] at closes
    exact (closes.trans (Nat.zero_add _)).symm

/-- A close message behind data, a ping and an empty payload: it is passed on as it came, and what
follows it is not taken. -/
theorem pump_conveys_up_to_close :
    let c : Context := ⟨{}, ⟨7, "127.0.0.1:9"⟩⟩
    let goodbye : WebSocket.Message := .close (some (1000, Bytes.ascii "bye"))
    let items : List Item := [.message (.text (Bytes.ascii "ab")), .message (.ping [1]),
      .message (.binary []), .message (.text (Bytes.ascii "c")), .message goodbye,
      .message (.text (Bytes.ascii "late"))]
    let es : List WebSocket.PumpEvent := [.took (.message (.text (Bytes.ascii "ab"))), .gave none,
      .took (.message (.ping [1])), .took (.message (.binary [])), .gave none,
      .took (.message (.text (Bytes.ascii "c"))), .gave none, .took (.message goodbye), .gave none,
      .closed]
    let did : List PumpAction := [
      .capture (Bytes.ascii "ab"), .count 2, .give (.text (Bytes.ascii "ab")),
      .capture [], .count 0, .give (.binary []),
      .capture (Bytes.ascii "c"), .count 1, .give (.text (Bytes.ascii "c")),
      .give goodbye, .close]
    Unfolds (fun _ => none) 0 items es 4 [.message (.text (Bytes.ascii "late"))] ∧
      ({} : Pump).run es = some (⟨.done, 3⟩, did) ∧
      ConveysAlike c .outbound [.text (Bytes.ascii "ab"), .binary [], .text (Bytes.ascii "c")]
        (some goodbye) ⟨.done, 3⟩ did := by
  intro c goodbye items es did
  have unfolds : Unfolds (fun _ => none) 0 items es 4 [.message (.text (Bytes.ascii "late"))] :=
    .took (.gave (.took (.took (.gave (.took (.gave (.took (.gave (.closed (.none _ _))))))))))
  have ran : ({} : Pump).run es = some (⟨.done, 3⟩, did) := by decide +kernel
  obtain ⟨_, _, _, rested⟩ := pump_conveys_same_messages c .outbound unfolds ran
  obtain ⟨_, alike, _⟩ := rested (.inl rfl)
  exact ⟨unfolds, ran, alike⟩

end Wiretap.Session
