import Wiretap.Proofs.WebSocket.Crossing

/-!
# What a pump does from its start to its end

A pump stands between a side that items come from and a side that may refuse any message.  What these
two sides do settles everything that the pump does (`course`): it passes on the data messages in
front of the first item that stops it, up to the first that is refused, and then ends as the refusal
or that item tells it to.

Each event does the next part of this course, so a run has done a first part of it and has the rest
ahead (`Pump.outlook_of_run`).  Every run can go on until it rests (`Pump.canRest`), and then nothing
is left ahead.  The pump reports what it counts, and closes once (`Pump.counts_of_run`).
-/

namespace Wiretap.WebSocket

set_option autoImplicit false

/-! ## The two sides -/

namespace Item

/-- Whether nothing is taken behind the item: a close message, a failure or the end. -/
def stops : Item → Bool
  | .message (.close _) => true
  | .message _ => false
  | .failed _ => true
  | .ended => true

def message? : Item → Option Message
  | .message m => some m
  | _ => none

end Item

/-- The data messages in front of the first item that stops a pump. -/
def dataAhead (items : List Item) : List Message :=
  dataMessages ((items.takeWhile (!·.stops)).filterMap Item.message?)

/-- The messages up to the first that is refused, and that one.  Messages are refused by their
number, which is `k` for the first of them. -/
def upToRefused (refuses : Nat → Option String) : Nat → List Message → List Message
  | _, [] => []
  | k, m :: ms => m :: if (refuses k).isSome then [] else upToRefused refuses (k + 1) ms

/-- Why the first message is refused that is. -/
def refusal? (refuses : Nat → Option String) : Nat → List Message → Option String
  | _, [] => none
  | k, _ :: ms => (refuses k).or (refusal? refuses (k + 1) ms)

/-- The messages that are given of some, where the first has number `k`: up to the one that is
refused if one is, and otherwise all. -/
structure CutAtRefusal (refuses : Nat → Option String) (k : Nat) (ms sent : List Message)
    (refusal : Option String) : Prop where
  firstPart : sent <+: ms
  accepted : ∀ i, i + 1 < sent.length → refuses (k + i) = none
  whole : refusal = none → sent = ms ∧ ∀ i < sent.length, refuses (k + i) = none
  refused : ∀ why, refusal = some why →
    ∃ i, sent.length = i + 1 ∧ refuses (k + i) = some why

variable {refuses : Nat → Option String} {k : Nat}

theorem CutAtRefusal.here {m : Message} {ms : List Message} {why : String}
    (refused : refuses k = some why) : CutAtRefusal refuses k (m :: ms) [m] (some why) where
  firstPart := List.prefix_cons_inj m |>.mpr List.nil_prefix
  accepted i before := by simp at before
  whole := nofun
  refused := by
    rintro _ ⟨⟩
    exact ⟨0, rfl, refused⟩

theorem CutAtRefusal.later {m : Message} {ms sent : List Message} {refusal : Option String}
    (accepted : refuses k = none) (cut : CutAtRefusal refuses (k + 1) ms sent refusal) :
    CutAtRefusal refuses k (m :: ms) (m :: sent) refusal := by
  have shift (i : Nat) : refuses (k + (i + 1)) = refuses (k + 1 + i) := by
    rw [Nat.add_right_comm, Nat.add_assoc]
  refine ⟨(List.prefix_cons_inj m).mpr cut.firstPart, fun i before => ?_, fun none => ?_,
    fun why is => ?_⟩
  · cases i with
    | zero => exact accepted
    | succ i =>
      rw [shift]
      exact cut.accepted i (by simpa using before)
  · obtain ⟨rfl, all⟩ := cut.whole none
    refine ⟨rfl, fun i within => ?_⟩
    cases i with
    | zero => exact accepted
    | succ i =>
      rw [shift]
      exact all i (by simpa using within)
  · obtain ⟨i, last, refused⟩ := cut.refused why is
    exact ⟨i + 1, congrArg (· + 1) last, (shift i).trans refused⟩

theorem cutAtRefusal (k : Nat) (ms : List Message) :
    CutAtRefusal refuses k ms (upToRefused refuses k ms) (refusal? refuses k ms) := by
  induction ms generalizing k with
  | nil => exact ⟨List.nil_prefix, nofun, fun _ => ⟨rfl, nofun⟩, nofun⟩
  | cons m ms ih =>
    rw [upToRefused, refusal?]
    cases answer : refuses k with
    | none => exact .later answer (ih (k + 1))
    | some why => exact .here answer

/-! ## The course of a pump -/

/-- What a pump does with a data message. -/
def Message.crossing (m : Message) : List PumpAction :=
  match m.data? with
  | some data => [.capture data, .count data.length, .give m]
  | none => []

/-- What a pump does at its end, for a message that was refused, or else for the item that stopped
it. -/
def lastActions : Option String → Option Item → List PumpAction
  | some why, _ => [.giveFailed why, .close]
  | none, some (.message m) => [.give m, .close]
  | none, some (.failed why) => [.takeFailed why, .close]
  | none, some .ended => [.close]
  | none, none => []

/-- Everything that a pump does with the items, when `k` messages have been given before. -/
def course (refuses : Nat → Option String) (k : Nat) (items : List Item) : List PumpAction :=
  (upToRefused refuses k (dataAhead items)).flatMap Message.crossing ++
    lastActions (refusal? refuses k (dataAhead items)) (items.find? Item.stops)

/-- What a pump does behind a message that it gave, if that is not refused, or if it is. -/
def afterGiving (refuses : Nat → Option String) (k : Nat) (items : List Item) : List PumpAction :=
  match refuses k with
  | none => course refuses (k + 1) items
  | some why => [.giveFailed why, .close]

variable {items : List Item} {item : Item} {m : Message}

theorem course_of_stops (stops : item.stops) :
    course refuses k (item :: items) = lastActions none (some item) := by
  simp [course, dataAhead, dataMessages, upToRefused, refusal?, stops]

theorem course_of_other (other : m.data? = none) (goesOn : (Item.message m).stops = false) :
    course refuses k (.message m :: items) = course refuses k items := by
  simp [course, dataAhead, dataMessages, goesOn, other, Item.message?]

theorem stops_of_data {data : Bytes} (isData : m.data? = some data) :
    (Item.message m).stops = false := by
  cases m <;> first | rfl | cases isData

theorem course_of_data {data : Bytes} (isData : m.data? = some data) :
    course refuses k (.message m :: items) = m.crossing ++ afterGiving refuses k items := by
  have goesOn := stops_of_data isData
  have first : dataAhead (.message m :: items) = m :: dataAhead items := by
    simp [dataAhead, dataMessages, goesOn, isData, Item.message?]
  rw [course, first, upToRefused, refusal?, afterGiving, List.flatMap_cons, List.append_assoc]
  refine congrArg (m.crossing ++ ·) ?_
  cases refuses k with
  | none => simp [course, goesOn]
  | some why => simp [lastActions]

/-! ## What a course shows -/

/-- The number of bytes that are counted by some actions. -/
def counted : List PumpAction → Nat
  | [] => 0
  | .count n :: actions => n + counted actions
  | _ :: actions => counted actions

theorem counted_append (actions more : List PumpAction) :
    counted (actions ++ more) = counted actions + counted more := by
  induction actions with
  | nil => simp [counted]
  | cons a actions ih => cases a <;> simp [counted, ih, Nat.add_assoc]

theorem captures_append (actions more : List PumpAction) :
    captures (actions ++ more) = captures actions ++ captures more :=
  List.filterMap_append

/-- The close message that is passed on: the one that stopped the pump, if no message was refused
before. -/
def farewell? : Option String → Option Item → Option Message
  | none, some (.message m) => some m
  | _, _ => none

/-- **Data messages are given, captured and counted alike.** -/
theorem crossing_shows (ms : List Message) :
    (ms.flatMap Message.crossing).filterMap PumpAction.given? = dataMessages ms ∧
      captures (ms.flatMap Message.crossing) = contents ms ∧
      counted (ms.flatMap Message.crossing) = (contents ms).flatten.length ∧
      (ms.flatMap Message.crossing).count .close = 0 := by
  induction ms with
  | nil => exact ⟨rfl, rfl, rfl, rfl⟩
  | cons m ms ih =>
    obtain ⟨given, captured, sum, unclosed⟩ := ih
    rw [List.flatMap_cons, List.filterMap_append, captures_append, counted_append,
      List.count_append, given, captured, sum, unclosed]
    cases m with
    | text data | binary data => exact ⟨rfl, rfl, List.length_append.symm, rfl⟩
    | ping data | pong data | close frame => exact ⟨rfl, rfl, Nat.zero_add _, rfl⟩

/-- At its end a pump captures and counts nothing, and closes if anything ends it. -/
theorem lastActions_shows (refusal : Option String) (stopper : Option Item) :
    (lastActions refusal stopper).filterMap PumpAction.given? = (farewell? refusal stopper).toList ∧
      captures (lastActions refusal stopper) = [] ∧ counted (lastActions refusal stopper) = 0 ∧
      (lastActions refusal stopper).count .close = (refusal.isSome || stopper.isSome).toNat := by
  cases refusal with
  | some why => exact ⟨rfl, rfl, rfl, rfl⟩
  | none =>
    cases stopper with
    | none => exact ⟨rfl, rfl, rfl, rfl⟩
    | some item => cases item <;> exact ⟨rfl, rfl, rfl, rfl⟩

/-- If anything ends a pump, it closes at last. -/
theorem getLast?_lastActions {refusal : Option String} {stopper : Option Item}
    (ends : refusal.isSome ∨ stopper.isSome) :
    (lastActions refusal stopper).getLast? = some .close := by
  cases refusal with
  | some why => rfl
  | none =>
    cases stopper with
    | none => simp at ends
    | some item => cases item <;> rfl

/-- Only data messages are given before the end. -/
theorem dataMessages_upToRefused (k : Nat) (items : List Item) :
    dataMessages (upToRefused refuses k (dataAhead items)) =
      upToRefused refuses k (dataAhead items) := by
  refine List.filter_eq_self.mpr fun m member => ?_
  have ahead : m ∈ dataAhead items := (cutAtRefusal k _).firstPart.subset member
  exact (List.mem_filter.mp ahead).2

/-- **A course gives, captures and counts the same messages.** -/
theorem course_shows (refuses : Nat → Option String) (k : Nat) (items : List Item) :
    let sent := upToRefused refuses k (dataAhead items)
    let refusal := refusal? refuses k (dataAhead items)
    let stopper := items.find? Item.stops
    (course refuses k items).filterMap PumpAction.given? =
        sent ++ (farewell? refusal stopper).toList ∧
      captures (course refuses k items) = contents sent ∧
      counted (course refuses k items) = (contents sent).flatten.length ∧
      (course refuses k items).count .close = (refusal.isSome || stopper.isSome).toNat := by
  intro sent refusal stopper
  obtain ⟨given, captured, sum, unclosed⟩ := crossing_shows sent
  obtain ⟨givenLast, capturedLast, sumLast, closed⟩ := lastActions_shows refusal stopper
  have data : dataMessages sent = sent := dataMessages_upToRefused k items
  refine ⟨?_, ?_, ?_, ?_⟩
  · rw [course, List.filterMap_append, given, givenLast, data]
  · rw [course, captures_append, captured, capturedLast, List.append_nil]
  · rw [course, counted_append, sum, sumLast, Nat.add_zero]
  · rw [course, List.count_append, unclosed, closed, Nat.zero_add]

/-! ## Runs -/

/-- Some events happen to a pump as the two sides make them, of which `k` messages were given and the
items are to come before, and `k'` and `left` behind. -/
inductive Unfolds (refuses : Nat → Option String) :
    Nat → List Item → List PumpEvent → Nat → List Item → Prop where
  | none (k : Nat) (items : List Item) : Unfolds refuses k items [] k items
  | took {k k' : Nat} {item : Item} {items left : List Item} {es : List PumpEvent}
    (more : Unfolds refuses k items es k' left) :
    Unfolds refuses k (item :: items) (.took item :: es) k' left
  | gave {k k' : Nat} {items left : List Item} {es : List PumpEvent}
    (more : Unfolds refuses (k + 1) items es k' left) :
    Unfolds refuses k items (.gave (refuses k) :: es) k' left
  | closed {k k' : Nat} {items left : List Item} {es : List PumpEvent}
    (more : Unfolds refuses k items es k' left) :
    Unfolds refuses k items (.closed :: es) k' left

namespace Pump

variable {p p' : Pump} {k' : Nat} {left : List Item} {e : PumpEvent} {es : List PumpEvent}
  {did : List PumpAction}

/-- What happens to a pump one event after the other, if it can happen, and what the pump does. -/
def run (p : Pump) : List PumpEvent → Option (Pump × List PumpAction)
  | [] => some (p, [])
  | e :: es => (p.step e).bind fun first =>
      (first.1.run es).map fun more => (more.1, first.2 ++ more.2)

theorem run_cons_cases (ran : p.run (e :: es) = some (p', did)) :
    ∃ q first more, p.step e = some (q, first) ∧ q.run es = some (p', more) ∧
      did = first ++ more := by
  obtain ⟨⟨q, first⟩, went, behind⟩ := Option.bind_eq_some_iff.mp ran
  obtain ⟨⟨_, more⟩, onward, ⟨⟩⟩ := Option.map_eq_some_iff.mp behind
  exact ⟨q, first, more, went, onward, rfl⟩

/-- What a pump still does. -/
def outlook (refuses : Nat → Option String) (k : Nat) (items : List Item) (p : Pump) :
    List PumpAction :=
  match p.phase with
  | .taking => course refuses k items
  | .giving => afterGiving refuses k items
  | .givingClose => [.close]
  | .closing => []
  | .done => []

/-- An item is met with the next part of the course. -/
theorem outlook_of_took (went : p.step (.took item) = some (p', did)) :
    p.outlook refuses k (item :: items) = did ++ p'.outlook refuses k items := by
  obtain ⟨phase, relayed⟩ := p
  cases phase with
  | taking =>
    cases item with
    | message m =>
      cases m with
      | text data | binary data => cases went; exact course_of_data rfl
      | ping data | pong data => cases went; exact course_of_other rfl rfl
      | close frame => cases went; exact course_of_stops rfl
    | failed why => cases went; exact course_of_stops rfl
    | ended => cases went; exact course_of_stops rfl
  | giving | givingClose | closing | done => cases went

/-- So is the answer to a message. -/
theorem outlook_of_gave (went : p.step (.gave (refuses k)) = some (p', did)) :
    p.outlook refuses k items = did ++ p'.outlook refuses (k + 1) items := by
  obtain ⟨phase, relayed⟩ := p
  cases phase with
  | giving =>
    rw [outlook, afterGiving]
    cases answer : refuses k with
    | none =>
      rw [answer] at went
      cases went
      rfl
    | some why =>
      rw [answer] at went
      cases went
      rfl
  | givingClose => cases went; rfl
  | taking | closing | done => cases went

theorem outlook_of_closed (went : p.step .closed = some (p', did)) :
    p.outlook refuses k items = did ++ p'.outlook refuses k items := by
  obtain ⟨phase, relayed⟩ := p
  cases phase with
  | closing => cases went; rfl
  | taking | giving | givingClose | done => cases went

/-- **What a pump does in a run is the next part of its course.** -/
theorem outlook_of_run (unfolds : Unfolds refuses k items es k' left)
    (ran : p.run es = some (p', did)) :
    p.outlook refuses k items = did ++ p'.outlook refuses k' left := by
  induction unfolds generalizing p did with
  | none k items =>
    cases ran
    rfl
  | took _ ih =>
    obtain ⟨q, first, more, went, onward, rfl⟩ := run_cons_cases ran
    rw [List.append_assoc, ← ih onward]
    exact outlook_of_took went
  | gave _ ih =>
    obtain ⟨q, first, more, went, onward, rfl⟩ := run_cons_cases ran
    rw [List.append_assoc, ← ih onward]
    exact outlook_of_gave went
  | closed _ ih =>
    obtain ⟨q, first, more, went, onward, rfl⟩ := run_cons_cases ran
    rw [List.append_assoc, ← ih onward]
    exact outlook_of_closed went

/-! ## Counting and closing -/

/-- Whether the other side is closed, or about to be. -/
def isClosing (p : Pump) : Bool := p.phase == .closing || p.phase == .done

/-- What a step counts it adds to what is reported, and it closes if nothing has closed before. -/
theorem counts_of_step (went : p.step e = some (p', did)) :
    p'.relayed = p.relayed + counted did ∧
      p'.isClosing.toNat = p.isClosing.toNat + did.count .close := by
  obtain ⟨phase, relayed⟩ := p
  cases phase with
  | taking =>
    cases e with
    | took item =>
      cases item with
      | message m => cases m <;> cases went <;> exact ⟨rfl, rfl⟩
      | failed why => cases went; exact ⟨rfl, rfl⟩
      | ended => cases went; exact ⟨rfl, rfl⟩
    | gave failure | closed => cases went
  | giving =>
    cases e with
    | gave failure => cases failure <;> cases went <;> exact ⟨rfl, rfl⟩
    | took item | closed => cases went
  | givingClose =>
    cases e with
    | gave failure => cases went; exact ⟨rfl, rfl⟩
    | took item | closed => cases went
  | closing =>
    cases e with
    | closed => cases went; exact ⟨rfl, rfl⟩
    | took item | gave failure => cases went
  | done => cases went

/-- **A pump reports what it has counted, and closes once.** -/
theorem counts_of_run (ran : p.run es = some (p', did)) :
    p'.relayed = p.relayed + counted did ∧
      p'.isClosing.toNat = p.isClosing.toNat + did.count .close := by
  induction es generalizing p did with
  | nil =>
    cases ran
    exact ⟨rfl, rfl⟩
  | cons e es ih =>
    obtain ⟨q, first, more, went, onward, rfl⟩ := run_cons_cases ran
    obtain ⟨reports, closes⟩ := counts_of_step went
    obtain ⟨reportsMore, closesMore⟩ := ih onward
    rw [counted_append, List.count_append]
    omega

/-! ## Resting -/

/-- Nothing more happens to the pump: it is done, or waits for an item, and none is to come. -/
def Rests (p : Pump) (left : List Item) : Prop := p.phase = .done ∨ p.phase = .taking ∧ left = []

/-- Nothing is ahead of a pump that rests. -/
theorem Rests.outlook_eq (rests : p.Rests left) : p.outlook refuses k left = [] := by
  obtain done | ⟨taking, rfl⟩ := rests
  · rw [outlook, done]
  · rw [outlook, taking]
    rfl

/-- A pump that rests has closed the other side, or goes on waiting. -/
theorem Rests.isClosing_iff (rests : p.Rests left) : p.isClosing ↔ p.phase = .done := by
  obtain done | ⟨taking, _⟩ := rests
  · simp [isClosing, done]
  · simp [isClosing, taking]

/-- A pump can go on until it rests. -/
def CanRest (refuses : Nat → Option String) (k : Nat) (items : List Item) (p : Pump) : Prop :=
  ∃ es k' left p' did, Unfolds refuses k items es k' left ∧ p.run es = some (p', did) ∧ p'.Rests left

variable {q : Pump} {first : List PumpAction}

theorem CanRest.now (rests : p.Rests items) : CanRest refuses k items p :=
  ⟨[], k, items, p, [], .none k items, rfl, rests⟩

theorem run_cons (went : p.step e = some (q, first)) (ran : q.run es = some (p', did)) :
    p.run (e :: es) = some (p', first ++ did) := by
  rw [run, went, Option.bind_some, ran, Option.map_some]

theorem CanRest.took (went : p.step (.took item) = some (q, first))
    (behind : CanRest refuses k items q) : CanRest refuses k (item :: items) p := by
  obtain ⟨es, k', left, p', did, unfolds, ran, rests⟩ := behind
  exact ⟨_, k', left, p', _, .took unfolds, run_cons went ran, rests⟩

theorem CanRest.gave (went : p.step (.gave (refuses k)) = some (q, first))
    (behind : CanRest refuses (k + 1) items q) : CanRest refuses k items p := by
  obtain ⟨es, k', left, p', did, unfolds, ran, rests⟩ := behind
  exact ⟨_, k', left, p', _, .gave unfolds, run_cons went ran, rests⟩

/-- A pump that closes is done once the other side is closed. -/
theorem canRest_closing (relayed k : Nat) (items : List Item) :
    CanRest refuses k items ⟨.closing, relayed⟩ :=
  ⟨[.closed], k, items, ⟨.done, relayed⟩, [], .closed (.none k items), rfl, .inl rfl⟩

theorem canRest_givingClose (relayed k : Nat) (items : List Item) :
    CanRest refuses k items ⟨.givingClose, relayed⟩ :=
  .gave rfl (canRest_closing relayed (k + 1) items)

/-- A pump that has given a message goes on if the message is not refused. -/
theorem canRest_giving {relayed : Nat} (goesOn : CanRest refuses (k + 1) items ⟨.taking, relayed⟩) :
    CanRest refuses k items ⟨.giving, relayed⟩ := by
  cases answer : refuses k with
  | none =>
    have went : step ⟨.giving, relayed⟩ (.gave (refuses k)) = some (⟨.taking, relayed⟩, []) := by
      rw [answer]
      rfl
    exact .gave went goesOn
  | some why =>
    have went : step ⟨.giving, relayed⟩ (.gave (refuses k)) =
        some (⟨.closing, relayed⟩, [.giveFailed why, .close]) := by
      rw [answer]
      rfl
    exact .gave went (canRest_closing relayed (k + 1) items)

theorem canRest_taking (relayed k : Nat) (items : List Item) :
    CanRest refuses k items ⟨.taking, relayed⟩ := by
  induction items generalizing relayed k with
  | nil => exact .now (.inr ⟨rfl, rfl⟩)
  | cons item items ih =>
    cases item with
    | message m =>
      cases m with
      | text data => exact .took rfl (canRest_giving (ih (relayed + data.length) (k + 1)))
      | binary data => exact .took rfl (canRest_giving (ih (relayed + data.length) (k + 1)))
      | ping data | pong data => exact .took rfl (ih relayed k)
      | close frame => exact .took rfl (canRest_givingClose relayed k items)
    | failed why => exact .took rfl (canRest_closing relayed k items)
    | ended => exact .took rfl (canRest_closing relayed k items)

/-- **Every pump can go on until it rests**, whatever comes and whatever is refused. -/
theorem canRest (p : Pump) (k : Nat) (items : List Item) : CanRest refuses k items p := by
  obtain ⟨phase, relayed⟩ := p
  cases phase with
  | taking => exact canRest_taking relayed k items
  | giving => exact canRest_giving (canRest_taking relayed (k + 1) items)
  | givingClose => exact canRest_givingClose relayed k items
  | closing => exact canRest_closing relayed k items
  | done => exact .now (.inl rfl)

end Pump

end Wiretap.WebSocket
