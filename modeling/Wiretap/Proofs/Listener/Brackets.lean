import Wiretap.Proofs.Listener.Visits
import Wiretap.Proofs.Observer.Totals

/-!
# Brackets

What is written down of a connection follows the phases that its notes come to (`reached_after`).
So behind a whole connection it is bracketed (`Bracketed`, `bracketed_of_after`): it was tracked,
counted, started and handled, then came the notes of its service, then it was ended, counted off
under its outcome, and tracked no more, each of these once.
-/

namespace Wiretap.Listener

set_option autoImplicit false

open Observer (HookCall Metric)
open Session (CountedOff Note Outcome Phase)

/-! ## What is written in each phase -/

/-- Calls of an executor, if there is one. -/
def calls (executor : Option Nat) (cs : List HookCall) : List Entry :=
  executor.toList.flatMap fun k => cs.map (.called k)

namespace Entry

/-- Whether something may be done in the midst of a connection that this executor hears of. -/
def isMidway (executor : Option Nat) : Entry → Bool
  | counted (.relayed ..) => true
  | counted (.targetFailed _) => true
  | called k (.packet ..) => executor == some k
  | called k (.fault ..) => executor == some k
  | _ => false

/-- Whether a connection is counted. -/
def isOpening (x : Entry) : Bool := (x.metric?.map Metric.isOpened).getD false

/-- Whether a connection is counted off. -/
def isClosing (x : Entry) : Bool := (x.metric?.map Metric.isClosed).getD false

end Entry

/-- What was done for a connection from its beginning to its end, if it came out like this and this
executor heard of it. -/
def Bracketed (executor : Option Nat) (o : Outcome) (es : List Entry) : Prop :=
  ∃ id micros middle, (∀ x ∈ middle, x.isMidway executor) ∧
    es = [.tracked id executor, .counted .opened] ++ calls executor [.started, .handled] ++ middle ++
      calls executor [.ended micros] ++
      [.counted (.closed (o.protocolName "none") o.label), .released id]

/-- What has been done for a connection, but for tracking it, when its notes have come to a phase. -/
def Reached (executor : Option Nat) : Phase → List Entry → Prop
  | .unheard, es => es = []
  | .counted, es => es = [.counted .opened]
  | .started, es => es = .counted .opened :: calls executor [.started]
  | .serving, es => ∃ middle, (∀ x ∈ middle, x.isMidway executor) ∧
    es = .counted .opened :: calls executor [.started, .handled] ++ middle
  | .ended, es => ∃ middle micros, (∀ x ∈ middle, x.isMidway executor) ∧
    es = .counted .opened :: calls executor [.started, .handled] ++ middle ++
      calls executor [.ended micros]
  | .closed protocol outcome, es => ∃ middle micros, (∀ x ∈ middle, x.isMidway executor) ∧
    es = .counted .opened :: calls executor [.started, .handled] ++ middle ++
      calls executor [.ended micros] ++ [.counted (.closed protocol outcome)]

section

variable {executor : Option Nat}

/-- What is written of a note that may be told midway may be done midway. -/
theorem isMidway_of_note {n : Note} {x : Entry} (midway : n.isMidway)
    (written : Entry.of executor n = some x) : x.isMidway executor := by
  obtain ⟨m, rfl, rfl⟩ | ⟨k, c, rfl, rfl, rfl⟩ := Entry.of_cases written
  · cases m <;> first | rfl | cases midway
  · cases c <;> first | exact beq_self_eq_true _ | cases midway

/-- A call that is always made is written down if there is an executor. -/
theorem of_hook {c : HookCall} (made : c.isMade) (executor : Option Nat) :
    (Entry.of executor (.hook c)).toList = calls executor [c] := by
  rw [Entry.of, if_pos made]
  cases executor <;> rfl

theorem calls_append (executor : Option Nat) (c d : HookCall) :
    calls executor [c] ++ calls executor [d] = calls executor [c, d] := by
  cases executor <;> rfl

/-- **A note brings what has been done to the next phase.** -/
theorem reached_next {p p' : Phase} {es : List Entry} {n : Note}
    (reached : Reached executor p es) (may : p.next n = some p') :
    Reached executor p' (es ++ (Entry.of executor n).toList) := by
  cases Phase.next_cases may with
  | logged p entry =>
    rw [Entry.of, Option.toList_none, List.append_nil]
    exact reached
  | opened =>
    cases reached
    rfl
  | begun =>
    cases reached
    rw [of_hook rfl]
    rfl
  | handled =>
    cases reached
    refine ⟨[], ?_, ?_⟩
    · intro x member
      cases member
    · rw [of_hook rfl, List.cons_append, calls_append, List.append_nil]
  | midway midway =>
    obtain ⟨middle, all, rfl⟩ := reached
    refine ⟨middle ++ (Entry.of executor n).toList, ?_, List.append_assoc ..⟩
    intro x member
    obtain member | member := List.mem_append.mp member
    · exact all x member
    · exact isMidway_of_note midway (Option.mem_toList.mp member)
  | done micros =>
    obtain ⟨middle, all, rfl⟩ := reached
    refine ⟨middle, micros, all, ?_⟩
    rw [of_hook rfl]
  | countedOff protocol outcome =>
    obtain ⟨middle, micros, all, rfl⟩ := reached
    exact ⟨middle, micros, all, rfl⟩

/-- **Notes bring what has been done to the phase that they come to.** -/
theorem reached_after {p p' : Phase} {es : List Entry} {ns : List Note}
    (reached : Reached executor p es) (after : p.after ns = some p') :
    Reached executor p' (es ++ Entry.written executor ns) := by
  induction ns generalizing p es with
  | nil =>
    cases after
    rw [Entry.written_nil, List.append_nil]
    exact reached
  | cons n ns ih =>
    rw [Phase.after, List.foldlM_cons] at after
    obtain ⟨q, may, after⟩ := Option.bind_eq_some_iff.mp after
    have next := ih (reached_next reached may) after
    rwa [Entry.written_cons, ← List.append_assoc]

/-- What was done for a connection whose notes have come to their end is bracketed. -/
theorem bracketed_of_after {o : Outcome} {p : Phase} {ns : List Note} (id : Nat)
    (after : Phase.unheard.after ns = some p) (countedOff : CountedOff o p) :
    Bracketed executor o (.tracked id executor :: Entry.written executor ns ++ [.released id]) := by
  have nothing : Reached executor .unheard [] := rfl
  have reached := reached_after nothing after
  rw [List.nil_append, countedOff] at reached
  obtain ⟨middle, micros, all, written⟩ := reached
  refine ⟨id, micros, middle, all, ?_⟩
  rw [written]
  simp only [List.cons_append, List.append_assoc, List.nil_append]

/-! ## What is counted for a connection -/

theorem countP_calls {kind : Entry → Bool} (uncalled : ∀ k c, kind (.called k c) = false)
    (cs : List HookCall) : (calls executor cs).countP kind = 0 := by
  rw [List.countP_eq_zero]
  intro x member
  obtain ⟨k, _, member⟩ := List.mem_flatMap.mp member
  obtain ⟨c, _, rfl⟩ := List.mem_map.mp member
  rw [uncalled]
  exact Bool.false_ne_true

/-- Of a kind that is neither called nor done midway a bracketed connection has only the sides of the
bracket. -/
theorem Bracketed.countP {kind : Entry → Bool} {o : Outcome} {es : List Entry}
    (bracketed : Bracketed executor o es) (uncalled : ∀ k c, kind (.called k c) = false)
    (aside : ∀ x, x.isMidway executor → kind x = false) :
    ∃ id, es.countP kind =
      [.tracked id executor, .counted .opened].countP kind +
        [.counted (.closed (o.protocolName "none") o.label), .released id].countP kind := by
  obtain ⟨id, micros, middle, all, rfl⟩ := bracketed
  have none : middle.countP kind = 0 := by
    rw [List.countP_eq_zero]
    intro x member
    rw [aside x (all x member)]
    exact Bool.false_ne_true
  refine ⟨id, ?_⟩
  rw [List.countP_append, List.countP_append, List.countP_append, List.countP_append,
    countP_calls uncalled, countP_calls uncalled, none]
  rfl

theorem uncounted_of_isMidway (x : Entry) (midway : x.isMidway executor) :
    x.isOpening = false ∧ x.isClosing = false := by
  cases x with
  | counted m => cases m <;> first | exact ⟨rfl, rfl⟩ | cases midway
  | _ => exact ⟨rfl, rfl⟩

/-- **A bracketed connection is counted once and counted off once.** -/
theorem Bracketed.counts {o : Outcome} {es : List Entry} (bracketed : Bracketed executor o es) :
    es.countP Entry.isOpening = 1 ∧ es.countP Entry.isClosing = 1 := by
  obtain ⟨_, opening⟩ := bracketed.countP (fun _ _ => rfl)
    fun x midway => (uncounted_of_isMidway x midway).1
  obtain ⟨_, closing⟩ := bracketed.countP (fun _ _ => rfl)
    fun x midway => (uncounted_of_isMidway x midway).2
  exact ⟨opening, closing⟩

end

end Wiretap.Listener
