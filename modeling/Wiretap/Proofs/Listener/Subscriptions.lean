import Mathlib.Algebra.BigOperators.Group.List.Basic
import Mathlib.Algebra.GroupWithZero.Nat
import Wiretap.Listener.Signal

/-!
# What the subscribers of a signal hear

All subscribers share what has been sent, and only the last signal is kept.  Seen from one of them
the others make no difference: it has so many signals before it that it has not heard, each signal
adds one, and listening takes off what it is told of (`turn`, `tell`).  That its place among the
others comes to no more than this holds of each act (`unheard?_after`, `heardAt_eq`), and so of every
script (`heardBy_eq`).

It follows that no signal is lost: the signals that were sent since a subscriber came are those it
has heard, those it was told that it missed, and those it can still hear (`signals_delivered`).  So
whoever subscribes before a signal is sent does not wait past it (`heard?_ne_nothing`).
-/

namespace Wiretap.Listener

set_option autoImplicit false

/-! ## Scripts -/

/-- How many signals a subscriber is told that it missed. -/
def Heard.lag : Heard → Nat
  | .missed n => n
  | _ => 0

namespace Signal

/-- What is done with a signal. -/
inductive Act where
  | subscribe
  | trigger
  | listen (i : Nat)
  | leave (i : Nat)
  deriving DecidableEq, Repr

/-- The signal behind an act.  Only a subscriber can listen. -/
def after (s : Signal) : Act → Signal
  | .subscribe => s.subscribe.2
  | .trigger => s.trigger
  | .listen i => ((s.listen i).map (·.2)).getD s
  | .leave i => s.leave i

/-- The signal behind a script. -/
def run (s : Signal) (script : List Act) : Signal := script.foldl after s

/-- What a subscriber would hear now. -/
def heard? (s : Signal) (i : Nat) : Option Heard := (s.listen i).map (·.1)

/-- What a subscriber hears in an act. -/
def heardAt (s : Signal) (i : Nat) : Act → List Heard
  | .listen j => if j = i then (s.heard? i).toList else []
  | _ => []

/-- What a subscriber hears in the course of a script. -/
def heardBy (i : Nat) : Signal → List Act → List Heard
  | _, [] => []
  | s, a :: rest => s.heardAt i a ++ heardBy i (s.after a) rest

/-- How many signals a subscriber knows of: those it has heard, and those it was told that it
missed. -/
def told (heard : List Heard) : Nat := heard.count .signal + (heard.map Heard.lag).sum

/-- How many signals were sent that a subscriber has not got behind it. -/
def unheard? (s : Signal) (i : Nat) : Option Nat := (s.places[i]?.join).map (s.sent - ·)

/-! ## One subscriber by itself -/

/-- What a subscriber with so many unheard signals hears, and how many are left. -/
def tell : Nat → Heard × Nat
  | 0 => (.nothing, 0)
  | 1 => (.signal, 0)
  | n + 2 => (.missed (n + 1), 1)

/-- What an act does to the unheard signals of a subscriber. -/
def turn (i : Nat) (unheard : Option Nat) : Act → Option Nat
  | .subscribe => unheard
  | .trigger => unheard.map (· + 1)
  | .listen j => if j = i then unheard.map fun n => (tell n).2 else unheard
  | .leave j => if j = i then none else unheard

/-- What a subscriber with so many unheard signals hears in an act. -/
def answer (i : Nat) (unheard : Option Nat) : Act → List Heard
  | .listen j => if j = i then (unheard.map fun n => (tell n).1).toList else []
  | _ => []

/-- What a subscriber with so many unheard signals hears in the course of a script. -/
def hears (i : Nat) : Option Nat → List Act → List Heard
  | _, [] => []
  | unheard, a :: rest => answer i unheard a ++ hears i (turn i unheard a) rest

section

variable {n left : Nat}

theorem tell_eq_nothing_iff : (tell left).1 = .nothing ↔ left = 0 := by
  match left with
  | 0 | 1 | left + 2 => simp [tell]

theorem tell_eq_signal_iff : (tell left).1 = .signal ↔ left = 1 := by
  match left with
  | 0 | 1 | left + 2 => simp [tell]

theorem tell_eq_missed_iff : (tell left).1 = .missed n ↔ 1 ≤ n ∧ left = n + 1 := by
  match left with
  | 0 => simp [tell]
  | 1 =>
    simp only [tell, reduceCtorEq, false_iff]
    omega
  | left + 2 =>
    simp only [tell, Heard.missed.injEq]
    omega

/-- Behind the signals that are told of as missed there is just one more. -/
theorem left_of_missed (missed : (tell left).1 = .missed n) : (tell left).2 = 1 := by
  match left with
  | 0 | 1 => cases missed
  | left + 2 => rfl

/-- Listening loses nothing. -/
theorem told_tell (left : Nat) : told [(tell left).1] + (tell left).2 = left := by
  match left with
  | 0 | 1 => rfl
  | left + 2 => simp [tell, told, Heard.lag]

end

theorem told_append (heard more : List Heard) : told (heard ++ more) = told heard + told more := by
  simp only [told, List.count_append, List.map_append, List.sum_append]
  omega

/-- In one act a subscriber that stays comes to know of a signal, or can still hear of it. -/
theorem turn_counted {i : Nat} {a : Act} (stays : a ≠ .leave i) (unheard : Nat) :
    ∃ left, turn i (some unheard) a = some left ∧
      unheard + [a].count .trigger = told (answer i (some unheard) a) + left := by
  cases a with
  | subscribe => exact ⟨unheard, rfl, (Nat.zero_add unheard).symm⟩
  | trigger => exact ⟨unheard + 1, rfl, (Nat.zero_add (unheard + 1)).symm⟩
  | listen j =>
    by_cases own : j = i
    · refine ⟨(tell unheard).2, if_pos own, ?_⟩
      rw [answer, if_pos own]
      exact (told_tell unheard).symm
    · refine ⟨unheard, if_neg own, ?_⟩
      rw [answer, if_neg own]
      exact (Nat.zero_add unheard).symm
  | leave j =>
    have other : j ≠ i := fun same => stays (same ▸ rfl)
    exact ⟨unheard, if_neg other, (Nat.zero_add unheard).symm⟩

/-- **A subscriber that stays knows of each signal, or can still hear of it**, however many it had
not heard before. -/
theorem hears_counted {i : Nat} {script : List Act} (stays : .leave i ∉ script) (unheard : Nat) :
    ∃ left, script.foldl (turn i) (some unheard) = some left ∧
      unheard + script.count .trigger = told (hears i (some unheard) script) + left := by
  induction script generalizing unheard with
  | nil => exact ⟨unheard, rfl, (Nat.zero_add unheard).symm⟩
  | cons a rest ih =>
    have stays' : a ≠ .leave i := fun same => stays (same ▸ List.mem_cons_self)
    obtain ⟨next, turned, counted⟩ := turn_counted stays' unheard
    obtain ⟨left, stands, more⟩ := ih (fun member => stays (.tail _ member)) next
    rw [List.foldl_cons, hears, told_append, turned, ← List.singleton_append, List.count_append]
    exact ⟨left, stands, by omega⟩

/-- Whether an act concerns a subscriber: signals do, and what it does itself. -/
def concerns (i : Nat) : Act → Bool
  | .subscribe => false
  | .trigger => true
  | .listen j => j == i
  | .leave j => j == i

theorem turn_of_not_concerns {i : Nat} {a : Act} (foreign : concerns i a = false)
    (unheard : Option Nat) : turn i unheard a = unheard ∧ answer i unheard a = [] := by
  cases a with
  | subscribe => exact ⟨rfl, rfl⟩
  | trigger => cases foreign
  | listen j | leave j =>
    have other : j ≠ i := by simpa [concerns] using foreign
    simp [turn, answer, other]

/-- What does not concern a subscriber makes no difference to what it hears. -/
theorem hears_filter (i : Nat) (unheard : Option Nat) (script : List Act) :
    hears i unheard (script.filter (concerns i)) = hears i unheard script := by
  induction script generalizing unheard with
  | nil => rfl
  | cons a rest ih =>
    cases own : concerns i a with
    | true =>
      rw [List.filter_cons_of_pos own, hears, hears, ih]
    | false =>
      obtain ⟨still, silent⟩ := turn_of_not_concerns own unheard
      rw [List.filter_cons_of_neg (by simp [own]), hears, still, silent, ih, List.nil_append]

/-! ## One subscriber among the others -/

/-- Nobody has more behind it than what has been sent. -/
def Reached (s : Signal) : Prop := ∀ n, some n ∈ s.places → n ≤ s.sent

variable {s : Signal} {i : Nat} {script rest : List Act}

/-- What is heard at a place depends only on how far it is from the end. -/
theorem hear_eq {sent place : Nat} (within : place ≤ sent) :
    (hear sent place).1 = (tell (sent - place)).1 ∧ (hear sent place).2 ≤ sent ∧
      sent - (hear sent place).2 = (tell (sent - place)).2 := by
  obtain ⟨n, rfl⟩ := Nat.exists_eq_add_of_le within
  rw [Nat.add_sub_cancel_left]
  match n with
  | 0 => simp [hear, tell]
  | 1 => simp [hear, tell, capacity]
  | n + 2 =>
    have apart : place ≠ place + (n + 2) := by omega
    have oldest : place + (n + 2) - capacity = place + (n + 1) := rfl
    have behind : place < place + (n + 1) := by omega
    rw [hear, oldest, if_neg apart, if_pos behind, Nat.add_sub_cancel_left]
    refine ⟨rfl, Nat.le_succ _, ?_⟩
    change place + (n + 2) - (place + (n + 1)) = 1
    omega

theorem listen_eq (s : Signal) (i : Nat) :
    s.listen i = (s.places[i]?.join).map fun place =>
      ((hear s.sent place).1, { s with places := s.places.set i (some (hear s.sent place).2) }) :=
  rfl

theorem Reached.of_place (reached : s.Reached) {place : Nat}
    (there : s.places[i]?.join = some place) : place ≤ s.sent := by
  rw [Option.join_eq_some_iff] at there
  exact reached place (List.mem_of_getElem? there)

/-- What a subscriber would hear depends only on its unheard signals. -/
theorem heard?_eq (reached : s.Reached) (i : Nat) :
    s.heard? i = (s.unheard? i).map fun n => (tell n).1 := by
  rw [heard?, listen_eq, unheard?]
  cases there : s.places[i]?.join with
  | none => rfl
  | some place => exact congrArg some (hear_eq (reached.of_place there)).1

theorem heardAt_eq (reached : s.Reached) (i : Nat) (a : Act) :
    s.heardAt i a = answer i (s.unheard? i) a := by
  cases a with
  | listen j => rw [heardAt, answer, heard?_eq reached]
  | _ => rfl

/-- With another place for one subscriber, the others have what they had. -/
theorem unheard?_set (there : i < s.places.length) (j : Nat) (place : Option Nat) :
    unheard? { s with places := s.places.set j place } i =
      if j = i then place.map (s.sent - ·) else s.unheard? i := by
  by_cases own : j = i
  · subst own
    simp [unheard?, there]
  · simp [unheard?, own]

theorem unheard?_of_deserted (deserted : s.subscribers = 0) (i : Nat) : s.unheard? i = none := by
  rw [subscribers, List.length_eq_zero_iff, List.filter_eq_nil_iff] at deserted
  rw [unheard?, Option.map_eq_none_iff]
  cases there : s.places[i]? with
  | none => rfl
  | some place => simpa using deserted place (List.mem_of_getElem? there)

/-- **Only what a subscriber does itself, and the signals that are sent, change what it has not
heard.** -/
theorem unheard?_after (reached : s.Reached) (there : i < s.places.length) (a : Act) :
    (s.after a).unheard? i = turn i (s.unheard? i) a := by
  cases a with
  | subscribe => simp [after, subscribe, unheard?, turn, List.getElem?_append_left there]
  | trigger =>
    rw [after, trigger]
    split
    · next deserted => rw [turn, unheard?_of_deserted deserted, Option.map_none]
    · rw [turn, unheard?, unheard?, Option.map_map]
      refine Option.map_congr fun place behind => ?_
      exact Nat.succ_sub (reached.of_place behind)
  | listen j =>
    rw [after, listen_eq, turn]
    cases present : s.places[j]?.join with
    | none =>
      split
      · next own =>
        subst own
        simp [unheard?, present]
      · rfl
    | some place =>
      have moved := hear_eq (reached.of_place present)
      simp only [Option.map_some, Option.getD_some]
      rw [unheard?_set there]
      split
      · next own =>
        subst own
        rw [unheard?, present, Option.map_some, Option.map_some, Option.map_some, moved.2.2]
      · rfl
  | leave j =>
    rw [after, leave, unheard?_set there]
    rfl

theorem Reached.set (reached : s.Reached) (j : Nat) {place : Option Nat}
    (within : ∀ n ∈ place, n ≤ s.sent) : Reached { s with places := s.places.set j place } := by
  intro n member
  obtain old | new := List.mem_or_eq_of_mem_set member
  · exact reached n old
  · exact within n new.symm

theorem Reached.after (reached : s.Reached) (a : Act) : (s.after a).Reached := by
  cases a with
  | subscribe =>
    intro n member
    obtain old | new := List.mem_append.mp member
    · exact reached n old
    · rw [List.mem_singleton, Option.some.injEq] at new
      exact Nat.le_of_eq new
  | trigger =>
    rw [Signal.after, trigger]
    split
    · exact reached
    · exact fun n member => Nat.le_succ_of_le (reached n member)
  | listen j =>
    rw [Signal.after, listen_eq]
    cases present : s.places[j]?.join with
    | none => exact reached
    | some place =>
      refine reached.set j fun n same => ?_
      cases same
      exact (hear_eq (reached.of_place present)).2.1
  | leave j => exact reached.set j nofun

theorem length_after (s : Signal) (a : Act) :
    (s.after a).places.length = s.places.length + if a == .subscribe then 1 else 0 := by
  cases a with
  | subscribe => simp [after, subscribe]
  | trigger =>
    rw [after, trigger]
    split <;> simp
  | listen j =>
    rw [after, listen_eq]
    cases s.places[j]?.join <;> simp
  | leave j => simp [after, leave]

/-! ## Whole scripts -/

theorem run_append (s : Signal) (script more : List Act) :
    s.run (script ++ more) = (s.run script).run more := List.foldl_append

theorem heardBy_append (i : Nat) (s : Signal) (script more : List Act) :
    heardBy i s (script ++ more) = heardBy i s script ++ heardBy i (s.run script) more := by
  induction script generalizing s with
  | nil => rfl
  | cons a rest ih =>
    rw [List.cons_append, heardBy, heardBy, ih, List.append_assoc]
    rfl

theorem length_run (s : Signal) (script : List Act) :
    (s.run script).places.length = s.places.length + script.count .subscribe := by
  induction script generalizing s with
  | nil => rfl
  | cons a rest ih =>
    rw [List.count_cons, Nat.add_comm (rest.count _), ← Nat.add_assoc, ← length_after]
    exact ih _

theorem Reached.run (reached : s.Reached) (script : List Act) : (s.run script).Reached := by
  induction script generalizing s with
  | nil => exact reached
  | cons a rest ih => exact ih (reached.after a)

/-- **A subscriber hears what it would hear by itself**, and so has as much unheard. -/
theorem heardBy_eq (reached : s.Reached) (there : i < s.places.length) (script : List Act) :
    heardBy i s script = hears i (s.unheard? i) script ∧
      (s.run script).unheard? i = script.foldl (turn i) (s.unheard? i) := by
  induction script generalizing s with
  | nil => exact ⟨rfl, rfl⟩
  | cons a rest ih =>
    have still : i < (s.after a).places.length := by
      rw [length_after]
      exact Nat.lt_add_right _ there
    obtain ⟨heard, stands⟩ := ih (reached.after a) still
    rw [unheard?_after reached there] at heard stands
    exact ⟨by rw [heardBy, hears, heard, heardAt_eq reached], stands⟩

/-- Who has not come yet hears nothing. -/
theorem heardBy_of_not_come (early : s.places.length + script.count .subscribe ≤ i) :
    heardBy i s script = [] := by
  induction script generalizing s with
  | nil => rfl
  | cons a rest ih =>
    rw [List.count_cons] at early
    have absent : s.places[i]? = none := List.getElem?_eq_none (by omega)
    have silent : s.heardAt i a = [] := by
      cases a with
      | listen j =>
        by_cases own : j = i
        · simp [heardAt, own, heard?, listen_eq, absent]
        · simp [heardAt, own]
      | _ => rfl
    rw [heardBy, silent, ih (by rw [length_after]; omega)]
    rfl

/-! ## Coming and going -/

/-- What is done behind the coming of a subscriber, if it comes. -/
def since? : (i : Nat) → List Act → Option (List Act)
  | _, [] => none
  | 0, .subscribe :: rest => some rest
  | i + 1, .subscribe :: rest => since? i rest
  | i, _ :: rest => since? i rest

/-- A subscriber has come and has not gone away. -/
def IsLive (script : List Act) (i : Nat) : Prop := ∃ rest ∈ since? i script, .leave i ∉ rest

instance (script : List Act) (i : Nat) : Decidable (IsLive script i) :=
  inferInstanceAs (Decidable (∃ rest ∈ since? i script, .leave i ∉ rest))

theorem since?_cons_of_ne {a : Act} (other : a ≠ .subscribe) (i : Nat) (rest : List Act) :
    since? i (a :: rest) = since? i rest := by
  cases a with
  | subscribe => contradiction
  | _ => cases i <;> rfl

/-- The subscribers are numbered as they come. -/
theorem since?_eq_some_iff :
    since? i script = some rest ↔
      ∃ before, script = before ++ .subscribe :: rest ∧ before.count .subscribe = i := by
  constructor
  · intro since
    induction script generalizing i with
    | nil => cases since
    | cons a script ih =>
      by_cases comes : a = .subscribe
      · subst comes
        cases i with
        | zero =>
          cases since
          exact ⟨[], rfl, rfl⟩
        | succ i =>
          obtain ⟨before, rfl, rfl⟩ := ih since
          exact ⟨.subscribe :: before, rfl, List.count_cons_self⟩
      · rw [since?_cons_of_ne comes] at since
        obtain ⟨before, rfl, rfl⟩ := ih since
        exact ⟨a :: before, rfl, List.count_cons_of_ne comes⟩
  · rintro ⟨before, rfl, rfl⟩
    induction before with
    | nil => rfl
    | cons a before ih =>
      by_cases comes : a = .subscribe
      · subst comes
        rw [List.count_cons_self]
        exact ih
      · rw [List.count_cons_of_ne comes, List.cons_append, since?_cons_of_ne comes]
        exact ih

/-- As many have come as have subscribed. -/
theorem since?_eq_none_iff : since? i script = none ↔ script.count .subscribe ≤ i := by
  induction script generalizing i with
  | nil => simp [since?]
  | cons a script ih =>
    by_cases comes : a = .subscribe
    · subst comes
      rw [List.count_cons_self]
      cases i with
      | zero => simp [since?]
      | succ i => simpa [since?] using ih
    · rw [since?_cons_of_ne comes, List.count_cons_of_ne comes]
      exact ih

/-! ## What is kept of every script -/

/-- The signal behind a script, and before it nobody has come. -/
def ofScript (script : List Act) : Signal := run {} script

/-- What a subscriber hears in the course of a script, and before it nobody has come. -/
def heardIn (script : List Act) (i : Nat) : List Heard := heardBy i {} script

theorem reached_ofScript (script : List Act) : (ofScript script).Reached :=
  Reached.run (s := {}) nofun script

theorem length_ofScript (script : List Act) :
    (ofScript script).places.length = script.count .subscribe :=
  (length_run {} script).trans (Nat.zero_add _)

/-- A subscriber comes with nothing unheard, and from then on it is by itself; before it comes,
nothing is heard under its number. -/
theorem heardIn_of_since (since : since? i script = some rest) :
    heardIn script i = hears i (some 0) rest ∧
      (ofScript script).unheard? i = rest.foldl (turn i) (some 0) := by
  obtain ⟨before, rfl, rfl⟩ := since?_eq_some_iff.mp since
  have come := length_ofScript before
  have silent : heardBy (before.count .subscribe) {} before = [] :=
    heardBy_of_not_come (Nat.le_of_eq (Nat.zero_add _))
  have reached := (reached_ofScript before).after .subscribe
  have there : before.count .subscribe < ((ofScript before).after .subscribe).places.length := by
    rw [length_after, come]
    exact Nat.lt_add_one _
  have fresh : ((ofScript before).after .subscribe).unheard? (before.count .subscribe) = some 0 := by
    simp [after, subscribe, unheard?, ← come]
  have alone := heardBy_eq reached there rest
  rw [fresh] at alone
  refine ⟨?_, ?_⟩
  · rw [heardIn, heardBy_append, silent, List.nil_append, ← alone.1]
    rfl
  · rw [ofScript, run_append, ← alone.2]
    rfl

theorem foldl_turn_none (i : Nat) (script : List Act) : script.foldl (turn i) none = none := by
  induction script with
  | nil => rfl
  | cons a rest ih =>
    have still : turn i none a = none := by cases a <;> simp [turn]
    rw [List.foldl_cons, still, ih]

/-- Who has gone away has nothing more to hear. -/
theorem foldl_turn_of_left (left : .leave i ∈ script) (unheard : Option Nat) :
    script.foldl (turn i) unheard = none := by
  induction script generalizing unheard with
  | nil => cases left
  | cons a rest ih =>
    rw [List.foldl_cons]
    obtain _ | ⟨_, later⟩ := left
    · simp [turn, foldl_turn_none]
    · exact ih later _

theorem isSome_unheard?_iff (script : List Act) (i : Nat) :
    ((ofScript script).unheard? i).isSome ↔ IsLive script i := by
  cases since : since? i script with
  | none =>
    have absent : (ofScript script).places[i]? = none := by
      rw [List.getElem?_eq_none_iff, length_ofScript]
      exact since?_eq_none_iff.mp since
    simp [unheard?, absent, IsLive, since]
  | some rest =>
    rw [(heardIn_of_since since).2, IsLive, since]
    by_cases left : .leave i ∈ rest
    · simp [foldl_turn_of_left left, left]
    · obtain ⟨n, stands, _⟩ := hears_counted left 0
      simp [stands, left]

/-- The subscribers are those that have a place. -/
theorem subscribers_eq (s : Signal) :
    s.subscribers =
      ((List.range s.places.length).filter fun i => (s.unheard? i).isSome).length := by
  have listed : (List.range s.places.length).map (fun i => s.places[i]?.join) = s.places :=
    List.ext_getElem (by simp) fun i _ there => by simp [there]
  have placed : (fun i => (s.unheard? i).isSome) = Option.isSome ∘ fun i => s.places[i]?.join := by
    funext i
    exact Option.isSome_map
  calc s.subscribers
    _ = (((List.range s.places.length).map fun i => s.places[i]?.join).filter
          Option.isSome).length := by rw [listed, subscribers]
    _ = _ := by rw [List.filter_map, List.length_map, placed]

/-- How a subscriber stands that has so many signals to hear. -/
structure Stands (s : Signal) (i left : Nat) : Prop where
  unheard : s.unheard? i = some left
  nothing : s.heard? i = some .nothing ↔ left = 0
  signal : s.heard? i = some .signal ↔ left = 1
  missed : ∀ n, s.heard? i = some (.missed n) ↔ 1 ≤ n ∧ left = n + 1
  /-- Behind the signals that it is told of as missed there is just one more. -/
  last : ∀ n, s.heard? i = some (.missed n) → (s.after (.listen i)).unheard? i = some 1

theorem stands_of_unheard? (reached : s.Reached) {left : Nat}
    (unheard : s.unheard? i = some left) : s.Stands i left := by
  have there : i < s.places.length := by
    by_contra beyond
    have absent : s.places[i]? = none := List.getElem?_eq_none (Nat.le_of_not_lt beyond)
    simp [unheard?, absent] at unheard
  have next : (s.after (.listen i)).unheard? i = some (tell left).2 := by
    rw [unheard?_after reached there, unheard, turn, if_pos rfl]
    rfl
  have heard : s.heard? i = some (tell left).1 := by
    rw [heard?_eq reached, unheard]
    rfl
  refine ⟨unheard, ?_, ?_, fun n => ?_, fun n => ?_⟩
  · rw [heard, Option.some.injEq, tell_eq_nothing_iff]
  · rw [heard, Option.some.injEq, tell_eq_signal_iff]
  · rw [heard, Option.some.injEq, tell_eq_missed_iff]
  · rw [heard, Option.some.injEq, next, Option.some.injEq]
    exact left_of_missed

/-- Whoever has come and not gone away since has heard of each signal that was sent since it came,
or can still hear of it. -/
theorem exists_stands (since : since? i script = some rest) (stays : .leave i ∉ rest) :
    ∃ left, (ofScript script).Stands i left ∧
      rest.count .trigger = told (heardIn script i) + left := by
  obtain ⟨heard, stands⟩ := heardIn_of_since since
  obtain ⟨left, unheard, counted⟩ := hears_counted stays 0
  refine ⟨left, stands_of_unheard? (reached_ofScript script) (stands.trans unheard), ?_⟩
  rw [heard, ← counted, Nat.zero_add]

/-- Whoever came before a signal was sent, and has not been told of any, hears of it when it listens
next. -/
theorem heard?_ne_nothing (since : since? i script = some rest) (stays : .leave i ∉ rest)
    (sent : .trigger ∈ rest) (untold : told (heardIn script i) = 0) :
    (ofScript script).heard? i ≠ some .nothing := by
  obtain ⟨left, stands, counted⟩ := exists_stands since stays
  intro nothing
  have some_sent : 0 < rest.count .trigger := List.count_pos_iff.mpr sent
  rw [counted, untold, stands.nothing.mp nothing] at some_sent
  exact Nat.lt_irrefl 0 some_sent

/-- A signal has kept its word to its subscribers, whatever has been done with it. -/
structure Delivered (script : List Act) : Prop where
  /-- The subscribers are numbered as they come. -/
  numbered : (ofScript script).subscribe.1 = script.count .subscribe
  /-- Whoever has come and not gone away since has heard of the signals that were sent since it
  came, or can still hear of them. -/
  accounts : ∀ i rest, since? i script = some rest → .leave i ∉ rest →
    ∃ left, (ofScript script).Stands i left ∧
      rest.count .trigger = told (heardIn script i) + left
  /-- What it hears is settled by the signals since it came and by what it does itself: not by
  earlier ones, and not by the others that listen or go away. -/
  alone : ∀ i rest other rest', since? i script = some rest → since? i other = some rest' →
    rest.filter (concerns i) = rest'.filter (concerns i) → heardIn script i = heardIn other i
  /-- Nobody else hears anything. -/
  present : ∀ i, ((ofScript script).heard? i).isSome ↔ IsLive script i
  counted : (ofScript script).subscribers =
    ((List.range (script.count .subscribe)).filter fun i => decide (IsLive script i)).length

/-- **No signal is lost on a subscriber**, in no script of any length and order. -/
theorem signals_delivered (script : List Act) : Delivered script where
  numbered := length_ofScript script
  accounts _ _ since stays := exists_stands since stays
  alone i rest other rest' since since' same := by
    rw [(heardIn_of_since since).1, (heardIn_of_since since').1, ← hears_filter, same,
      hears_filter]
  present i := by
    rw [← isSome_unheard?_iff, heard?_eq (reached_ofScript script), Option.isSome_map]
  counted := by
    rw [subscribers_eq, length_ofScript]
    refine congrArg List.length (List.filter_congr fun i _ => ?_)
    rw [Bool.eq_iff_iff, isSome_unheard?_iff, decide_eq_true_iff]

example : heardIn [.subscribe, .trigger, .trigger, .subscribe, .trigger, .listen 0, .listen 1,
    .listen 0, .listen 0] 0 = [.missed 2, .signal, .nothing] := by
  decide

end Signal

end Wiretap.Listener
