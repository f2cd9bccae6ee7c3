import Wiretap.Proofs.Listener.Draining
import Wiretap.Proofs.Listener.Turns

/-!
# The life of the listener under calls at once

Any number of calls may start and stop the listener at once.  Between two of its steps a call sees
what the others left, so what holds is stated of every state that can be reached (`Orderly`): the
lifecycle stores what its state needs and no more, at most one call is on its way with the listener,
and the only loop that may be alive is the one made last.

From this follow what a caller can rely on (`disciplined_of_reachable`).  The number of times that
the listener has come back to its stopped state tells its rounds apart (`rounds`); within a round at
most one start and at most one stop go on, and whatever the loop of a round had accepted when its
stop went on is all that it ever accepts.
-/

namespace Wiretap.Listener

set_option autoImplicit false

namespace Service

/-! ## What the state of the listener says -/

/-- What holds in each state of the listener. -/
inductive Orderly (s : Service) : Prop where
  | stopped (lifecycle : s.lifecycle = {}) (idle : ∀ c ∈ s.calls, c.isPending = false)
      (none_alive : ∀ i, ¬ s.Alive i)
  /-- The start that waits for its address is the only call on its way, unless it crashed. -/
  | starting (lifecycle : s.lifecycle = { state := .starting })
      (binds : ∀ c ∈ s.calls, c.isPending = true → c = .binding)
      (single : ∀ (j k : Nat) (c d : Call), s.calls[j]? = some c → s.calls[k]? = some d →
        c.isPending = true → d.isPending = true → j = k)
      (none_alive : ∀ i, ¬ s.Alive i)
  | running (address : Address.Socket) (i : Nat)
      (lifecycle : s.lifecycle = ⟨.running, some address, some i, some i⟩)
      (idle : ∀ c ∈ s.calls, c.isPending = false) (last : ∀ j, s.Alive j → j = i)
  | stopping (address : Address.Socket) (i k : Nat) (drains : Bool)
      (lifecycle : s.lifecycle = ⟨.stopping, some address, none, none⟩)
      (found : s.calls[k]? = some (.joining (some i) drains))
      (single : ∀ (j : Nat) (c : Call), s.calls[j]? = some c → c.isPending = true → j = k)
      (last : ∀ j, s.Alive j → j = i)

theorem orderly_fresh (limit : Option Nat) : Orderly (fresh limit) := by
  refine .stopped rfl (by simp [fresh]) ?_
  rintro i ⟨l, found, _⟩
  simp [fresh] at found

namespace Orderly

variable {s t : Service}

/-- A step that leaves the lifecycle, the calls on their way and the dead loops as they are. -/
theorem quiet (orderly : Orderly s) (lifecycle : t.lifecycle = s.lifecycle)
    (pending : ∀ (j : Nat) (c : Call), c.isPending = true →
      (t.calls[j]? = some c ↔ s.calls[j]? = some c))
    (alive : ∀ i, t.Alive i → s.Alive i) : Orderly t := by
  have idle : (∀ c ∈ s.calls, c.isPending = false) → ∀ c ∈ t.calls, c.isPending = false := by
    intro before c member
    obtain ⟨j, found⟩ := List.mem_iff_getElem?.mp member
    cases waits : c.isPending with
    | false => rfl
    | true => exact (before c (List.mem_of_getElem? ((pending j c waits).mp found))) ▸ waits.symm
  cases orderly with
  | stopped same none_pending none_alive =>
    exact .stopped (lifecycle.trans same) (idle none_pending) fun i lives =>
      none_alive i (alive i lives)
  | starting same binds single none_alive =>
    refine .starting (lifecycle.trans same) ?_ ?_ fun i lives => none_alive i (alive i lives)
    · intro c member waits
      obtain ⟨j, found⟩ := List.mem_iff_getElem?.mp member
      exact binds c (List.mem_of_getElem? ((pending j c waits).mp found)) waits
    · intro j k c d first second waits waits'
      exact single j k c d ((pending j c waits).mp first) ((pending k d waits').mp second) waits
        waits'
  | running address i same none_pending last =>
    exact .running address i (lifecycle.trans same) (idle none_pending) fun j lives =>
      last j (alive j lives)
  | stopping address i k drains same found single last =>
    refine .stopping address i k drains (lifecycle.trans same) ((pending k _ rfl).mpr found) ?_
      fun j lives => last j (alive j lives)
    intro j c there waits
    exact single j c ((pending j c waits).mp there) waits

/-- While a start waits for its address, the listener is starting, and nothing else is on its
way. -/
theorem of_binding (orderly : Orderly s) {k : Nat} (found : s.calls[k]? = some .binding) :
    s.lifecycle = { state := .starting } ∧
      (∀ (j : Nat) (c : Call), s.calls[j]? = some c → c.isPending = true → j = k) ∧
      ∀ i, ¬ s.Alive i := by
  cases orderly with
  | stopped _ idle _ => cases idle _ (List.mem_of_getElem? found)
  | starting lifecycle _ single none_alive =>
    exact ⟨lifecycle, fun j c there waits => single j k c _ there found waits rfl, none_alive⟩
  | running _ _ _ idle _ => cases idle _ (List.mem_of_getElem? found)
  | stopping _ i k' drains _ found' single _ =>
    obtain rfl := single k _ found rfl
    rw [found] at found'
    cases found'

/-- While a stop waits for its loop to exit, the listener is stopping, and nothing else is on its
way. -/
theorem of_joining (orderly : Orderly s) {k : Nat} {j : Option Nat} {drains : Bool}
    (found : s.calls[k]? = some (.joining j drains)) :
    ∃ (address : Address.Socket) (i : Nat), j = some i ∧
      s.lifecycle = ⟨.stopping, some address, none, none⟩ ∧
      (∀ (j : Nat) (c : Call), s.calls[j]? = some c → c.isPending = true → j = k) ∧
      ∀ j, s.Alive j → j = i := by
  cases orderly with
  | stopped _ idle _ => cases idle _ (List.mem_of_getElem? found)
  | starting _ binds _ _ => cases binds _ (List.mem_of_getElem? found) rfl
  | running _ _ _ idle _ => cases idle _ (List.mem_of_getElem? found)
  | stopping address i k' drains' lifecycle found' single last =>
    obtain rfl := single k _ found rfl
    rw [found] at found'
    cases found'
    exact ⟨address, i, rfl, lifecycle, single, last⟩

theorem of_stopped (orderly : Orderly s) (state : s.lifecycle.state = .stopped) :
    s.lifecycle = {} ∧ (∀ c ∈ s.calls, c.isPending = false) ∧ ∀ i, ¬ s.Alive i := by
  cases orderly with
  | stopped lifecycle idle none_alive => exact ⟨lifecycle, idle, none_alive⟩
  | starting lifecycle _ _ _ => rw [lifecycle] at state; cases state
  | running _ _ lifecycle _ _ => rw [lifecycle] at state; cases state
  | stopping _ _ _ _ lifecycle _ _ _ => rw [lifecycle] at state; cases state

theorem of_running (orderly : Orderly s) (state : s.lifecycle.state = .running) :
    ∃ (address : Address.Socket) (i : Nat),
      s.lifecycle = ⟨.running, some address, some i, some i⟩ ∧
      (∀ c ∈ s.calls, c.isPending = false) ∧ ∀ j, s.Alive j → j = i := by
  cases orderly with
  | stopped lifecycle _ _ => rw [lifecycle] at state; cases state
  | starting lifecycle _ _ _ => rw [lifecycle] at state; cases state
  | running address i lifecycle idle last => exact ⟨address, i, lifecycle, idle, last⟩
  | stopping _ _ _ _ lifecycle _ _ _ => rw [lifecycle] at state; cases state

/-- Where no call is on its way, the one that is made is the only one. -/
theorem only_new {c d : Call} {j : Nat} (idle : ∀ c ∈ s.calls, c.isPending = false)
    (found : (s.calls ++ [c])[j]? = some d) (waits : d.isPending = true) :
    j = s.calls.length ∧ d = c := by
  rcases getElem?_concat_cases found with ⟨new, same⟩ | before
  · exact ⟨new.symm, same.symm⟩
  · rw [idle d (List.mem_of_getElem? before)] at waits
    cases waits

/-- Where one call is on its way and arrives, none is left. -/
theorem none_left {c : Call} {k : Nat}
    (single : ∀ (j : Nat) (c : Call), s.calls[j]? = some c → c.isPending = true → j = k)
    (past : c.isPending = false) : ∀ d ∈ s.calls.set k c, d.isPending = false := by
  intro d member
  obtain ⟨j, found⟩ := List.mem_iff_getElem?.mp member
  rcases getElem?_set_cases found with ⟨_, rfl⟩ | ⟨other, before⟩
  · exact past
  · cases waits : d.isPending with
    | false => rfl
    | true => exact absurd (single j d before waits).symm other

/-- **Every turn keeps the order.** -/
theorem turn (orderly : Orderly s) (turn : Turn s t) : Orderly t := by
  cases turn with
  | kept lifecycle calls alive =>
    exact orderly.quiet lifecycle (fun j c _ => by rw [calls]) alive
  | refused c past _ lifecycle calls alive =>
    refine orderly.quiet lifecycle (fun j d waits => ?_) alive
    rw [calls]
    constructor
    · intro found
      rcases getElem?_concat_cases found with ⟨_, rfl⟩ | before
      · rw [past] at waits
        cases waits
      · exact before
    · intro found
      rw [List.getElem?_append_left (List.getElem?_eq_some_iff.mp found).1]
      exact found
  | starting stopped lifecycle calls alive =>
    obtain ⟨same, idle, none_alive⟩ := orderly.of_stopped stopped
    refine .starting (by rw [lifecycle, same]) ?_ ?_ fun i lives => none_alive i (alive i lives)
    · intro c member waits
      obtain ⟨j, found⟩ := List.mem_iff_getElem?.mp (calls ▸ member)
      exact (only_new idle found waits).2
    · intro j k c d first second waits waits'
      rw [calls] at first second
      exact (only_new idle first waits).1.trans (only_new idle second waits').1.symm
  | unbound k e found lifecycle calls alive =>
    obtain ⟨same, single, none_alive⟩ := orderly.of_binding found
    refine .stopped (by rw [lifecycle, same]) ?_ fun i lives => none_alive i (alive i lives)
    rw [calls]
    exact none_left single rfl
  | crashed k found lifecycle calls alive =>
    obtain ⟨same, single, none_alive⟩ := orderly.of_binding found
    have none_pending := none_left (c := .crashed) single rfl
    rw [← calls] at none_pending
    refine .starting (lifecycle.trans same) ?_ ?_ fun i lives => none_alive i (alive i lives)
    · intro c member waits
      rw [none_pending c member] at waits
      cases waits
    · intro j k c d first _ waits _
      rw [none_pending c (List.mem_of_getElem? first)] at waits
      cases waits
  | running k address found lifecycle calls loops =>
    obtain ⟨_, single, none_alive⟩ := orderly.of_binding found
    refine .running address s.loops.length lifecycle (calls ▸ none_left single rfl) ?_
    rintro j ⟨l, there, phase⟩
    rw [loops] at there
    rcases getElem?_concat_cases there with ⟨new, _⟩ | before
    · exact new.symm
    · exact absurd ⟨l, before, phase⟩ (none_alive j)
  | stopping drains running lifecycle calls alive =>
    obtain ⟨address, i, same, idle, last⟩ := orderly.of_running running
    refine .stopping address i s.calls.length drains (by rw [lifecycle, same]) ?_ ?_
      fun j lives => last j (alive j lives)
    · rw [calls, List.getElem?_concat_length, same]
    · intro j c found waits
      rw [calls] at found
      exact (only_new idle found waits).1
  | joined k i drains found exited lifecycle calls alive =>
    obtain ⟨address, i, rfl, same, single, last⟩ := orderly.of_joining found
    refine .stopped (by rw [lifecycle, same]) ?_ ?_
    · rw [calls]
      exact none_left single (by cases drains <;> rfl)
    · intro j lives
      obtain rfl := last j (alive j lives)
      exact not_alive_of_hasExited exited (alive j lives)
  | returned k c found past _ lifecycle calls alive =>
    refine orderly.quiet lifecycle (fun j d waits => ?_) alive
    rw [calls]
    constructor
    · intro there
      rcases getElem?_set_cases there with ⟨_, rfl⟩ | ⟨_, before⟩
      · rw [past] at waits
        cases waits
      · exact before
    · intro there
      by_cases same : k = j
      · subst same
        rw [found] at there
        cases there
        cases waits
      · rw [List.getElem?_set_ne same]
        exact there

end Orderly

/-- **In every state that a listener can come to, the order holds.** -/
theorem Reachable.orderly {limit : Option Nat} {s : Service} (reachable : Reachable limit s) :
    Orderly s := by
  induction reachable with
  | fresh => exact orderly_fresh limit
  | step _ step before => exact before.turn (turn_of_step step)

/-! ## Rounds -/

/-- How often the listener has come back to its stopped state. -/
def rounds (s : Service) : Nat := s.calls.countP Call.hasEnded

/-- How far the listener has come within a round. -/
def rank : State → Nat
  | .stopped => 0
  | .starting => 1
  | .running => 2
  | .stopping => 3

/-- How far the listener has come: through its rounds, and within the one under way. -/
def progress (s : Service) : Nat := 4 * s.rounds + rank s.lifecycle.state

theorem rank_lt (state : State) : rank state < 4 := by
  cases state <;> decide

theorem countP_set {α : Type} (p : α → Bool) {entries : List α} {i : Nat} {a : α} (b : α)
    (found : entries[i]? = some a) :
    (entries.set i b).countP p + (if p a then 1 else 0) =
      entries.countP p + (if p b then 1 else 0) := by
  obtain ⟨others, before, after⟩ := exists_perm_set found
  rw [(after b).countP_eq, before.countP_eq, List.countP_cons, List.countP_cons]
  omega

/-- A call that is made has not brought the listener back yet. -/
theorem rounds_concat {s t : Service} {c : Call} (calls : t.calls = s.calls ++ [c])
    (begun : c.hasEnded = false) : t.rounds = s.rounds := by
  simp [rounds, calls, begun]

theorem rounds_set {s t : Service} {k : Nat} {c d : Call} (found : s.calls[k]? = some c)
    (calls : t.calls = s.calls.set k d) :
    t.rounds + (if c.hasEnded then 1 else 0) = s.rounds + (if d.hasEnded then 1 else 0) := by
  rw [rounds, calls]
  exact countP_set Call.hasEnded d found

/-- **The listener goes through its states in their order**, and comes back to the first only at the
end of a round, however far it was within it. -/
theorem Orderly.progress_le {s t : Service} (orderly : Orderly s) (turn : Turn s t) :
    s.progress ≤ t.progress := by
  have still : t.rounds = s.rounds → t.lifecycle = s.lifecycle → s.progress ≤ t.progress := by
    intro same lifecycle
    exact Nat.le_of_eq (by rw [progress, progress, lifecycle, same])
  have ended : t.rounds = s.rounds + 1 → s.progress ≤ t.progress := by
    intro next
    have within := rank_lt s.lifecycle.state
    rw [progress, progress, next]
    omega
  have further : t.rounds = s.rounds → rank s.lifecycle.state ≤ rank t.lifecycle.state →
      s.progress ≤ t.progress := by
    intro same ranks
    rw [progress, progress, same]
    omega
  cases turn with
  | kept lifecycle calls _ => exact still (by rw [rounds, calls, rounds]) lifecycle
  | refused c _ begun lifecycle calls _ => exact still (rounds_concat calls begun) lifecycle
  | starting stopped lifecycle calls _ =>
    exact further (rounds_concat calls rfl) (by rw [stopped]; exact Nat.zero_le _)
  | unbound k e found _ calls _ => exact ended (rounds_set found calls)
  | crashed k found lifecycle calls _ => exact still (rounds_set found calls) lifecycle
  | running k address found lifecycle calls _ =>
    have before := (orderly.of_binding found).1
    exact further (rounds_set found calls) (by rw [before, lifecycle]; exact Nat.le_succ 1)
  | stopping drains running lifecycle calls _ =>
    exact further (rounds_concat calls rfl) (by rw [running, lifecycle]; exact Nat.le_succ 2)
  | joined k i drains found _ _ calls _ =>
    have counted := rounds_set found calls
    cases drains <;> exact ended counted
  | returned k c found _ arrived lifecycle calls _ =>
    have counted := rounds_set found calls
    rw [arrived] at counted
    exact still (Nat.add_right_cancel counted) lifecycle

theorem Reachable.progress_le {limit : Option Nat} {s t : Service} (reachable : Reachable limit s)
    {actions : List Action} (run : s.run actions = some t) : s.progress ≤ t.progress := by
  have kept := run_keeps (P := fun u => Reachable limit u ∧ s.progress ≤ u.progress)
    (fun step before => ⟨before.1.step step,
      Nat.le_trans before.2 (before.1.orderly.progress_le (turn_of_step step))⟩) run
    ⟨reachable, Nat.le_refl _⟩
  exact kept.2

/-- A listener that is less far within its round than it was is in a later one. -/
theorem Reachable.rounds_lt {limit : Option Nat} {s t : Service} (reachable : Reachable limit s)
    {actions : List Action} (run : s.run actions = some t)
    (back : rank t.lifecycle.state < rank s.lifecycle.state) : s.rounds < t.rounds := by
  have onward := reachable.progress_le run
  rw [progress, progress] at onward
  omega

/-! ## The end of a round -/

/-- A call stays as it is, or goes on in one of three ways. -/
theorem Turn.call_cases {s t : Service} (turn : Turn s t) {k : Nat} {c : Call}
    (found : s.calls[k]? = some c) :
    t.calls[k]? = some c ∨ c = .binding ∨
      (∃ (i : Option Nat) (drains : Bool), c = .joining i drains ∧ s.hasExited i = true ∧
        t.calls[k]? = some (if drains then .draining else .stopped (.ok ()))) ∨
      c = .draining ∧ ∃ d : Call, d.hasEnded = true ∧ t.calls[k]? = some d := by
  have within := (List.getElem?_eq_some_iff.mp found).1
  have concat : ∀ d : Call, (s.calls ++ [d])[k]? = some c := by
    intro d
    rw [List.getElem?_append_left within]
    exact found
  have set : ∀ (j : Nat) (d e : Call), s.calls[j]? = some d →
      (s.calls.set j e)[k]? = some c ∨ c = d ∧ (s.calls.set j e)[k]? = some e := by
    intro j d e there
    by_cases same : j = k
    · subst same
      rw [there] at found
      cases found
      exact .inr ⟨rfl, List.getElem?_set_self within⟩
    · rw [List.getElem?_set_ne same]
      exact .inl found
  cases turn with
  | kept _ calls _ => exact .inl (calls ▸ found)
  | refused d _ _ _ calls _ => exact .inl (calls ▸ concat d)
  | starting _ _ calls _ => exact .inl (calls ▸ concat _)
  | unbound j e there _ calls _ =>
    rcases set j _ (.started (.error (.bind e))) there with same | ⟨here, _⟩
    · exact .inl (calls ▸ same)
    · exact .inr (.inl here)
  | crashed j there _ calls _ =>
    rcases set j _ .crashed there with same | ⟨here, _⟩
    · exact .inl (calls ▸ same)
    · exact .inr (.inl here)
  | running j address there _ calls _ =>
    rcases set j _ (.started (.ok address)) there with same | ⟨here, _⟩
    · exact .inl (calls ▸ same)
    · exact .inr (.inl here)
  | stopping drains _ _ calls _ => exact .inl (calls ▸ concat _)
  | joined j i drains there exited _ calls _ =>
    rcases set j _ (if drains then .draining else .stopped (.ok ())) there with same | ⟨here, goes⟩
    · exact .inl (calls ▸ same)
    · exact .inr (.inr (.inl ⟨i, drains, here, exited, calls ▸ goes⟩))
  | returned j d there _ ended _ calls _ =>
    rcases set j _ d there with same | ⟨here, goes⟩
    · exact .inl (calls ▸ same)
    · exact .inr (.inr (.inr ⟨here, d, ended, calls ▸ goes⟩))

/-- A stop waits for its loop, or the loop has exited and the stop has gone on. -/
def StopsLoop (k i : Nat) (s : Service) : Prop :=
  (∃ drains, s.calls[k]? = some (.joining (some i) drains)) ∨
    (∃ c, s.calls[k]? = some c ∧ c.hasEnded = true) ∧ Exited (some i) s

theorem StopsLoop.step {s t : Service} {k i : Nat} {a : Action} (stops : StopsLoop k i s)
    (step : s.step a = some t) : StopsLoop k i t := by
  have turn := turn_of_step step
  have move := (move_of_step step).2
  rcases stops with ⟨drains, found⟩ | ⟨⟨c, found, ended⟩, exited⟩
  · rcases turn.call_cases found with same | other | ⟨j, drains', here, gone, goes⟩ | ⟨other, _⟩
    · exact .inl ⟨drains, same⟩
    · cases other
    · cases here
      refine .inr ⟨⟨_, goes, by cases drains <;> rfl⟩, ?_⟩
      exact (Exited.of_hasExited gone).move move
    · cases other
  · refine .inr ⟨?_, exited.move move⟩
    rcases turn.call_cases found with same | rfl | ⟨_, _, rfl, _, _⟩ | ⟨_, d, ended', goes⟩
    · exact ⟨c, same, ended⟩
    · cases ended
    · cases ended
    · exact ⟨d, goes, ended'⟩

/-- A loop has exited, and what it accepted is among the first so many connections. -/
structure Closed (i count : Nat) (s : Service) : Prop where
  exited : Exited (some i) s
  count_le : count ≤ s.tasks.length
  early : ∀ (k : Nat) (task : ConnectionTask), s.tasks[k]? = some task → task.loop = i → k < count

theorem Closed.of_exited {i : Nat} {s : Service} (exited : Exited (some i) s) :
    Closed i s.tasks.length s where
  exited := exited
  count_le := Nat.le_refl _
  early _ _ found _ := (List.getElem?_eq_some_iff.mp found).1

theorem Closed.move {s t : Service} {i count : Nat} (closed : Closed i count s) (move : Move s t) :
    Closed i count t where
  exited := closed.exited.move move
  count_le := Nat.le_trans closed.count_le move.length_tasks_le
  early k task there own := by
    rcases move.task_cases there with ⟨before, found, loop, _⟩ | ⟨_, l, found, open_yet⟩
    · exact closed.early k before found (loop.symm.trans own)
    · subst own
      obtain ⟨l', found', exited⟩ := closed.exited _ rfl
      rw [found] at found'
      cases found'
      exact absurd exited open_yet

/-! ## What callers can rely on -/

/-- What holds of a listener at any moment, whatever calls of it are under way. -/
structure Disciplined (s : Service) : Prop where
  running_iff : s.lifecycle.state = .running ↔
    s.lifecycle.signal.isSome ∧ s.lifecycle.loop.isSome
  /-- The loop that is told to stop is the loop that is waited for. -/
  same_loop : s.lifecycle.signal = s.lifecycle.loop
  address_iff : s.lifecycle.address.isSome ↔
    s.lifecycle.state = .running ∨ s.lifecycle.state = .stopping
  one_alive : ∀ i j, s.Alive i → s.Alive j → i = j
  alive_between : ∀ i, s.Alive i → s.lifecycle.state = .running ∨ s.lifecycle.state = .stopping
  /-- A loop comes to life only when a start gets the address that it waits for. -/
  born : ∀ (a : Action) (t : Service) (i : Nat), s.step a = some t → ¬ s.Alive i → t.Alive i →
    s.lifecycle.state = .starting ∧ t.lifecycle.state = .running ∧
      ∃ (k : Nat) (address : Address.Socket),
        s.calls[k]? = some .binding ∧ t.calls[k]? = some (.started (.ok address))
  /-- A start that does not find the listener stopped is told so, and changes nothing. -/
  start_refused : s.lifecycle.state ≠ .stopped → s.step .start = some { s with
    calls := s.calls ++ [.started (.error (.alreadyRunning s.lifecycle.state))] }
  /-- A stop that does not find the listener running is told so, and changes nothing. -/
  stop_refused : s.lifecycle.state ≠ .running → ∀ drains, s.step (.stop drains) = some { s with
    calls := s.calls ++ [.stopped (.error (.notRunning s.lifecycle.state))] }
  /-- Between two starts that go on a round ends. -/
  one_start : ∀ (t u : Service) (actions : List Action), s.lifecycle.state = .stopped →
    s.step .start = some t → t.run actions = some u → u.lifecycle.state = .stopped →
      t.rounds < u.rounds
  /-- Between two stops that go on a round ends. -/
  one_stop : ∀ (drains : Bool) (t u : Service) (actions : List Action),
    s.lifecycle.state = .running → s.step (.stop drains) = some t → t.run actions = some u →
      u.lifecycle.state = .running → t.rounds < u.rounds
  /-- When a stop has gone on behind its loop, the loop of its round has exited, and accepts nothing
  from then on. -/
  stop_closes : ∀ (drains : Bool) (t u : Service) (actions : List Action) (c : Call),
    s.lifecycle.state = .running → s.step (.stop drains) = some t → t.run actions = some u →
      u.calls[s.calls.length]? = some c → c.hasEnded = true →
        ∃ i, s.lifecycle.loop = some i ∧ (∀ j, s.Alive j → j = i) ∧
          ∀ (later : List Action) (v : Service), u.run later = some v →
            Closed i u.tasks.length v

theorem Orderly.stored {s : Service} (orderly : Orderly s) :
    (s.lifecycle.state = .running ↔ s.lifecycle.signal.isSome ∧ s.lifecycle.loop.isSome) ∧
      s.lifecycle.signal = s.lifecycle.loop ∧
      (s.lifecycle.address.isSome ↔
        s.lifecycle.state = .running ∨ s.lifecycle.state = .stopping) := by
  cases orderly with
  | stopped lifecycle _ _ => simp [lifecycle]
  | starting lifecycle _ _ _ => simp [lifecycle]
  | running _ _ lifecycle _ _ => simp [lifecycle]
  | stopping _ _ _ _ lifecycle _ _ _ => simp [lifecycle]

/-- A loop is alive only while the listener runs or stops, and it is the only one. -/
theorem Orderly.last_alive {s : Service} (orderly : Orderly s) {i : Nat} (alive : s.Alive i) :
    (s.lifecycle.state = .running ∨ s.lifecycle.state = .stopping) ∧ ∀ j, s.Alive j → j = i := by
  cases orderly with
  | stopped _ _ none_alive => exact absurd alive (none_alive i)
  | starting _ _ _ none_alive => exact absurd alive (none_alive i)
  | running _ k lifecycle _ last =>
    exact ⟨.inl (by rw [lifecycle]), fun j lives => (last j lives).trans (last i alive).symm⟩
  | stopping _ k _ _ lifecycle _ _ last =>
    exact ⟨.inr (by rw [lifecycle]), fun j lives => (last j lives).trans (last i alive).symm⟩

/-- A turn brings a loop to life only when a start gets its address. -/
theorem Orderly.born {s t : Service} (orderly : Orderly s) (turn : Turn s t) {i : Nat}
    (before : ¬ s.Alive i) (lives : t.Alive i) :
    s.lifecycle.state = .starting ∧ t.lifecycle.state = .running ∧
      ∃ (k : Nat) (address : Address.Socket),
        s.calls[k]? = some .binding ∧ t.calls[k]? = some (.started (.ok address)) := by
  cases turn with
  | running k address found lifecycle calls _ =>
    refine ⟨by rw [(orderly.of_binding found).1], by rw [lifecycle], k, address, found, ?_⟩
    rw [calls, List.getElem?_set_self (List.getElem?_eq_some_iff.mp found).1]
  | kept _ _ alive => exact absurd (alive i lives) before
  | refused _ _ _ _ _ alive => exact absurd (alive i lives) before
  | starting _ _ _ alive => exact absurd (alive i lives) before
  | unbound _ _ _ _ _ alive => exact absurd (alive i lives) before
  | crashed _ _ _ _ alive => exact absurd (alive i lives) before
  | stopping _ _ _ _ alive => exact absurd (alive i lives) before
  | joined _ _ _ _ _ _ _ alive => exact absurd (alive i lives) before
  | returned _ _ _ _ _ _ _ alive => exact absurd (alive i lives) before

/-- A start that finds the listener stopped goes on with it. -/
theorem start_of_stopped {s : Service} (stopped : s.lifecycle.state = .stopped) :
    s.start.lifecycle.state = .starting ∧ s.start.calls = s.calls ++ [.binding] := by
  rw [start, if_pos stopped]
  exact ⟨rfl, rfl⟩

/-- A stop that finds the listener running goes on with it. -/
theorem stop_of_running {s : Service} (running : s.lifecycle.state = .running) (drains : Bool) :
    (s.stop drains).lifecycle.state = .stopping ∧
      (s.stop drains).calls = s.calls ++ [.joining s.lifecycle.loop drains] := by
  rw [stop, if_pos running]
  exact ⟨rfl, rfl⟩

/-- What a stop that goes on leaves closed. -/
theorem Orderly.stop_closes {s u : Service} (orderly : Orderly s)
    (running : s.lifecycle.state = .running) {drains : Bool} {actions : List Action} {c : Call}
    (run : (s.stop drains).run actions = some u) (found : u.calls[s.calls.length]? = some c)
    (ended : c.hasEnded = true) :
    ∃ i, s.lifecycle.loop = some i ∧ (∀ j, s.Alive j → j = i) ∧
      ∀ (later : List Action) (v : Service), u.run later = some v → Closed i u.tasks.length v := by
  obtain ⟨_, i, lifecycle, _, last⟩ := orderly.of_running running
  have loop : s.lifecycle.loop = some i := by rw [lifecycle]
  refine ⟨i, loop, last, fun later v rest => ?_⟩
  have begun : StopsLoop s.calls.length i (s.stop drains) := by
    refine .inl ⟨drains, ?_⟩
    rw [(stop_of_running running drains).2, List.getElem?_concat_length, loop]
  have exited : Exited (some i) u := by
    rcases run_keeps (P := StopsLoop s.calls.length i) (fun step stops => stops.step step) run begun
      with ⟨_, waits⟩ | ⟨_, gone⟩
    · rw [found] at waits
      cases waits
      cases ended
    · exact gone
  exact run_keeps (P := Closed i u.tasks.length)
    (fun step closed => closed.move (move_of_step step).2)
    rest (.of_exited exited)

/-- **Whatever calls of a listener are under way at once, it keeps its discipline**: its lifecycle
stores what its state needs, one loop at most is alive, calls that come at the wrong time are refused
and change nothing, one start and one stop at most go on in a round, and a stop that succeeds leaves
its loop closed. -/
theorem disciplined_of_reachable {limit : Option Nat} {s : Service}
    (reachable : Reachable limit s) : Disciplined s := by
  have orderly := reachable.orderly
  obtain ⟨running_iff, same_loop, address_iff⟩ := orderly.stored
  refine
    { running_iff, same_loop, address_iff
      one_alive := fun i j first second => (orderly.last_alive second).2 i first
      alive_between := fun i alive => (orderly.last_alive alive).1
      born := fun a t i step before alive => orderly.born (turn_of_step step) before alive
      start_refused := fun busy => congrArg some (if_neg busy)
      stop_refused := fun idle drains => congrArg some (if_neg idle)
      one_start := ?_
      one_stop := ?_
      stop_closes := ?_ }
  · intro t u actions stopped step run again
    refine (reachable.step step).rounds_lt run ?_
    cases step
    rw [(start_of_stopped stopped).1, again]
    decide
  · intro drains t u actions running step run again
    refine (reachable.step step).rounds_lt run ?_
    cases step
    rw [(stop_of_running running drains).1, again]
    decide
  · intro drains t u actions c running step run found ended
    cases step
    exact orderly.stop_closes running run found ended

/-- Two starts and two stops at once, of which one start and one stop go on. -/
theorem disciplined_while_stopping : ∃ s : Service, Reachable (some 1) s ∧ s.calls.length = 4 ∧
    s.lifecycle.state = .stopping ∧ s.Alive 0 ∧ Disciplined s := by
  have run : (fresh (some 1)).run [.start, .start, .bound 0 (.ok { ip := .v4 0, port := 8080 }),
      .loop 0 .acquired, .stop true, .stop false] = some _ := rfl
  have reachable := Reachable.fresh.run run
  exact ⟨_, reachable, rfl, rfl, ⟨_, rfl, nofun⟩, disciplined_of_reachable reachable⟩

end Service

end Wiretap.Listener
