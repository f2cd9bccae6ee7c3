import Wiretap.Proofs.Listener.Lifecycle
import Wiretap.Settings.Effective

/-!
# How a start comes to its end

A start makes the permits of its loop after it has moved the listener out of its stopped state.  Only
so many permits can be made at once, and settings may ask for more than that.  With such settings a
start that gets its address ends where it stands, and leaves the listener starting for good
(`Wedged`): no call can start it or stop it any more.

With any other settings, and whenever the address is not bound, a start comes to its end as it should
(`Settled`).  So the settings under which every start does are those whose limit is not too great
(`start_settles_iff`).
-/

namespace Wiretap.Listener

set_option autoImplicit false

open Settings (Effective File)

namespace Service

/-- A start has told what became of its address, and left the listener running or stopped. -/
def Settled (t : Service) (k : Nat) : Except IoFault Address.Socket → Prop
  | .ok address => t.calls[k]? = some (.started (.ok address)) ∧ t.lifecycle.state = .running
  | .error e => t.calls[k]? = some (.started (.error (.bind e))) ∧ t.lifecycle.state = .stopped

/-- A start has not returned, and whatever happens the listener is starting and refuses all calls. -/
structure Wedged (t : Service) (k : Nat) : Prop where
  crashed : t.calls[k]? = some .crashed
  refuses : ∀ (actions : List Action) (u : Service), t.run actions = some u →
    u.lifecycle.state = .starting ∧
      u.step .start = some { u with
        calls := u.calls ++ [.started (.error (.alreadyRunning .starting))] } ∧
      ∀ drains, u.step (.stop drains) = some { u with
        calls := u.calls ++ [.stopped (.error (.notRunning .starting))] }

/-! ## A listener that no call goes on with -/

/-- The listener is starting, and no call is on its way with it. -/
structure Deserted (s : Service) : Prop where
  starting : s.lifecycle.state = .starting
  idle : ∀ c ∈ s.calls, c.isPending = false

theorem Deserted.set {s t : Service} (deserted : Deserted s) {k : Nat} {c : Call}
    (past : c.isPending = false) (lifecycle : t.lifecycle = s.lifecycle)
    (calls : t.calls = s.calls.set k c) : Deserted t where
  starting := lifecycle ▸ deserted.starting
  idle d member := by
    rw [calls] at member
    rcases List.mem_or_eq_of_mem_set member with before | rfl
    · exact deserted.idle d before
    · exact past

theorem Deserted.turn {s t : Service} (deserted : Deserted s) (turn : Turn s t) : Deserted t := by
  obtain ⟨starting, idle⟩ := deserted
  have nobody : ∀ (k : Nat) (c : Call), s.calls[k]? = some c → c.isPending = true → False := by
    intro k c found waits
    rw [idle c (List.mem_of_getElem? found)] at waits
    cases waits
  cases turn with
  | kept lifecycle calls _ => exact ⟨lifecycle ▸ starting, calls ▸ idle⟩
  | refused c past _ lifecycle calls _ =>
    refine ⟨lifecycle ▸ starting, fun d member => ?_⟩
    rw [calls] at member
    rcases List.mem_append.mp member with before | new
    · exact idle d before
    · rw [List.mem_singleton.mp new]
      exact past
  | starting stopped _ _ _ => rw [starting] at stopped; cases stopped
  | unbound k e found _ _ _ => exact (nobody k _ found rfl).elim
  | crashed k found _ _ _ => exact (nobody k _ found rfl).elim
  | running k address found _ _ _ => exact (nobody k _ found rfl).elim
  | stopping drains running _ _ _ => rw [starting] at running; cases running
  | joined k i drains found _ _ _ _ => exact (nobody k _ found rfl).elim
  | returned k c _ past _ lifecycle calls _ =>
    exact Deserted.set ⟨starting, idle⟩ past lifecycle calls

/-- **A listener that was left starting is wedged.** -/
theorem Deserted.wedged {t : Service} (deserted : Deserted t) {k : Nat}
    (crashed : t.calls[k]? = some .crashed) : Wedged t k := by
  refine ⟨crashed, fun actions u run => ?_⟩
  have starting := (run_keeps (P := Deserted) (fun step => (·.turn (turn_of_step step))) run
    deserted).starting
  have busy : u.lifecycle.state ≠ .stopped := by rw [starting]; nofun
  have idle : u.lifecycle.state ≠ .running := by rw [starting]; nofun
  refine ⟨starting, ?_, fun drains => ?_⟩
  · rw [Service.step, start, if_neg busy, starting]
    rfl
  · rw [Service.step, stop, if_neg idle, starting]
    rfl

/-! ## The end of a start -/

theorem step_bound {s : Service} {k : Nat} (found : s.calls[k]? = some .binding)
    (result : Except IoFault Address.Socket) :
    s.step (.bound k result) = some (s.bind k result) := by
  rw [Service.step, found]

/-- A start whose address is not bound comes to its end. -/
theorem settled_of_error {s : Service} {k : Nat} (found : s.calls[k]? = some .binding)
    (e : IoFault) : Settled (s.bind k (.error e)) k (.error e) := by
  refine ⟨?_, rfl⟩
  exact List.getElem?_set_self (List.getElem?_eq_some_iff.mp found).1

/-- A start comes to its end when the permits of its loop can be made. -/
theorem settled_of_fits {s : Service} {k : Nat} (found : s.calls[k]? = some .binding)
    (fits : ∀ n, s.limit = some n → n ≤ permitLimit) (result : Except IoFault Address.Socket) :
    Settled (s.bind k result) k result := by
  cases result with
  | error e => exact settled_of_error found e
  | ok address =>
    have small : s.limit.any (permitLimit < ·) = false := by
      cases limit : s.limit with
      | none => rfl
      | some n => simpa using fits n limit
    rw [bind, small]
    refine ⟨?_, rfl⟩
    exact List.getElem?_set_self (List.getElem?_eq_some_iff.mp found).1

/-- A start whose loop would have too many permits leaves the listener wedged. -/
theorem wedged_of_great {s : Service} (orderly : Orderly s) {k n : Nat}
    (found : s.calls[k]? = some .binding) (limited : s.limit = some n) (great : permitLimit < n)
    (address : Address.Socket) : Wedged (s.bind k (.ok address)) k := by
  have crash : s.bind k (.ok address) = s.setCall k .crashed := by
    rw [bind, limited]
    simp [great]
  obtain ⟨starting, single, _⟩ := orderly.of_binding found
  have deserted : Deserted (s.setCall k .crashed) :=
    ⟨by rw [setCall, starting], Orderly.none_left single rfl⟩
  rw [crash]
  exact deserted.wedged (List.getElem?_set_self (List.getElem?_eq_some_iff.mp found).1)

theorem not_settled_of_wedged {t : Service} {k : Nat} (wedged : Wedged t k)
    (result : Except IoFault Address.Socket) : ¬ Settled t k result := by
  intro settled
  have crashed := wedged.crashed
  cases result <;> rw [settled.1] at crashed <;> cases crashed

/-- The limit in effect is that of the file, where the file has one. -/
theorem maxConnections_of_validate {file : File} {e : Effective}
    {replaced : List Settings.Replacement} (valid : Effective.validate file = .ok (e, replaced)) :
    e.maxConnections = Effective.positive? file.listener.maxConnections := by
  unfold Effective.validate at valid
  split at valid <;> cases valid
  rfl

/-- The limit of the file is too great exactly if that in effect is. -/
theorem great_iff {file : File} {e : Effective} {replaced : List Settings.Replacement}
    (valid : Effective.validate file = .ok (e, replaced)) :
    (permitLimit : Int) < file.listener.maxConnections ↔
      ∃ n, e.maxConnections = some n ∧ permitLimit < n := by
  rw [maxConnections_of_validate valid, Effective.positive?]
  split
  · next positive =>
    simp only [Option.some.injEq, exists_eq_left']
    omega
  · next negative =>
    constructor
    · intro great
      exact absurd (Int.lt_of_le_of_lt (Int.natCast_nonneg _) great) negative
    · rintro ⟨n, none_there, _⟩
      cases none_there

/-- A start on a fresh listener waits for its address. -/
theorem exists_binding (limit : Option Nat) :
    ∃ s, Reachable limit s ∧ s.calls[0]? = some .binding :=
  ⟨(fresh limit).start, Reachable.fresh.step (a := .start) rfl, rfl⟩

/-- **Every start under settings comes to its end exactly if their limit is not too great.**  A start
that finds the listener stopped goes on, and behind the binding of its address it has settled, or
there are too many permits to make and the listener is wedged. -/
theorem start_settles_iff {file : File} {e : Effective} {replaced : List Settings.Replacement}
    (valid : Effective.validate file = .ok (e, replaced)) :
    ((∀ (s : Service) (k : Nat) (result : Except IoFault Address.Socket),
        Reachable e.maxConnections s → s.calls[k]? = some .binding →
          ∃ t, s.step (.bound k result) = some t ∧ Settled t k result) ↔
      file.listener.maxConnections ≤ permitLimit) ∧
    (∀ s, Reachable e.maxConnections s → s.lifecycle.state = .stopped →
      ∃ t, s.step .start = some t ∧ t.calls[s.calls.length]? = some .binding) ∧
    (∀ (s : Service) (k : Nat) (result : Except IoFault Address.Socket),
      Reachable e.maxConnections s → s.calls[k]? = some .binding →
        ∃ t, s.step (.bound k result) = some t ∧
          (Settled t k result ∨
            permitLimit < file.listener.maxConnections ∧ (∃ address, result = .ok address) ∧
              Wedged t k)) := by
  refine ⟨⟨fun settles => ?_, fun small s k result reachable found => ?_⟩, ?_, ?_⟩
  · by_contra great
    obtain ⟨n, limited, great⟩ := (great_iff valid).mp (Int.not_le.mp great)
    obtain ⟨s, reachable, found⟩ := exists_binding e.maxConnections
    let address : Address.Socket := { ip := .v4 0, port := 8080 }
    obtain ⟨t, step, settled⟩ := settles s 0 (.ok address) reachable found
    rw [step_bound found] at step
    cases step
    have limit := reachable.limit_eq.trans limited
    exact not_settled_of_wedged (wedged_of_great reachable.orderly found limit great address) _
      settled
  · have fits : ∀ n, s.limit = some n → n ≤ permitLimit := by
      intro n limited
      by_contra great
      have limit := reachable.limit_eq.symm.trans limited
      exact absurd ((great_iff valid).mpr ⟨n, limit, Nat.not_le.mp great⟩) (Int.not_lt.mpr small)
    exact ⟨_, step_bound found result, settled_of_fits found fits result⟩
  · intro s _ stopped
    refine ⟨s.start, rfl, ?_⟩
    rw [(start_of_stopped stopped).2]
    exact List.getElem?_concat_length
  · intro s k result reachable found
    refine ⟨_, step_bound found result, ?_⟩
    cases result with
    | error fault => exact .inl (settled_of_error found fault)
    | ok address =>
      by_cases great : ∃ n, e.maxConnections = some n ∧ permitLimit < n
      · obtain ⟨n, limited, more⟩ := great
        refine .inr ⟨(great_iff valid).mpr ⟨n, limited, more⟩, ⟨address, rfl⟩, ?_⟩
        exact wedged_of_great reachable.orderly found (reachable.limit_eq.trans limited) more address
      · refine .inl (settled_of_fits found (fun n limited => ?_) _)
        by_contra more
        exact great ⟨n, reachable.limit_eq.symm.trans limited, Nat.not_le.mp more⟩

/-- Under the settings of an empty file every start comes to its end. -/
theorem start_settles_of_empty_file : ∃ (e : Effective) (replaced : List Settings.Replacement),
    Effective.validate {} = .ok (e, replaced) ∧ e.maxConnections = some 10000 ∧
      ∀ (s : Service) (k : Nat) (result : Except IoFault Address.Socket),
        Reachable e.maxConnections s → s.calls[k]? = some .binding →
          ∃ t, s.step (.bound k result) = some t ∧ Settled t k result := by
  obtain ⟨e, replaced, valid, limited⟩ : ∃ (e : Effective) (replaced : List Settings.Replacement),
      Effective.validate {} = .ok (e, replaced) ∧ e.maxConnections = some 10000 :=
    ⟨_, _, rfl, rfl⟩
  exact ⟨e, replaced, valid, limited, (start_settles_iff valid).1.mpr (by decide)⟩

/-- A file that asks for one permit too many leaves a start whose address is bound where it stands,
and the listener starting. -/
theorem start_wedges_of_great_limit : ¬ ∀ (file : File) (e : Effective)
    (replaced : List Settings.Replacement), Effective.validate file = .ok (e, replaced) →
      ∀ (s t : Service) (k : Nat) (address : Address.Socket), Reachable e.maxConnections s →
        s.calls[k]? = some .binding → s.step (.bound k (.ok address)) = some t →
          t.calls[k]? ≠ some .crashed ∧ t.lifecycle.state ≠ .starting := by
  intro returns
  obtain ⟨e, replaced, valid, limited⟩ : ∃ (e : Effective) (replaced : List Settings.Replacement),
      Effective.validate { listener := { maxConnections := 2305843009213693952 } } =
        .ok (e, replaced) ∧ e.maxConnections = some 2305843009213693952 := ⟨_, _, rfl, rfl⟩
  obtain ⟨s, reachable, found⟩ := exists_binding e.maxConnections
  let address : Address.Socket := { ip := .v4 0x7f000001, port := 8080 }
  have wedged := wedged_of_great reachable.orderly found (reachable.limit_eq.trans limited)
    (by decide) address
  exact (returns _ e replaced valid s _ 0 address reachable found (step_bound found _)).1
    wedged.crashed

end Service

end Wiretap.Listener
