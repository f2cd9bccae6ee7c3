import Mathlib.Algebra.BigOperators.Group.Finset.Piecewise
import Mathlib.Data.List.Induction
import Wiretap.Proofs.Listener.Brackets
import Wiretap.Proofs.Listener.Capacity
import Wiretap.Proofs.Listener.Draining
import Wiretap.Proofs.Transport.Peered

/-!
# The stages of the connections

Whatever happens in the house, what was done for a connection so far is what its notes amount to
(`Stage`, `House.staged_of_steps`).  So a connection that has been attended is bracketed, and all its
calls went to the executor that was installed when it began to be attended (`House.began_of_run`).

The tracker counts the connections that were tracked and are tracked yet (`House.Kept.balanced`), and
when all have been attended none is active (`House.idle_of_allOver`).
-/

namespace Wiretap.Listener

set_option autoImplicit false

open Observer (HookCall Metric)
open Session (Context CountedOff Cue Ensemble Note Phase)
open Transport (ByteStream Peered)

variable {σ τ : Type}

/-! ## The stages -/

/-- What a connection has told so far. -/
def Visit.notes (v : Visit σ τ) : List Note := v.ensemble.told.map (·.2)

/-- How far a connection has come, by its task, by what is attended and by what was done for it. -/
inductive Stage : Option ConnectionTask → Option (Visit σ τ) → List Entry → Prop where
  | absent : Stage none none []
  | ahead {t : ConnectionTask} (accepted : t.phase = .accepted) : Stage (some t) none []
  | during {t : ConnectionTask} {v : Visit σ τ} {id : Nat} {p : Phase}
    (attended : t.phase = .attended id) (goesOn : v.lost = false)
    (conducted : v.ensemble.Conducted CountedOff p) :
    Stage (some t) (some v) (.tracked id t.executor :: Entry.written t.executor v.notes)
  | behind {t : ConnectionTask} {v : Visit σ τ} {a : Attendance} {p : Phase} (id : Nat)
    (ended : t.phase = .attendedTo a ∨ t.phase = .finished a)
    (conducted : v.ensemble.Conducted CountedOff p)
    (finished : v.ensemble.standing.rest = .finish a.outcome) :
    Stage (some t) (some v)
      (.tracked id t.executor :: Entry.written t.executor v.notes ++ [.released id])

namespace Stage

variable {t : ConnectionTask} {v : Visit σ τ} {es : List Entry}

/-- **What was done for a connection that has been attended is bracketed.** -/
theorem bracketed {visit : Option (Visit σ τ)} {a : Attendance} (stage : Stage (some t) visit es)
    (ended : t.phase = .attendedTo a ∨ t.phase = .finished a) :
    Bracketed t.executor a.outcome es := by
  cases stage with
  | ahead accepted => simp [accepted] at ended
  | during attended => simp [attended] at ended
  | @behind _ _ b p id before conducted finished =>
    have same : b = a := by
      cases before <;> cases ended <;> simp_all
    subst same
    have countedOff := conducted.follows
    rw [finished] at countedOff
    exact bracketed_of_after id conducted.heard countedOff

/-- Nothing was done for a connection that is not there. -/
theorem of_absent {visit : Option (Visit σ τ)} (stage : Stage none visit es) : es = [] := by
  cases stage
  rfl

/-- A connection that is accepted has not come anywhere. -/
theorem of_accepted {visit : Option (Visit σ τ)} (stage : Stage (some t) visit es)
    (accepted : t.phase = .accepted) : visit = none ∧ es = [] := by
  cases stage with
  | ahead _ => exact ⟨rfl, rfl⟩
  | during attended => simp [attended] at accepted
  | behind _ ended => simp [accepted] at ended

/-- A connection whose task gives its permit back stays as it is. -/
theorem returned {visit : Option (Visit σ τ)} {a : Attendance} (stage : Stage (some t) visit es)
    (attended : t.phase = .attendedTo a) :
    Stage (some { t with phase := .finished a }) visit es := by
  cases stage with
  | ahead accepted => simp [accepted] at attended
  | during before => simp [before] at attended
  | @behind _ v b p id ended conducted finished =>
    have same : b = a := by
      simpa [attended, eq_comm] using ended
    subst same
    exact .behind (t := { t with phase := .finished b }) id (.inr rfl) conducted finished

/-- **A connection to which something happens goes on in its phases, or has come to its end and
tells nothing.** -/
theorem cued [ByteStream σ] [ByteStream τ] {q : Cue σ τ} {ensemble : Ensemble σ τ}
    (stage : Stage (some t) (some v) es) (steps : v.ensemble.Steps v.context q ensemble) :
    Stage (some t) (some { v with ensemble }) (es ++ Entry.written t.executor
      ((ensemble.told.drop v.ensemble.told.length).map (·.2))) := by
  cases stage with
  | during attended goesOn conducted =>
    obtain ⟨p', conducted⟩ := Ensemble.conducted_step conducted steps
    obtain ⟨news, told⟩ := Ensemble.told_of_steps steps
    have written : Entry.written t.executor v.notes ++ Entry.written t.executor
        ((ensemble.told.drop v.ensemble.told.length).map (·.2)) =
          Entry.written t.executor (ensemble.told.map (·.2)) := by
      rw [told, List.drop_left, List.map_append, Entry.written_append]
      rfl
    rw [List.cons_append, written]
    exact .during attended goesOn conducted
  | behind id ended conducted finished =>
    obtain ⟨p', again⟩ := Ensemble.conducted_step conducted steps
    obtain ⟨still, told⟩ := Ensemble.still_of_finish conducted finished steps
    have silent : (ensemble.told.drop v.ensemble.told.length).map (·.2) = [] := by
      rw [told, List.drop_length]
      rfl
    rw [silent, Entry.written_nil, List.append_nil]
    have same : v.notes = ({ v with ensemble } : Visit σ τ).notes := by
      rw [Visit.notes, Visit.notes, told]
    rw [same]
    exact .behind id ended again still

/-- **A connection that has been attended has come to its end.** -/
theorem left {id : Nat} {a : Attendance} (stage : Stage (some t) (some v) es)
    (attended : t.phase = .attended id) (came : v.attendance? = some a) :
    Stage (some { t with phase := .attendedTo a }) (some v) (es ++ [.released id]) := by
  cases stage with
  | @during _ _ number p before goesOn conducted =>
    have same : number = id := TaskPhase.attended.inj (before.symm.trans attended)
    subst same
    rw [Visit.attendance?, goesOn] at came
    have finished : v.ensemble.standing.rest = .finish a.outcome := by
      cases rest : v.ensemble.standing.rest with
      | finish o =>
        rw [rest] at came
        cases came
        rfl
      | tell n next =>
        rw [rest] at came
        cases came
      | ask q next =>
        rw [rest] at came
        cases came
    exact .behind (t := { t with phase := .attendedTo a }) number (.inl rfl) conducted finished
  | behind number ended => simp [attended] at ended

end Stage

/-! ## Steps of the house -/

namespace Service

variable {s s' : Service} {i : Nat} {t : ConnectionTask}

theorem step_of_tracked (found : s.tasks[i]? = some t) (accepted : t.phase = .accepted)
    (went : s.step (.task i) = some s') :
    s'.tracker = s.tracker.track.2 ∧ s'.tasks = s.tasks.set i
      { t with phase := .attended s.tracker.track.1, executor := s.executor } := by
  simp only [step, advanceTask, found, accepted, Option.bind_eq_bind, Option.bind_some,
    Option.pure_def, Option.some.injEq] at went
  subst went
  exact ⟨rfl, rfl⟩

theorem step_of_attended {id : Nat} {a : Attendance} (found : s.tasks[i]? = some t)
    (attended : t.phase = .attended id) (went : s.step (.attended i a) = some s') :
    s'.tracker = s.tracker.release id ∧
      s'.tasks = s.tasks.set i { t with phase := .attendedTo a } := by
  simp only [step, concludeTask, found, attended, Option.bind_eq_bind, Option.bind_some,
    Option.pure_def, Option.some.injEq] at went
  subst went
  exact ⟨rfl, rfl⟩

/-- A step that attends nobody leaves every connection in its stage. -/
theorem Aloof.staged {visit : Option (Visit σ τ)} {es : List Entry} (aloof : s.Aloof s')
    (stage : Stage s.tasks[i]? visit es) : Stage s'.tasks[i]? visit es := by
  cases aloof with
  | keeps tasks tracker => rwa [tasks]
  | accepts loop tasks tracker =>
    rw [tasks]
    cases found : s.tasks[i]? with
    | some t =>
      rw [found] at stage
      rwa [List.getElem?_append_left (List.getElem?_eq_some_iff.mp found).1, found]
    | none =>
      rw [found] at stage
      cases stage with
      | absent =>
        rw [List.getElem?_append_right (List.getElem?_eq_none_iff.mp found),
          List.getElem?_singleton]
        split
        · exact .ahead rfl
        · exact .absent
  | returns j t a found phase tasks tracker =>
    rw [tasks]
    by_cases same : j = i
    · subst same
      rw [found] at stage
      rw [List.getElem?_set_self (List.getElem?_eq_some_iff.mp found).1]
      exact stage.returned phase
    · rwa [List.getElem?_set_ne same]

end Service

namespace House

/-- A connection is in the stage to which it has come. -/
def StagedAt (h : House σ τ) (i : Nat) : Prop :=
  Stage h.service.tasks[i]? (h.visits i) (h.entries i)

variable [ByteStream σ] [ByteStream τ] {f : Furnishing} {h h' : House σ τ} {event : Event σ τ}

/-- **Whatever happens in the house, every connection is in its stage.** -/
theorem staged_of_steps (steps : h.Steps f event h') {i : Nat} (staged : h.StagedAt i) :
    h'.StagedAt i := by
  rw [StagedAt] at staged ⊢
  cases steps with
  | serves went aloof => exact aloof.staged staged
  | @enters task id t stream address panic service context found accepted numbered known went =>
    rw [entries_write]
    obtain ⟨_, tasks⟩ := Service.step_of_tracked found accepted went
    change Stage service.tasks[i]? (if i = task then _ else h.visits i)
      (h.entries i ++ if task = i then _ else [])
    rw [tasks]
    by_cases same : task = i
    · subst same
      rw [found] at staged
      obtain ⟨_, nothing⟩ := staged.of_accepted accepted
      rw [List.getElem?_set_self (List.getElem?_eq_some_iff.mp found).1, if_pos rfl, if_pos rfl,
        nothing, ← numbered]
      exact .during rfl rfl
        (Ensemble.conducted_start _ _ (Session.follows_attendCaught panic context))
    · rw [List.getElem?_set_ne same, if_neg (Ne.symm same), if_neg same, List.append_nil]
      exact staged
  | @cues task q v ensemble heard here goesOn steps hears =>
    change Stage heard.service.tasks[i]? (if i = task then _ else heard.visits i)
      (heard.entries i)
    rw [entries_append _ hears.journal, hears.service, hears.visits]
    by_cases same : task = i
    · subst same
      rw [here] at staged
      rw [if_pos rfl, if_pos rfl, executor?]
      cases found : h.service.tasks[task]? with
      | none =>
        rw [found] at staged
        cases staged
      | some t =>
        rw [found] at staged
        exact staged.cued steps
    · rw [if_neg (Ne.symm same), if_neg same, List.append_nil]
      exact staged
  | @leaves task id t v attendance service found attended here came went =>
    rw [entries_write]
    obtain ⟨_, tasks⟩ := Service.step_of_attended found attended went
    change Stage service.tasks[i]? (h.visits i) (h.entries i ++ if task = i then _ else [])
    rw [tasks]
    by_cases same : task = i
    · subst same
      rw [found, here] at staged
      rw [List.getElem?_set_self (List.getElem?_eq_some_iff.mp found).1, here, if_pos rfl]
      exact staged.left attended came
    · rw [List.getElem?_set_ne same, if_neg same, List.append_nil]
      exact staged

end House

/-! ## The tracker and the journal -/

namespace House

/-- How many times something of a kind was done. -/
def tally (h : House σ τ) (kind : Entry → Bool) : Nat := h.journal.countP fun x => kind x.2

theorem tally_append {h h' : House σ τ} (es : List Entry) {task : Nat}
    (journal : h'.journal = h.journal ++ es.map (task, ·)) (kind : Entry → Bool) :
    h'.tally kind = h.tally kind + es.countP kind := by
  rw [tally, journal, List.countP_append, List.countP_map]
  rfl

theorem tally_write (h : House σ τ) (task : Nat) (x : Entry) (kind : Entry → Bool) :
    (h.write task x).tally kind = h.tally kind + if kind x then 1 else 0 := by
  rw [tally_append [x] rfl, List.countP_singleton]

/-- No note is written down as a connection that is tracked or is tracked no more. -/
theorem untracked_of_written {executor : Option Nat} {ns : List Note} {x : Entry}
    (member : x ∈ Entry.written executor ns) : x.isTracked = false ∧ x.isReleased = false := by
  obtain ⟨n, _, written⟩ := List.mem_filterMap.mp member
  obtain ⟨m, _, rfl⟩ | ⟨k, c, _, _, rfl⟩ := Entry.of_cases written
  · exact ⟨rfl, rfl⟩
  · exact ⟨rfl, rfl⟩

/-- What holds throughout every run. -/
structure Kept (limit : Option Nat) (h : House σ τ) : Prop where
  reachable : Service.Reachable limit h.service
  staged : ∀ i, h.StagedAt i
  /-- The tracker counts the connections that were tracked and are tracked yet. -/
  balanced : h.tally Entry.isTracked = h.service.active + h.tally Entry.isReleased

variable {limit : Option Nat}

theorem kept_fresh : (fresh limit : House σ τ).Kept limit where
  reachable := .fresh
  staged _ := .absent
  balanced := rfl

variable [ByteStream σ] [ByteStream τ] {f : Furnishing} {h h' : House σ τ} {event : Event σ τ}

theorem balanced_of_steps (sound : h.service.Sound) (steps : h.Steps f event h')
    (balanced : h.tally Entry.isTracked = h.service.active + h.tally Entry.isReleased) :
    h'.tally Entry.isTracked = h'.service.active + h'.tally Entry.isReleased := by
  cases steps with
  | @serves a service went aloof =>
    change h.tally _ = service.active + h.tally _
    rw [Service.active, aloof.tracker_eq]
    exact balanced
  | @enters task id t stream address panic service context found accepted numbered known went =>
    obtain ⟨tracker, _⟩ := Service.step_of_tracked found accepted went
    have active : service.active = h.service.active + 1 := by
      rw [Service.active, tracker]
      exact List.length_append
    rw [tally_write, tally_write]
    change h.tally _ + 1 = service.active + (h.tally _ + 0)
    omega
  | @cues task q v ensemble heard here goesOn steps hears =>
    change heard.tally _ = heard.service.active + heard.tally _
    rw [tally_append _ hears.journal, tally_append _ hears.journal, hears.service]
    rw [List.countP_eq_zero.mpr, List.countP_eq_zero.mpr]
    · exact balanced
    · intro x member
      simp [untracked_of_written member]
    · intro x member
      simp [untracked_of_written member]
  | @leaves task id t v attendance service found attended here came went =>
    obtain ⟨tracker, _⟩ := Service.step_of_attended found attended went
    have active : service.active + 1 = h.service.active := by
      rw [Service.active, tracker]
      exact List.length_erase_add_one (sound.counted found attended)
    rw [tally_write, tally_write]
    change h.tally _ + 0 = service.active + (h.tally _ + 1)
    omega

theorem kept_of_steps (steps : h.Steps f event h') (kept : h.Kept limit) : h'.Kept limit where
  reachable := by
    cases steps with
    | serves went aloof => exact kept.reachable.step went
    | enters found accepted numbered known went => exact kept.reachable.step went
    | @cues task q v ensemble heard here goesOn steps hears =>
      change Service.Reachable limit heard.service
      rw [hears.service]
      exact kept.reachable
    | leaves found phase here came went => exact kept.reachable.step went
  staged i := staged_of_steps steps (kept.staged i)
  balanced := balanced_of_steps kept.reachable.sound steps kept.balanced

theorem kept_of_run {events : List (Event σ τ)} (ran : (fresh limit).run f events = some h) :
    h.Kept limit :=
  run_keeps (P := Kept limit) kept_of_steps ran kept_fresh

end House

/-! ## Active connections -/

namespace House

/-- **What was done of a kind was done for some connection.** -/
theorem tally_eq_sum (h : House σ τ) (kind : Entry → Bool) {tasks : Finset Nat}
    (known : ∀ x ∈ h.journal, x.1 ∈ tasks) :
    h.tally kind = ∑ i ∈ tasks, (h.entries i).countP kind := by
  simp only [tally, entries]
  generalize h.journal = journal at known ⊢
  induction journal with
  | nil => simp
  | cons x journal ih =>
    obtain ⟨own, others⟩ := List.forall_mem_cons.mp known
    have one (i : Nat) :
        (((x :: journal).filter (·.1 = i)).map (·.2)).countP kind =
          ((journal.filter (·.1 = i)).map (·.2)).countP kind +
            if x.1 = i then if kind x.2 then 1 else 0 else 0 := by
      by_cases here : x.1 = i
      · rw [List.filter_cons_of_pos (by simpa using here), List.map_cons, List.countP_cons,
          if_pos here]
      · rw [List.filter_cons_of_neg (by simpa using here), if_neg here, Nat.add_zero]
    rw [List.countP_cons, ih others, Finset.sum_congr rfl fun i _ => one i,
      Finset.sum_add_distrib, Finset.sum_ite_eq, if_pos own]

/-- The gauge is the number of connections counted less the number counted off. -/
theorem gauge_eq (h : House σ τ) :
    h.gauge = h.tally Entry.isOpening - h.tally Entry.isClosing := by
  have counted (kind : Metric → Bool) :
      (h.journal.filterMap fun x => x.2.metric?).countP kind =
        h.tally fun x => (x.metric?.map kind).getD false :=
    List.countP_filterMap
  rw [gauge, ← Metric.total, Metric.active_eq, counted, counted]
  rfl

/-- Every connection has been attended to its end. -/
def AllOver (h : House σ τ) : Prop := ∀ t ∈ h.service.tasks, t.IsOver

/-- **When every connection has been attended, none is active**, neither by the tracker nor by what
was counted: each is bracketed or has not been there. -/
theorem idle_of_allOver {limit : Option Nat} {h : House σ τ} (kept : h.Kept limit)
    (ended : h.AllOver) : h.service.active = 0 ∧ h.gauge = 0 := by
  constructor
  · rw [Service.active_eq_countP kept.reachable.sound, List.countP_eq_zero]
    intro t member
    rw [(ended t member).number?_eq_none]
    exact Bool.false_ne_true
  · have alike (i : Nat) :
        (h.entries i).countP Entry.isOpening = (h.entries i).countP Entry.isClosing := by
      have staged := kept.staged i
      rw [StagedAt] at staged
      cases found : h.service.tasks[i]? with
      | none =>
        rw [found] at staged
        rw [staged.of_absent]
        rfl
      | some t =>
        rw [found] at staged
        obtain ⟨a, came⟩ := ended t (List.mem_of_getElem? found)
        obtain ⟨opening, closing⟩ := (staged.bracketed came).counts
        rw [opening, closing]
    have known : ∀ x ∈ h.journal, x.1 ∈ (h.journal.map (·.1)).toFinset := by
      intro x member
      exact List.mem_toFinset.mpr (List.mem_map_of_mem member)
    rw [gauge_eq, tally_eq_sum h _ known, tally_eq_sum h _ known,
      Finset.sum_congr rfl fun i _ => alike i]
    exact Int.sub_self _

end House

/-! ## What a connection took at its start -/

namespace House

variable [ByteStream σ] [ByteStream τ] {f : Furnishing} {limit : Option Nat}

/-- A connection began to be attended in a run, when this executor was installed. -/
def Began (f : Furnishing) (limit : Option Nat) (events : List (Event σ τ)) (i : Nat)
    (executor : Option Nat) : Prop :=
  ∃ (before after : List (Event σ τ)) (stream : σ) (address : String) (panic : Option Nat)
    (h : House σ τ), events = before ++ .enter i stream address panic :: after ∧
      (fresh limit).run f before = some h ∧ h.service.executor = executor

theorem Began.concat {events : List (Event σ τ)} {i : Nat} {executor : Option Nat}
    (began : Began f limit events i executor) (event : Event σ τ) :
    Began f limit (events ++ [event]) i executor := by
  obtain ⟨before, after, stream, address, panic, h, rfl, ran, installed⟩ := began
  exact ⟨before, after ++ [event], stream, address, panic, h, by simp, ran, installed⟩

/-- A connection that is attended was so before, or begins to be. -/
theorem begun_of_steps {h h' : House σ τ} {event : Event σ τ} (steps : h.Steps f event h')
    {i : Nat} {t : ConnectionTask} (found : h'.service.tasks[i]? = some t)
    (begun : t.phase ≠ .accepted) :
    (∃ before, h.service.tasks[i]? = some before ∧ before.phase ≠ .accepted ∧
      before.executor = t.executor) ∨
    ∃ stream address panic, event = .enter i stream address panic ∧
      h.service.executor = t.executor := by
  cases steps with
  | @serves a service went aloof =>
    left
    change service.tasks[i]? = some t at found
    cases aloof with
    | keeps tasks tracker => exact ⟨t, tasks ▸ found, begun, rfl⟩
    | accepts loop tasks tracker =>
      rw [tasks] at found
      obtain ⟨_, rfl⟩ | found := getElem?_concat_cases found
      · exact absurd rfl begun
      · exact ⟨t, found, begun, rfl⟩
    | returns j task a there phase tasks tracker =>
      rw [tasks] at found
      obtain ⟨rfl, rfl⟩ | ⟨_, found⟩ := getElem?_set_cases found
      · refine ⟨task, there, ?_, rfl⟩
        rw [phase]
        exact nofun
      · exact ⟨t, found, begun, rfl⟩
  | @enters task id old stream address panic service context there accepted numbered known went =>
    obtain ⟨_, tasks⟩ := Service.step_of_tracked there accepted went
    change service.tasks[i]? = some t at found
    rw [tasks] at found
    obtain ⟨rfl, rfl⟩ | ⟨_, found⟩ := getElem?_set_cases found
    · exact .inr ⟨stream, address, panic, rfl, rfl⟩
    · exact .inl ⟨t, found, begun, rfl⟩
  | @cues task q v ensemble heard here goesOn steps hears =>
    change heard.service.tasks[i]? = some t at found
    rw [hears.service] at found
    exact .inl ⟨t, found, begun, rfl⟩
  | @leaves task id old v a service there attended here came went =>
    obtain ⟨_, tasks⟩ := Service.step_of_attended there attended went
    change service.tasks[i]? = some t at found
    rw [tasks] at found
    obtain ⟨rfl, rfl⟩ | ⟨_, found⟩ := getElem?_set_cases found
    · refine .inl ⟨old, there, ?_, rfl⟩
      rw [attended]
      exact nofun
    · exact .inl ⟨t, found, begun, rfl⟩

/-- **A connection keeps the executor that was installed when it began to be attended**, whatever is
installed then.  One that had begun before the last event did so in the run before it. -/
theorem began_of_run {events : List (Event σ τ)} {h : House σ τ} {i : Nat} {t : ConnectionTask}
    (ran : (fresh limit).run f events = some h) (found : h.service.tasks[i]? = some t)
    (begun : t.phase ≠ .accepted) : Began f limit events i t.executor := by
  induction events using List.reverseRecOn generalizing h t with
  | nil =>
    cases ran
    cases found
  | append_singleton events event ih =>
    rw [run, List.foldlM_append] at ran
    obtain ⟨middle, first, last⟩ := Option.bind_eq_some_iff.mp ran
    obtain ⟨middle', went, ⟨⟩⟩ := Option.bind_eq_some_iff.mp last
    obtain ⟨before, earlier, already, same⟩ | ⟨stream, address, panic, rfl, same⟩ :=
      begun_of_steps (steps_of_step went) found begun
    · rw [← same]
      exact (ih first earlier already).concat event
    · exact ⟨events, [], stream, address, panic, middle, rfl, first, same⟩

/-! ## Brackets -/

/-- **What was done for a connection is bracketed once it has been attended**, whatever its peers do
and however it comes out, whatever the executors do and whichever is installed meanwhile, and
whatever goes on beside it: it was tracked once, counted once, started and handled once, and behind
all else that was told of it, it was ended once, counted off once under its outcome, and is tracked
no more.  All its calls went to the executor that was installed when it began to be attended, if any.
As many connections are active as were tracked and are tracked yet, and none is active when all have
been attended, neither by the tracker nor by what was counted. -/
theorem bracketed_of_run {events : List (Event σ τ)} {h : House σ τ}
    (ran : (fresh limit).run f events = some h) :
    (∀ (i : Nat) (t : ConnectionTask) (a : Attendance), h.service.tasks[i]? = some t →
      t.phase = .attendedTo a ∨ t.phase = .finished a →
        Began f limit events i t.executor ∧ Bracketed t.executor a.outcome (h.entries i)) ∧
    h.tally Entry.isTracked = h.service.active + h.tally Entry.isReleased ∧
    (h.AllOver → h.service.active = 0 ∧ h.gauge = 0) := by
  have kept := kept_of_run ran
  refine ⟨?_, kept.balanced, idle_of_allOver kept⟩
  intro i t a found ended
  have staged := kept.staged i
  rw [StagedAt, found] at staged
  refine ⟨began_of_run ran found ?_, staged.bracketed ended⟩
  intro accepted
  simp [accepted] at ended

/-- A client's greeting is not one that the proxy serves.  The executor that hears of it panics at
every call, and is taken away meanwhile. -/
theorem bracketed_of_run_panicking :
    let f : Furnishing :=
      ⟨{ loggingEnabled := false }, fun _ => ⟨fun _ _ _ => { ending := .panicked }⟩⟩
    let client : Peered := ((Peered.fresh 256 [5, 0]).sends 256).ends
    let go : Event Peered Peered := .cue 0 (.dialogue .go)
    let events : List (Event Peered Peered) :=
      [.service .start, .service (.bound 0 (.ok { ip := .v4 0, port := 8080 })),
        .service (.install (some 7)), .service (.loop 0 .acquired), .service (.loop 0 .accepted),
        .enter 0 client "127.0.0.1:50000" none, go, go, .service (.install none), go, go, go, go,
        go, go, go, .cue 0 (.dialogue (.answer ⟨.elapsed, (5 : Nat)⟩)), go, go, .leave 0,
        .service (.task 0)]
    ∃ h, (fresh (some 2)).run f events = some h ∧ Began f (some 2) events 0 (some 7) ∧
      Bracketed (some 7) ⟨some .socks5, some (.unsupported "socks5")⟩ (h.entries 0) ∧
      h.service.executor = none ∧ h.service.active = 0 ∧ h.gauge = 0 := by
  intro f client go events
  let outcome : Session.Outcome := ⟨some .socks5, some (.unsupported "socks5")⟩
  let ended : ConnectionTask :=
    { loop := 0, phase := .finished ⟨outcome, none⟩, executor := some 7 }
  have goes : ((fresh (some 2)).run f events).any fun h =>
      h.service.tasks == [ended] && h.service.executor == none := by
    decide +kernel
  obtain ⟨h, ran, came⟩ := (Option.any_eq_true _ _).mp goes
  simp only [Bool.and_eq_true, beq_iff_eq] at came
  obtain ⟨tasks, taken⟩ := came
  obtain ⟨each, _, idle⟩ := bracketed_of_run ran
  have found : h.service.tasks[0]? = some ended := by
    rw [tasks]
    rfl
  obtain ⟨began, bracketed⟩ := each 0 ended _ found (.inr rfl)
  have allOver : h.AllOver := by
    intro t member
    rw [tasks, List.mem_singleton] at member
    subst member
    exact ⟨_, .inr rfl⟩
  obtain ⟨active, gauge⟩ := idle allOver
  exact ⟨h, ran, began, bracketed, taken, active, gauge⟩

end House

end Wiretap.Listener
