import Wiretap.Proofs.Transport.Sinks

/-!
# What the phase of a takeover tells

While its phase says that a takeover is negotiating, nothing should have been written, so that a
framed response is the first thing on the stream or is refused (`TellsTruth`).  An operation that
is done sees to that.  One that breaks off in the middle does not: the sink has been given the
first bytes of what was to be written, and the phase stays as it was (`BreaksOff`).  So the phase
tells the truth throughout a script exactly when no operation of it breaks off while the takeover
is negotiating (`tells_truth_iff`), and a sink that fails in the middle of a write makes it lie
(`phase_lies_behind_torn_write`).
-/

namespace Wiretap.Message.Takeover

set_option autoImplicit false

open Transport (Attempt ByteSink LawfulSink Limited Travelled traffic writeAll writeAll_spec)

section

variable {σ : Type} [ByteSink σ]

/-- The takeover behind the operations of a script. -/
def after (t : Takeover σ) (script : List Operation) : Takeover σ :=
  script.foldl (fun t op => (t.perform op).2) t

theorem after_concat (t : Takeover σ) (script : List Operation) (op : Operation) :
    t.after (script ++ [op]) = ((t.after script).perform op).2 := by
  rw [after, List.foldl_concat]
  rfl

/-- Whether an operation came to nothing: it failed, or nobody took what was written. -/
def Effect.isBroken : Effect → Bool
  | .failed _ => true
  | .stalled => true
  | _ => false

variable [Travelled σ]

/-- What the sink has been given. -/
def given (t : Takeover σ) : Bytes := (traffic t.sink).given

/-- The operation breaks off in the middle: it comes to nothing, yet it gives the sink something. -/
def BreaksOff (t : Takeover σ) (op : Operation) : Prop :=
  (t.perform op).1.isBroken ∧ (t.perform op).2.given ≠ t.given

instance (t : Takeover σ) (op : Operation) : Decidable (t.BreaksOff op) :=
  inferInstanceAs (Decidable (_ ∧ _))

/-- The phase tells the truth about a takeover of a sink that had been given some bytes before. -/
structure TellsTruth (before : Bytes) (t : Takeover σ) : Prop where
  /-- While it is negotiating, the takeover has given the sink nothing. -/
  untouched : t.phase = .negotiating → t.given = before
  /-- What a framed response gives the sink is the first thing that the takeover gives it. -/
  first : ∀ status body, (t.respond status body).2.given ≠ t.given → t.given = before
  /-- Once it has given the sink something, a framed response fails and touches nothing. -/
  refuses : t.given ≠ before →
    ∀ status body, t.respond status body = (.failed IoFault.rawBytesSent, t)

/-! ## What an operation does to the phase -/

omit [Travelled σ] in
theorem respond_of_phase {t : Takeover σ} (later : t.phase ≠ .negotiating) (status : Status)
    (body : Bytes) : t.respond status body = (.failed IoFault.rawBytesSent, t) := by
  rw [respond, if_neg later]

/-- The phase needs only to be right about what has been given; then a framed response is. -/
theorem tellsTruth_of_untouched {t : Takeover σ} {before : Bytes}
    (untouched : t.phase = .negotiating → t.given = before) : t.TellsTruth before := by
  refine ⟨untouched, fun status body gives => ?_, fun touched => ?_⟩
  · by_cases here : t.phase = .negotiating
    · exact untouched here
    · rw [respond_of_phase here] at gives
      exact absurd rfl gives
  · exact respond_of_phase fun here => touched (untouched here)

omit [Travelled σ] in
/-- Writing all of some bytes either is done, or leaves the phase as it was. -/
theorem put_cases (data : Bytes) (t : Takeover σ) :
    ((t.put data).1 = .done () ∧ (t.put data).2.phase = .hijacked) ∨
      ((t.put data).1 ≠ .done () ∧ (t.put data).2.phase = t.phase) := by
  rw [put]
  split
  · exact .inl ⟨rfl, rfl⟩
  · next unfinished => exact .inr ⟨fun all => unfinished all, rfl⟩

omit [Travelled σ] in
/-- A closed takeover writes nothing, and any other writes as it can. -/
theorem write_cases (data : Bytes) (t : Takeover σ) :
    (t.phase = .closed ∧ t.write data = (.failed IoFault.takeoverClosed, t)) ∨
      t.write data = ((t.put data).1.map fun () => data.length, (t.put data).2) := by
  rw [write]
  split
  · next closed => exact .inl ⟨closed, rfl⟩
  · exact .inr rfl

omit [Travelled σ] in
/-- Storing a field touches neither the phase nor the sink. -/
theorem perform_field (t : Takeover σ) (name value : Bytes) :
    (t.perform (.field name value)).2.phase = t.phase ∧
      (t.perform (.field name value)).2.sink = t.sink := by
  rw [perform]
  split
  · exact ⟨rfl, rfl⟩
  · split <;> exact ⟨rfl, rfl⟩

omit [Travelled σ] in
theorem phase_close (t : Takeover σ) : t.close.2.phase = .closed := by
  rw [close]
  split
  · next closed => exact closed
  · split <;> rfl

omit [Travelled σ] in
theorem respond_of_negotiating {t : Takeover σ} (here : t.phase = .negotiating) (status : Status)
    (body : Bytes) : t.respond status body = t.put (Reply.framed status t.fields body) := by
  rw [respond, if_pos here]

omit [Travelled σ] in
theorem perform_respond (t : Takeover σ) (status : Status) (body : Bytes) :
    t.perform (.respond status body) =
      (.ofAttempt (t.respond status body).1, (t.respond status body).2) := rfl

omit [Travelled σ] in
theorem isBroken_ofAttempt_iff {r : Attempt Unit} :
    (Effect.ofAttempt r).isBroken ↔ r ≠ .done () := by
  cases r with
  | done => exact ⟨nofun, fun unfinished => absurd rfl unfinished⟩
  | failed | blocked => exact ⟨fun _ => nofun, fun _ => rfl⟩

omit [Travelled σ] in
/-- A takeover is still negotiating behind an operation that comes to nothing, unless it is
closed. -/
theorem phase_of_broken {t : Takeover σ} {op : Operation} (here : t.phase = .negotiating)
    (broken : (t.perform op).1.isBroken) : (t.perform op).2.phase = .negotiating ∨ op = .close := by
  cases op with
  | field name value => exact .inl ((t.perform_field name value).1.trans here)
  | status s => exact .inl here
  | flush => exact .inl here
  | close => exact .inr rfl
  | write data =>
    refine .inl ?_
    obtain ⟨closed, _⟩ | put := write_cases data t
    · rw [here] at closed
      cases closed
    · rw [perform, put] at broken ⊢
      obtain ⟨done, _⟩ | ⟨_, same⟩ := put_cases data t
      · rw [done] at broken
        cases broken
      · exact same.trans here
  | respond status body =>
    refine .inl ?_
    rw [perform_respond, respond_of_negotiating here] at broken ⊢
    obtain ⟨done, _⟩ | ⟨_, same⟩ := put_cases (Reply.framed status t.fields body) t
    · exact absurd done (isBroken_ofAttempt_iff.mp broken)
    · exact same.trans here

variable [LawfulSink σ]

theorem given_flush (t : Takeover σ) : t.flush.2.given = t.given :=
  (LawfulSink.flush_rests t.sink).2.2.1

theorem given_close (t : Takeover σ) : t.close.2.given = t.given := by
  rw [close]
  split
  · rfl
  · have flushed := (LawfulSink.flush_rests t.sink).2.2.1
    split
    · next sink flush =>
      rw [flush] at flushed
      exact (LawfulSink.shutdown_rests sink).2.2.1.trans flushed
    · next r sink _ flush =>
      rw [flush] at flushed
      exact flushed

/-- A takeover that is still negotiating was negotiating before, and the operation gave the sink
nothing unless it broke off, which only a write and a framed response can do. -/
theorem negotiating_of_perform {t : Takeover σ} {op : Operation}
    (still : (t.perform op).2.phase = .negotiating) :
    t.phase = .negotiating ∧ (¬ t.BreaksOff op → (t.perform op).2.given = t.given) := by
  have unbroken (here : t.phase = .negotiating) (broken : (t.perform op).1.isBroken) :
      t.phase = .negotiating ∧ (¬ t.BreaksOff op → (t.perform op).2.given = t.given) :=
    ⟨here, fun whole => not_not.mp fun gives => whole ⟨broken, gives⟩⟩
  cases op with
  | field name value =>
    obtain ⟨phase, sink⟩ := t.perform_field name value
    exact ⟨phase.symm.trans still, fun _ => congrArg (fun s => (traffic s).given) sink⟩
  | status s => exact ⟨still, fun _ => rfl⟩
  | flush => exact ⟨still, fun _ => t.given_flush⟩
  | close =>
    have closed : (t.perform .close).2.phase = .closed := t.phase_close
    rw [closed] at still
    cases still
  | write data =>
    obtain ⟨closed, refused⟩ | put := write_cases data t
    · rw [perform, refused, closed] at still
      cases still
    · rw [perform, put] at still
      obtain ⟨_, hijacked⟩ | ⟨unfinished, same⟩ := put_cases data t
      · rw [hijacked] at still
        cases still
      · refine unbroken (same.symm.trans still) ?_
        rw [perform, put]
        revert unfinished
        cases (t.put data).1 with
        | done => exact fun unfinished => absurd rfl unfinished
        | failed | blocked => exact fun _ => rfl
  | respond status body =>
    by_cases here : t.phase = .negotiating
    · refine unbroken here ?_
      rw [perform_respond, respond_of_negotiating here] at still ⊢
      obtain ⟨_, hijacked⟩ | ⟨unfinished, _⟩ := put_cases (Reply.framed status t.fields body) t
      · rw [hijacked] at still
        cases still
      · exact isBroken_ofAttempt_iff.mpr unfinished
    · rw [perform_respond, respond_of_phase here] at still
      exact absurd still here

/-! ## Scripts -/

/-- **The phase tells the truth behind every part of a script exactly when no operation breaks off
in the middle while the takeover is negotiating.** -/
theorem tells_truth_iff (sink : σ) (script : List Operation) :
    (∀ n, (({ sink } : Takeover σ).after (script.take n)).TellsTruth (traffic sink).given) ↔
      ∀ n (within : n < script.length),
        (({ sink } : Takeover σ).after (script.take n)).phase = .negotiating →
          ¬ (({ sink } : Takeover σ).after (script.take n)).BreaksOff script[n] := by
  generalize started : ({ sink } : Takeover σ) = t
  have opened : t.phase = .negotiating → t.given = (traffic sink).given := by
    rw [← started]
    exact fun _ => rfl
  have next (n : Nat) (within : n < script.length) :
      t.after (script.take (n + 1)) = ((t.after (script.take n)).perform script[n]).2 := by
    rw [List.take_succ_eq_append_getElem within, after_concat]
  constructor
  · intro truth n within here breaks
    obtain ⟨broken, gives⟩ := breaks
    obtain still | closes := phase_of_broken here broken
    · rw [← next n within] at still gives
      exact gives (((truth (n + 1)).untouched still).trans ((truth n).untouched here).symm)
    · rw [closes] at gives
      exact gives (given_close _)
  · intro whole n
    refine tellsTruth_of_untouched ?_
    induction n with
    | zero => exact opened
    | succ n ih =>
      by_cases within : n < script.length
      · intro still
        rw [next n within] at still ⊢
        obtain ⟨here, same⟩ := negotiating_of_perform still
        exact (same (whole n within here)).trans (ih here)
      · have all : script.take (n + 1) = script.take n := by
          rw [List.take_of_length_le (by omega), List.take_of_length_le (by omega)]
        rwa [all]

end

/-- A sink that takes seven bytes at a time and cannot be flushed: a framed response goes out whole,
and what breaks off behind it is raw. -/
theorem tells_truth_in_short_writes :
    let sink : Limited := { limit := some 115, perWrite := some 7, flushFails := true }
    let script : List Operation :=
      [.flush, .field (Bytes.ascii "x-reason") (Bytes.ascii "busy"),
        .respond .badGateway (Bytes.ascii "no"), .write (Bytes.ascii "raw bytes"),
        .respond .badRequest (Bytes.ascii "late"), .close]
    (({ sink } : Takeover Limited).after script).sink.stored = 115 ∧
      ∀ n, (({ sink } : Takeover Limited).after (script.take n)).TellsTruth [] := by
  intro sink script
  exact ⟨by decide +kernel, (tells_truth_iff sink script).mpr (by decide +kernel)⟩

/-- A sink that fails behind two bytes has been given them, while the takeover says that it is still
negotiating. -/
theorem phase_lies_behind_torn_write :
    let sink : Limited := { limit := some 2 }
    let t := ({ sink } : Takeover Limited).after [.write (Bytes.ascii "abc")]
    t.phase = .negotiating ∧ t.given = Bytes.ascii "ab" ∧ ¬ t.TellsTruth (traffic sink).given := by
  intro sink t
  have lies : t.phase = .negotiating ∧ t.given = Bytes.ascii "ab" := by decide +kernel
  refine ⟨lies.1, lies.2, fun truth => ?_⟩
  have untouched : t.given = [] := truth.untouched lies.1
  rw [lies.2] at untouched
  cases untouched

end Wiretap.Message.Takeover
