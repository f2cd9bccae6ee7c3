import Wiretap.Proofs.Transport.Sinks

/-!
# Sinks whose writer waits

A writer with a deadline takes a blocked attempt up again whenever somebody else has acted, until
its time is up.  Seen from the writer that is one longer attempt, which is blocked only if the
deadline passes: a lawful sink that is waited for is a lawful sink again (`Patient.lawful`).  What
holds for every lawful sink therefore holds however often the sink stalls on the way.
-/

namespace Wiretap.Transport

set_option autoImplicit false

section

variable {κ : Type} [Travelled κ]

/-! ## Writing all bytes -/

omit [Travelled κ] in
/-- When nothing is left, writing all of some bytes has been done. -/
theorem writeFrom_done [ByteSink κ] {fuel : Nat} {data : Bytes} {s : κ}
    (all : (writeFrom fuel data s).rest = []) : (writeFrom fuel data s).outcome = .done () := by
  induction fuel generalizing data s with
  | zero =>
    have none : data = [] := all
    rw [none]
    rfl
  | succ fuel ih =>
    rw [writeFrom] at all ⊢
    split at all
    · next none => rw [if_pos none]
    · next more =>
      rw [if_neg more]
      split at all
      · exact absurd (List.isEmpty_iff.mpr all) more
      · exact ih all
      · exact absurd (List.isEmpty_iff.mpr all) more
      · exact absurd (List.isEmpty_iff.mpr all) more

/-- The first part of some bytes that writing them gives is the whole exactly if that is done. -/
theorem writeAll_gives [ByteSink κ] [LawfulSink κ] (data : Bytes) (s : κ) :
    ∃ sent, (traffic (writeAll data s).sink).given = (traffic s).given ++ sent ∧ sent <+: data ∧
      (sent = data ↔ (writeAll data s).outcome = .done ()) := by
  obtain ⟨sent, split, written, done⟩ := writeAll_spec data s
  refine ⟨sent, written.2.2.1, ⟨_, split.symm⟩, fun whole => writeFrom_done ?_, fun finished => ?_⟩
  · rw [whole, List.self_eq_append_right] at split
    exact split
  · rw [done finished, List.append_nil] at split
    exact split.symm

/-! ## Waiting -/

/-- Something that others do to a stream.  It moves none of the writer's bytes. -/
structure QuietAct (κ : Type) [Travelled κ] where
  does : κ → κ
  rests (s : κ) : (traffic s).Rests (traffic (does s))

/-- A stream with what others do to it, one act after the other, while its writer waits.  When they
have all been done, the deadline passes. -/
structure Patient (κ : Type) [Travelled κ] where
  stream : κ
  acts : List (QuietAct κ)

namespace Patient

/-- Takes a blocked attempt up again behind each act. -/
def await {α : Type} (attempt : κ → Attempt α × κ) : List (QuietAct κ) → κ → Attempt α × Patient κ
  | [], s => ((attempt s).1, ⟨(attempt s).2, []⟩)
  | act :: acts, s =>
    match attempt s with
    | (.blocked, s) => await attempt acts (act.does s)
    | (r, s) => (r, ⟨s, act :: acts⟩)

/-- What has travelled does not depend on what is waited for. -/
instance : Travelled (Patient κ) where
  traffic s := traffic s.stream

instance [ByteSink κ] : ByteSink (Patient κ) where
  write data s := await (ByteSink.write data) s.acts s.stream
  flush s := await ByteSink.flush s.acts s.stream
  shutdown s := await ByteSink.shutdown s.acts s.stream

/-- An attempt that is waited for is in the end one attempt, made when the stream has rested for a
while. -/
theorem await_eq {α : Type} {attempt : κ → Attempt α × κ}
    (calm : ∀ s, (attempt s).1 = .blocked → (traffic s).Rests (traffic (attempt s).2))
    (acts : List (QuietAct κ)) (s : κ) :
    ∃ met, (traffic s).Rests (traffic met) ∧ (await attempt acts s).1 = (attempt met).1 ∧
      traffic (await attempt acts s).2 = traffic (attempt met).2 := by
  induction acts generalizing s with
  | nil => exact ⟨s, .refl _, rfl, rfl⟩
  | cons act acts ih =>
    rw [await]
    split
    · next later stalled =>
      have waited := calm s (by rw [stalled])
      rw [stalled] at waited
      obtain ⟨met, rested, same⟩ := ih (act.does later)
      exact ⟨met, (waited.trans (act.rests later)).trans rested, same⟩
    · next r later _ ended => exact ⟨s, .refl _, by rw [ended], by rw [ended]; rfl⟩

/-- **A lawful sink whose writer waits is a lawful sink.** -/
instance lawful [ByteSink κ] [LawfulSink κ] : LawfulSink (Patient κ) where
  write_gives data s := by
    have calm (s : κ) (stalled : (ByteSink.write data s).1 = .blocked) :
        (traffic s).Rests (traffic (ByteSink.write data s).2) := by
      have gives := LawfulSink.write_gives data s
      rwa [stalled] at gives
    obtain ⟨met, rested, outcome, after⟩ := await_eq calm s.acts s.stream
    change (traffic s.stream).Gives data (await _ _ _).1 (traffic (await _ _ _).2)
    rw [outcome, after]
    exact rested.gives (LawfulSink.write_gives data met)
  flush_rests s := by
    obtain ⟨met, rested, _, after⟩ :=
      await_eq (fun s _ => LawfulSink.flush_rests s) s.acts s.stream
    change (traffic s.stream).Rests (traffic (await _ _ _).2)
    rw [after]
    exact rested.trans (LawfulSink.flush_rests met)
  flush_done s := by
    obtain ⟨met, _, outcome, after⟩ :=
      await_eq (fun s _ => LawfulSink.flush_rests s) s.acts s.stream
    change (await _ _ _).1 = _ → (traffic (await _ _ _).2).passed = (traffic (await _ _ _).2).given
    rw [outcome, after]
    exact LawfulSink.flush_done met
  shutdown_rests s := by
    obtain ⟨met, rested, _, after⟩ :=
      await_eq (fun s _ => LawfulSink.shutdown_rests s) s.acts s.stream
    change (traffic s.stream).Rests (traffic (await _ _ _).2)
    rw [after]
    exact rested.trans (LawfulSink.shutdown_rests met)

end Patient

end

/-- Room for more bytes is made in a sink with limits. -/
def Limited.makeRoom (n : Nat) : QuietAct Limited where
  does s := { s with limit := s.limit.map (· + n) }
  rests _ := .refl _

end Wiretap.Transport
