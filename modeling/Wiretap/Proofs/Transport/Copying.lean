import Wiretap.Proofs.Transport.Sinks
import Wiretap.Transport.Copy

/-!
# What is copied comes through in order

A direction of a tunnel moves bytes from the front of what its source is to give to the end of what
its sink has been given; the bytes that it holds are the next ones (`Conveys`).  An attempt to read
or to write keeps that, whatever it comes to (`pull_conveys`, `push_conveys`), so no byte is lost,
doubled or overtaken on the way.
-/

namespace Wiretap.Transport

set_option autoImplicit false

/-- The value that an attempt comes to, or another one if it comes to none. -/
def Attempt.getD {α : Type} (r : Attempt α) (other : α) : α :=
  match r with
  | .done a => a
  | _ => other

namespace Copy

/-- One direction of a tunnel has moved bytes from the front of one text to the end of another, and
holds the next ones. -/
structure Conveys (c : Copy) (source source' sink sink' : Bytes) : Prop where
  moved : ∃ piece, sink' = sink ++ piece ∧ piece.length = c.moved ∧
    source = piece ++ c.held ++ source'
  ended : c.ended → source' = []
  shut : c.shut → c.ended ∧ c.held = []

/-- Nothing has been moved yet, and what is held goes first. -/
theorem conveys_start (held source sink : Bytes) :
    Conveys { held } (held ++ source) source sink sink where
  moved := ⟨[], (List.append_nil _).symm, rfl, rfl⟩
  ended := nofun
  shut := nofun

variable {σ : Type}

/-- **An attempt to read keeps the order.**  It takes from the source only, and gives it nothing. -/
theorem pull_conveys [ByteSource σ] [Travelled σ] [LawfulSource σ] {c : Copy} {s : σ} {n : Nat}
    {source sink sink' : Bytes} (positive : 0 < n)
    (conveys : c.Conveys source (traffic s).coming sink sink') :
    ((c.pull n s).1.getD c).Conveys source (traffic (c.pull n s).2).coming sink sink' ∧
      (traffic (c.pull n s).2).taken ++ (traffic (c.pull n s).2).coming =
        (traffic s).taken ++ (traffic s).coming ∧
      (traffic (c.pull n s).2).given = (traffic s).given ∧
      (traffic s).passed <+: (traffic (c.pull n s).2).passed := by
  have resting {s' : σ} (rests : (traffic s).Rests (traffic s')) :
      c.Conveys source (traffic s').coming sink sink' ∧
        (traffic s').taken ++ (traffic s').coming = (traffic s).taken ++ (traffic s).coming ∧
        (traffic s').given = (traffic s).given ∧ (traffic s).passed <+: (traffic s').passed := by
    obtain ⟨taken, coming, given, passed⟩ := rests
    rw [taken, coming]
    exact ⟨conveys, rfl, given, passed⟩
  have takes := LawfulSource.read_takes n s
  obtain ⟨⟨piece, there, count, order⟩, ended, shut⟩ := conveys
  rw [pull]
  split
  · next s' read =>
    rw [read] at takes
    obtain ⟨⟨rest, split, taken, coming, given, passed⟩, _, atEnd⟩ := takes
    have finished : (traffic s).coming = [] := atEnd positive rfl
    have still : (traffic s').coming = [] := coming.trans (split.symm.trans finished)
    rw [finished] at order
    refine ⟨⟨⟨piece, there, count, still ▸ order⟩, fun _ => still,
        fun done => ⟨rfl, (shut done).2⟩⟩,
      ?_, given, passed⟩
    rw [taken, still, finished]
    exact List.append_nil _
  · next more s' some_bytes read =>
    rw [read] at takes
    obtain ⟨⟨rest, split, taken, coming, given, passed⟩, _, _⟩ := takes
    have left : (traffic s').coming = rest := coming
    have unfinished : c.ended ≠ true := fun finished => by
      rw [ended finished] at split
      exact some_bytes (List.append_eq_nil_iff.mp split.symm).1
    refine ⟨⟨⟨piece, there, count, ?_⟩, fun finished => absurd finished unfinished,
      fun done => absurd (shut done).1 unfinished⟩, ?_, given, passed⟩
    · change source = piece ++ (c.held ++ more) ++ (traffic s').coming
      rw [order, split, left]
      simp only [List.append_assoc]
    · rw [taken, split, left]
      exact List.append_assoc _ _ _
  · next read =>
    rw [read] at takes
    exact resting takes
  · next read =>
    rw [read] at takes
    exact resting takes

/-- Reading does not end the stream that is written. -/
theorem pull_shut [ByteSource σ] (n : Nat) (c : Copy) (s : σ) :
    ((c.pull n s).1.getD c).shut = c.shut := by
  rw [pull]
  split <;> rfl

/-- **An attempt to write keeps the order.**  It gives to the sink only, and takes nothing from it;
if it ends the sink, everything has been passed on. -/
theorem push_conveys [ByteSink σ] [Travelled σ] [LawfulSink σ] {c : Copy} {s : σ}
    {source source' sink : Bytes} (conveys : c.Conveys source source' sink (traffic s).given) :
    ((c.push s).1.getD c).Conveys source source' sink (traffic (c.push s).2).given ∧
      ((c.shut → (traffic s).given <+: (traffic s).passed) → ((c.push s).1.getD c).shut →
        (traffic (c.push s).2).given <+: (traffic (c.push s).2).passed) ∧
      (traffic (c.push s).2).taken = (traffic s).taken ∧
      (traffic (c.push s).2).coming = (traffic s).coming ∧
      (traffic s).passed <+: (traffic (c.push s).2).passed := by
  have resting {s' : σ} (rests : (traffic s).Rests (traffic s')) :
      c.Conveys source source' sink (traffic s').given ∧
        ((c.shut → (traffic s).given <+: (traffic s).passed) → c.shut →
          (traffic s').given <+: (traffic s').passed) ∧
        (traffic s').taken = (traffic s).taken ∧ (traffic s').coming = (traffic s).coming ∧
        (traffic s).passed <+: (traffic s').passed := by
    obtain ⟨taken, coming, given, passed⟩ := rests
    rw [given]
    exact ⟨conveys, fun flushed finished => (flushed finished).trans passed, taken, coming, passed⟩
  rw [push]
  split
  · next empty =>
    split
    · next finished =>
      rw [shutDown]
      have flushes := LawfulSink.flush_rests s
      have all := LawfulSink.flush_done s
      cases flush : ByteSink.flush s with
      | mk r s' =>
        rw [flush] at flushes all
        cases r with
        | done =>
          have ends := LawfulSink.shutdown_rests s'
          dsimp only
          generalize ByteSink.shutdown s' = x at ends
          obtain ⟨r, s''⟩ := x
          cases r with
          | done =>
            obtain ⟨conveys, _, taken, coming, passed⟩ := resting (flushes.trans ends)
            refine ⟨⟨conveys.moved, conveys.ended, fun _ =>
              ⟨(Bool.and_eq_true_iff.mp finished).1, List.isEmpty_iff.mp empty⟩⟩, fun _ _ => ?_,
              taken, coming, passed⟩
            obtain ⟨_, _, given, further⟩ := ends
            rw [given, ← all rfl]
            exact further
          | failed e => exact resting (flushes.trans ends)
          | blocked => exact resting (flushes.trans ends)
        | failed e => exact resting flushes
        | blocked => exact resting flushes
    · exact resting (.refl _)
  · next some_bytes =>
    have gives := LawfulSink.write_gives c.held s
    split
    · next wrote =>
      rw [wrote, Traffic.Gives, List.take_zero, Traffic.write_nil] at gives
      exact resting gives.2
    · next n s' _ wrote =>
      rw [wrote] at gives
      obtain ⟨fits, taken, coming, given, passed⟩ := gives
      obtain ⟨⟨piece, there, count, order⟩, ended, shut⟩ := conveys
      have unfinished : c.shut ≠ true := fun finished =>
        some_bytes (List.isEmpty_iff.mpr (shut finished).2)
      refine ⟨⟨⟨piece ++ c.held.take n, ?_, ?_, ?_⟩, ended,
          fun finished => absurd finished unfinished⟩,
        fun _ finished => absurd finished unfinished, taken, coming, passed⟩
      · rw [given, ← List.append_assoc, ← there]
        rfl
      · rw [List.length_append, count, List.length_take, Nat.min_eq_left fits]
        rfl
      · change source = piece ++ c.held.take n ++ c.held.drop n ++ source'
        rw [List.append_assoc piece, List.take_append_drop, order]
    · next wrote =>
      rw [wrote] at gives
      exact resting gives
    · next wrote =>
      rw [wrote] at gives
      exact resting gives

end Copy

end Wiretap.Transport
