import Mathlib.Data.List.Basic
import Mathlib.Tactic.Common
import Wiretap.Message.Takeover
import Wiretap.Transport.Limited
import Wiretap.Transport.Traffic

/-!
# What is written is given in order

Writing all of some bytes takes as many attempts as the sink likes, and may stop short; what has
been given then is a first part of the bytes, and the rest is known (`writeAll_spec`).  A buffer in
front of a lawful sink makes a lawful sink again (`BufferedSink.lawful`): what it holds back counts
as given, however often flushing it is interrupted.  A sink with limits is lawful too
(`Limited.lawful`), wherever in the middle of a write it fails.
-/

namespace Wiretap.Transport

set_option autoImplicit false

/-! ## Traffic -/

namespace Traffic

variable {first second third : Traffic}

theorem Rests.refl (t : Traffic) : t.Rests t := ⟨rfl, rfl, rfl, List.prefix_refl _⟩

theorem Rests.trans (before : first.Rests second) (after : second.Rests third) :
    first.Rests third :=
  ⟨after.1.trans before.1, after.2.1.trans before.2.1, after.2.2.1.trans before.2.2.1,
    before.2.2.2.trans after.2.2.2⟩

theorem Rests.write (rests : first.Rests second) (data : Bytes) :
    (first.write data).Rests (second.write data) :=
  ⟨rests.1, rests.2.1, congrArg (· ++ data) rests.2.2.1, rests.2.2.2⟩

theorem write_write (t : Traffic) (data more : Bytes) :
    (t.write data).write more = t.write (data ++ more) := by
  simp [Traffic.write]

@[simp] theorem write_nil (t : Traffic) : t.write [] = t := by
  simp [Traffic.write]

theorem eq_nil_of_isFresh {t : Traffic} (fresh : t.isFresh) : t.taken = [] ∧ t.given = [] :=
  (Bool.and_eq_true_iff.mp fresh).imp List.isEmpty_iff.mp List.isEmpty_iff.mp

theorem Rests.gives {data : Bytes} {r : Attempt Nat} (before : first.Rests second)
    (gives : second.Gives data r third) : first.Gives data r third := by
  cases r with
  | done n => exact ⟨gives.1, (before.write _).trans gives.2⟩
  | failed e => exact before.trans gives
  | blocked => exact before.trans gives

end Traffic

section

variable {κ : Type} [ByteSink κ] [Travelled κ] [LawfulSink κ]

/-! ## Writing all bytes -/

/-- What has been written of some bytes and what is left of them. -/
structure Wrote (before : κ) (data : Bytes) (w : Written κ) (sent : Bytes) : Prop where
  split : data = sent ++ w.rest
  given : ((traffic before).write sent).Rests (traffic w.sink)
  done : w.outcome = .done () → w.rest = []

omit [ByteSink κ] [LawfulSink κ] in
/-- Nothing has been written yet. -/
theorem wrote_nothing {before after : κ} {data : Bytes} {outcome : Attempt Unit}
    (rests : (traffic before).Rests (traffic after)) (done : outcome = .done () → data = []) :
    Wrote before data ⟨outcome, data, after⟩ [] :=
  ⟨rfl, by rwa [Traffic.write_nil], done⟩

theorem writeFrom_spec (fuel : Nat) (data : Bytes) (s : κ) :
    ∃ sent, Wrote s data (writeFrom fuel data s) sent := by
  induction fuel generalizing data s with
  | zero =>
    refine ⟨[], wrote_nothing (.refl _) fun done => ?_⟩
    by_cases none : data = []
    · exact none
    · simp [none] at done
  | succ fuel ih =>
    rw [writeFrom]
    split
    · next none => exact ⟨[], wrote_nothing (.refl _) fun _ => List.isEmpty_iff.mp none⟩
    · have gives := LawfulSink.write_gives data s
      split
      · next written =>
        have given := gives
        rw [written, Traffic.Gives, List.take_zero, Traffic.write_nil] at given
        exact ⟨[], wrote_nothing given.2 nofun⟩
      · next n s' _ written =>
        rw [written] at gives
        obtain ⟨_, here⟩ := gives
        obtain ⟨sent, split, later, done⟩ := ih (data.drop n) s'
        refine ⟨data.take n ++ sent, ?_, ?_, done⟩
        · rw [List.append_assoc, ← split, List.take_append_drop]
        · rw [← Traffic.write_write]
          exact (here.write sent).trans later
      · next written =>
        rw [written] at gives
        exact ⟨[], wrote_nothing gives nofun⟩
      · next written =>
        rw [written] at gives
        exact ⟨[], wrote_nothing gives nofun⟩

/-- **Writing all of some bytes gives a first part of them, and all of them once it is done.** -/
theorem writeAll_spec (data : Bytes) (s : κ) : ∃ sent, Wrote s data (writeAll data s) sent :=
  writeFrom_spec _ _ _

/-- Writing a response and flushing it: once that is done, all of it has been passed on. -/
theorem respondFrom_spec (data : Bytes) (s : κ) :
    ∃ sent, data = sent ++ (Message.respondFrom data s).rest ∧
      ((traffic s).write sent).Rests (traffic (Message.respondFrom data s).sink) ∧
      ((Message.respondFrom data s).outcome = .done () →
        (Message.respondFrom data s).rest = [] ∧
          (traffic (Message.respondFrom data s).sink).passed =
            (traffic (Message.respondFrom data s).sink).given) := by
  obtain ⟨sent, split, written, done⟩ := writeAll_spec data s
  rw [Message.respondFrom]
  split
  · next finished =>
    rw [done finished] at split
    exact ⟨sent, split, written.trans (LawfulSink.flush_rests _),
      fun all => ⟨rfl, LawfulSink.flush_done _ all⟩⟩
  · next unfinished => exact ⟨sent, split, written, fun all => absurd all (unfinished ·)⟩

end

/-! ## Writing through a buffer -/

namespace BufferedSink

variable {σ : Type} [Travelled σ]

/-- What a buffer holds back counts as given. -/
instance : Travelled (BufferedSink σ) where
  traffic s := (Transport.traffic s.sink).write s.buffer.pending

/-- What is written past an empty buffer is given at once. -/
theorem traffic_of_empty {s : BufferedSink σ} (empty : s.buffer.pending = []) :
    traffic s = traffic s.sink := by
  change (traffic s.sink).write s.buffer.pending = _
  rw [empty, Traffic.write_nil]

/-- Behind a drain that is done, what happens at the sink is all that happens. -/
theorem rests_of_drained {s after : BufferedSink σ} {sink : σ}
    (rests : (traffic s).Rests (traffic after)) (empty : after.buffer.pending = [])
    (direct : (traffic after.sink).Rests (traffic sink)) :
    (traffic s).Rests (traffic ({ after with sink } : BufferedSink σ)) := by
  rw [traffic_of_empty empty] at rests
  rw [traffic_of_empty (s := ⟨after.buffer, sink⟩) empty]
  exact rests.trans direct

variable [ByteSink σ] [LawfulSink σ]

/-- Draining the buffer gives its bytes once and in order; when it is done none are left. -/
theorem drain_spec (s : BufferedSink σ) :
    (traffic s).Rests (traffic s.drain.2) ∧
      (s.drain.1 = .done () → s.drain.2.buffer.pending = []) := by
  obtain ⟨sent, split, given, done⟩ := writeAll_spec s.buffer.pending s.sink
  rw [drain]
  generalize writeAll s.buffer.pending s.sink = w at split given done
  have whole : (traffic s).Rests ((traffic w.sink).write w.rest) := by
    have further := given.write w.rest
    rwa [Traffic.write_write, ← split] at further
  have isRest : w.rest <:+ s.buffer.held :=
    (List.suffix_append sent w.rest).trans (split ▸ List.drop_suffix _ _)
  split
  · next blocked =>
    refine ⟨?_, nofun⟩
    change (traffic s).Rests ((traffic w.sink).write
      (s.buffer.held.drop (s.buffer.held.length - w.rest.length)))
    rw [← List.suffix_iff_eq_drop.mp isRest]
    exact whole
  · next failed => exact ⟨whole, nofun⟩
  · next finished =>
    refine ⟨?_, fun _ => rfl⟩
    rw [done finished] at whole
    exact whole

theorem pending_add (b : WriteBuffer) (data : Bytes) : (b.add data).pending = b.pending ++ data :=
  List.drop_append_of_le_length b.passed_le

theorem accept_gives {data : Bytes} {s : BufferedSink σ}
    (room : s.buffer.capacity ≤ data.length → s.buffer.pending = []) :
    (traffic s).Gives data (s.accept data).1 (traffic (s.accept data).2) := by
  rw [accept]
  split
  · next large =>
    have empty := room large
    have after : traffic ({ s with sink := (ByteSink.write data s.sink).2 } : BufferedSink σ) =
        traffic (ByteSink.write data s.sink).2 :=
      traffic_of_empty empty
    have gives := LawfulSink.write_gives data s.sink
    rw [← traffic_of_empty empty, ← after] at gives
    exact gives
  · next small =>
    refine ⟨Nat.le_refl _, ?_⟩
    change ((traffic s).write _).Rests ((traffic s.sink).write (s.buffer.add data).pending)
    rw [pending_add, ← Traffic.write_write, List.take_length]
    exact .refl _

theorem write_gives (data : Bytes) (s : BufferedSink σ) :
    (traffic s).Gives data (s.write data).1 (traffic (s.write data).2) := by
  rw [write]
  split
  · obtain ⟨rests, emptied⟩ := s.drain_spec
    cases drained : s.drain with
    | mk r after =>
      rw [drained] at rests emptied
      cases r with
      | done =>
        refine rests.gives (accept_gives fun _ => emptied rfl)
      | failed e => exact rests
      | blocked => exact rests
  · next fits =>
    refine accept_gives fun large => ?_
    have none : s.buffer.held = [] := List.eq_nil_of_length_eq_zero (by omega)
    rw [WriteBuffer.pending, none, List.drop_nil]

theorem flush_spec (s : BufferedSink σ) :
    (traffic s).Rests (traffic s.flush.2) ∧
      (s.flush.1 = .done () → s.flush.2.buffer.pending = [] ∧
        (traffic s.flush.2).passed = (traffic s.flush.2).given) := by
  obtain ⟨rests, emptied⟩ := s.drain_spec
  rw [flush]
  cases drained : s.drain with
  | mk r after =>
    rw [drained] at rests emptied
    cases r with
    | done =>
      have empty := emptied rfl
      refine ⟨rests_of_drained rests empty (LawfulSink.flush_rests _), fun all => ⟨empty, ?_⟩⟩
      rw [traffic_of_empty (s := ⟨after.buffer, (ByteSink.flush after.sink).2⟩) empty]
      exact LawfulSink.flush_done _ all
    | failed e => exact ⟨rests, nofun⟩
    | blocked => exact ⟨rests, nofun⟩

theorem shutdown_spec (s : BufferedSink σ) : (traffic s).Rests (traffic s.shutdown.2) := by
  obtain ⟨rests, emptied⟩ := s.drain_spec
  rw [shutdown]
  cases drained : s.drain with
  | mk r after =>
    rw [drained] at rests emptied
    cases r with
    | done => exact rests_of_drained rests (emptied rfl) (LawfulSink.shutdown_rests _)
    | failed e => exact rests
    | blocked => exact rests

/-- **A buffer in front of a lawful sink makes a lawful sink.** -/
instance lawful : LawfulSink (BufferedSink σ) where
  write_gives := write_gives
  flush_rests s := (flush_spec s).1
  flush_done s done := ((flush_spec s).2 done).2
  shutdown_rests := shutdown_spec

end BufferedSink

/-! ## Sinks with limits -/

namespace Limited

/-- Such a sink holds nothing back. -/
instance : Travelled Limited where
  traffic s := { coming := s.incoming, given := s.data, passed := s.data }

theorem portion_eq_take (s : Limited) (data : Bytes) : ∃ n, s.portion data = data.take n := by
  rw [portion]
  split
  · exact ⟨data.length, List.take_length.symm⟩
  · next n _ _ => exact ⟨n, rfl⟩
  · next n _ _ => exact ⟨n, rfl⟩
  · next n m _ _ => exact ⟨min n m, rfl⟩

theorem write_gives (data : Bytes) (s : Limited) :
    (traffic s).Gives data (s.write data).1 (traffic (s.write data).2) := by
  rw [write]
  split
  · cases s.stalls <;> exact .refl _
  · obtain ⟨n, piece⟩ := s.portion_eq_take data
    have short : (s.portion data).length ≤ data.length := by
      rw [piece]
      exact List.length_take_le' n data
    have whole : data.take (s.portion data).length = s.portion data := by
      rw [piece, List.length_take, ← List.take_eq_take_min]
    have stored : (s.portion data :: s.pieces).reverse.flatten = s.data ++ s.portion data := by
      simp [Limited.data]
    refine ⟨short, rfl, rfl, ?_, ?_⟩
    · change (s.portion data :: s.pieces).reverse.flatten = s.data ++ data.take _
      rw [whole, stored]
    · change s.data <+: (s.portion data :: s.pieces).reverse.flatten
      rw [stored]
      exact List.prefix_append _ _

/-- **A sink with limits is lawful.** -/
instance lawful : LawfulSink Limited where
  write_gives := write_gives
  flush_rests _ := .refl _
  flush_done _ _ := rfl
  shutdown_rests _ := .refl _

end Limited

end Wiretap.Transport
