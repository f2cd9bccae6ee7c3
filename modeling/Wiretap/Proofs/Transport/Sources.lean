import Mathlib.Data.List.Basic
import Mathlib.Tactic.Common
import Wiretap.Proofs.Message.HeadDelivery
import Wiretap.Proofs.Transport.Sinks

/-!
# What is read comes in order

Through a buffer one reads what the buffer holds and then what comes from the source.  However the
source cuts it into pieces, and wherever an operation is interrupted, what an operation has taken and
what is still unread make up what was unread before (`Took`); this holds of filling the buffer, of
reading, of collecting a fixed number of bytes (`collectFrom_spec`), of reading a line
(`lineFrom_spec`) and of reading a head (`headFrom_spec`).
-/

namespace Wiretap.Transport

set_option autoImplicit false

open Message (HeadReader headFrom readHead)

namespace BufferedSource

section

variable {σ : Type} [Travelled σ]

/-- What is still to be read. -/
def unread (s : BufferedSource σ) : Bytes := s.held ++ (traffic s.source).coming

/-- Some bytes have been taken off what was to be read, and nothing has been written. -/
structure Took (before after : BufferedSource σ) (piece : Bytes) : Prop where
  unread : before.unread = piece ++ after.unread
  given : (traffic after.source).given = (traffic before.source).given
  passed : (traffic before.source).passed <+: (traffic after.source).passed
  capacity : after.buffer.capacity = before.buffer.capacity

variable {first second third : BufferedSource σ}

theorem Took.refl (s : BufferedSource σ) : Took s s [] := ⟨rfl, rfl, List.prefix_refl _, rfl⟩

theorem Took.trans {piece more : Bytes} (before : Took first second piece)
    (after : Took second third more) : Took first third (piece ++ more) := by
  refine ⟨?_, after.given.trans before.given, before.passed.trans after.passed,
    after.capacity.trans before.capacity⟩
  rw [before.unread, after.unread, List.append_assoc]

/-- Bytes that the buffer holds are taken out of it. -/
theorem took_hold {s : BufferedSource σ} {piece rest : Bytes} (held : s.held = piece ++ rest) :
    Took s (s.hold rest) piece := by
  refine ⟨?_, rfl, List.prefix_refl _, rfl⟩
  rw [BufferedSource.unread, held, List.append_assoc]
  rfl

theorem took_of_rests {s : BufferedSource σ} {source : σ}
    (rests : (traffic s.source).Rests (traffic source)) : Took s { s with source } [] := by
  obtain ⟨_, coming, given, passed⟩ := rests
  refine ⟨?_, given, passed, rfl⟩
  change s.held ++ _ = s.held ++ _
  rw [coming]

/-- A piece that is read past an empty buffer. -/
theorem took_of_takes {s : BufferedSource σ} {n : Nat} {piece : Bytes} {source : σ}
    (empty : s.held = [])
    (takes : (traffic s.source).Takes n (.done piece) (traffic source)) :
    Took s { s with source } piece ∧ piece.length ≤ n ∧ (0 < n → piece = [] → s.unread = []) := by
  obtain ⟨⟨rest, split, _, coming, given, passed⟩, fits, ended⟩ := takes
  have all : s.unread = (traffic s.source).coming := by
    rw [BufferedSource.unread, empty, List.nil_append]
  have left : ({ s with source } : BufferedSource σ).unread = rest := by
    change s.held ++ (traffic source).coming = rest
    rw [empty, List.nil_append]
    exact coming
  refine ⟨⟨?_, given, passed, rfl⟩, fits, fun some_bytes none => all.trans (ended some_bytes none)⟩
  rw [all, left, split]

end

variable {σ : Type} [ByteSource σ] [Travelled σ] [LawfulSource σ]

/-- Filling the buffer takes nothing; if it is done, the buffer is empty only at the end. -/
theorem fill_spec (s : BufferedSource σ) :
    Took s s.fill.2 [] ∧
      (s.fill.1 = .done () → 0 < s.buffer.capacity → s.fill.2.held = [] → s.unread = []) := by
  rw [fill]
  split
  · next some_bytes =>
    exact ⟨.refl s, fun _ _ none => absurd none (by simpa using some_bytes)⟩
  · next empty =>
    have none : s.held = [] := by simpa using empty
    have takes := LawfulSource.read_takes s.buffer.capacity s.source
    split
    · next piece source read =>
      rw [read] at takes
      obtain ⟨took, _, ended⟩ := took_of_takes none takes
      refine ⟨⟨?_, took.given, took.passed, rfl⟩, fun _ => ended⟩
      rw [took.unread]
      change piece ++ (s.held ++ (traffic source).coming) = piece ++ (traffic source).coming
      rw [none, List.nil_append]
    · next read =>
      rw [read] at takes
      exact ⟨took_of_rests takes, by rintro ⟨⟩⟩
    · next read =>
      rw [read] at takes
      exact ⟨took_of_rests takes, by rintro ⟨⟩⟩

/-- What reading at most `n` bytes comes to: a piece that fits, empty only at the end, or nothing. -/
def Reads (n : Nat) (before : BufferedSource σ) (r : Attempt Bytes) (after : BufferedSource σ) :
    Prop :=
  match r with
  | .done piece => Took before after piece ∧ piece.length ≤ n ∧
      (0 < n → 0 < before.buffer.capacity → piece = [] → before.unread = [])
  | _ => Took before after []

theorem reads_read (n : Nat) (s : BufferedSource σ) : Reads n s (s.read n).1 (s.read n).2 := by
  rw [BufferedSource.read]
  split
  · next direct =>
    obtain ⟨empty, _⟩ := Bool.and_eq_true_iff.mp direct
    have none : s.held = [] := by simpa using empty
    have takes := LawfulSource.read_takes n s.source
    cases attempt : ByteSource.read n s.source with
    | mk r source =>
      rw [attempt] at takes
      cases r with
      | done piece =>
        obtain ⟨took, fits, ended⟩ := took_of_takes none takes
        exact ⟨took, fits, fun some_bytes _ => ended some_bytes⟩
      | failed e => exact took_of_rests takes
      | blocked => exact took_of_rests takes
  · obtain ⟨filled, ended⟩ := s.fill_spec
    cases fill : s.fill with
    | mk r after =>
      rw [fill] at filled ended
      cases r with
      | done =>
        refine ⟨filled.trans (took_hold (List.take_append_drop n after.held).symm),
          List.length_take_le _ _, fun some_bytes positive none => ended rfl positive ?_⟩
        exact (List.take_eq_nil_iff.mp none).resolve_left (by omega)
      | failed e => exact filled
      | blocked => exact filled

/-! ## Collecting -/

/-- **Collecting bytes takes them off what is to be read, as many as it no longer misses.** -/
theorem collectFrom_spec (fuel : Nat) (pieces : List Bytes) (missing : Nat) (s : BufferedSource σ) :
    ∃ piece, Took s (collectFrom fuel pieces missing s).source piece ∧
      (collectFrom fuel pieces missing s).bytes = pieces.reverse.flatten ++ piece ∧
      piece.length + (collectFrom fuel pieces missing s).missing = missing ∧
      ((collectFrom fuel pieces missing s).outcome = .done () →
        (collectFrom fuel pieces missing s).missing = 0) := by
  induction fuel generalizing pieces missing s with
  | zero =>
    refine ⟨[], .refl s, (List.append_nil _).symm, Nat.zero_add _, fun done => ?_⟩
    rw [collectFrom] at done ⊢
    by_cases none : missing = 0
    · exact none
    · simp [none] at done
  | succ fuel ih =>
    rw [collectFrom]
    split
    · next none => exact ⟨[], .refl s, (List.append_nil _).symm, Nat.zero_add _, fun _ => none⟩
    · have reads : Reads missing s (ByteSource.read missing s).1 (ByteSource.read missing s).2 :=
        reads_read missing s
      split
      · next read =>
        rw [read] at reads
        exact ⟨[], reads.1, (List.append_nil _).symm, Nat.zero_add _, nofun⟩
      · next piece after _ read =>
        rw [read] at reads
        obtain ⟨took, fits, _⟩ := reads
        obtain ⟨more, further, bytes, count, done⟩ :=
          ih (piece :: pieces) (missing - piece.length) after
        refine ⟨piece ++ more, took.trans further, ?_, ?_, done⟩
        · rw [bytes, List.reverse_cons, List.flatten_append, List.flatten_singleton,
            List.append_assoc]
        · rw [List.length_append]
          omega
      · next read =>
        rw [read] at reads
        exact ⟨[], reads, (List.append_nil _).symm, Nat.zero_add _, nofun⟩
      · next read =>
        rw [read] at reads
        exact ⟨[], reads, (List.append_nil _).symm, Nat.zero_add _, nofun⟩

/-! ## Lines -/

/-- **Reading a line takes it off what is to be read.** -/
theorem lineFrom_spec (fuel : Nat) (pieces : List Bytes) (s : BufferedSource σ) :
    ∃ piece, Took s (lineFrom fuel pieces s).source piece ∧
      (lineFrom fuel pieces s).pieces.reverse.flatten = pieces.reverse.flatten ++ piece := by
  induction fuel generalizing pieces s with
  | zero => exact ⟨[], .refl s, (List.append_nil _).symm⟩
  | succ fuel ih =>
    have filled := s.fill_spec.1
    rw [lineFrom]
    split
    · next fill =>
      rw [fill] at filled
      exact ⟨[], filled, (List.append_nil _).symm⟩
    · next fill =>
      rw [fill] at filled
      exact ⟨[], filled, (List.append_nil _).symm⟩
    · next after fill =>
      rw [fill] at filled
      have split : after.held = after.held.takeWhile (· != Bytes.lf) ++
          after.held.drop (after.held.takeWhile (· != Bytes.lf)).length := by
        conv_lhs => rw [← List.take_append_drop
          (after.held.takeWhile (· != Bytes.lf)).length after.held]
        rw [← List.prefix_iff_eq_take.mp (List.takeWhile_prefix _)]
      dsimp only
      generalize after.held.takeWhile (· != Bytes.lf) = before at split ⊢
      split
      · next b rest behind =>
        rw [behind] at split
        refine ⟨before ++ [b], filled.trans (took_hold (split.trans ?_)), ?_⟩
        · exact List.append_cons before b rest
        · simp [List.append_assoc]
      · next behind =>
        rw [behind] at split
        split
        · exact ⟨[], filled, (List.append_nil _).symm⟩
        · obtain ⟨piece, took, bytes⟩ := ih (before :: pieces) (after.hold [])
          refine ⟨before ++ piece, filled.trans ((took_hold split).trans took), ?_⟩
          rw [bytes, List.reverse_cons, List.flatten_append, List.flatten_singleton,
            List.append_assoc]

/-! ## Heads -/

/-- **Reading a head takes what it takes off what is to be read**: if it is done, it finds what the
reader finds in all that is to be read, and leaves what the reader leaves. -/
theorem headFrom_spec (fuel : Nat) (r : HeadReader) (s : BufferedSource σ) :
    ∃ piece, Took s (headFrom fuel r s).source piece ∧
      match (headFrom fuel r s).outcome with
      | .done e => 0 < s.buffer.capacity → r.found s.unread = (e, (headFrom fuel r s).source.unread)
      | _ => r.feed piece = .ok (headFrom fuel r s).reader := by
  induction fuel generalizing r s with
  | zero => exact ⟨[], .refl s, rfl⟩
  | succ fuel ih =>
    obtain ⟨filled, ended⟩ := s.fill_spec
    rw [headFrom]
    split
    · next fill =>
      rw [fill] at filled
      exact ⟨[], filled, rfl⟩
    · next fill =>
      rw [fill] at filled
      exact ⟨[], filled, rfl⟩
    · next after fill =>
      rw [fill] at filled ended
      split
      · next empty =>
        refine ⟨[], filled, fun positive => ?_⟩
        have none : s.unread = [] := ended rfl positive (by simpa using empty)
        have left : after.unread = [] := by rw [← none, filled.unread, List.nil_append]
        rw [none, left]
        rfl
      · have all : s.unread = after.held ++ (traffic after.source).coming := filled.unread
        split
        · next e rest fed =>
          obtain ⟨taken, split⟩ := HeadReader.feed_error_split fed
          refine ⟨taken, filled.trans (took_hold split), fun _ => ?_⟩
          rw [all, HeadReader.found_append_of_error fed]
          rfl
        · next further fed =>
          obtain ⟨piece, took, found⟩ := ih further (after.hold [])
          refine ⟨after.held ++ piece,
            filled.trans ((took_hold (List.append_nil _).symm).trans took), ?_⟩
          cases outcome : (headFrom fuel further (after.hold [])).outcome with
          | done e =>
            rw [outcome] at found
            intro positive
            rw [all, HeadReader.found_append_of_ok fed]
            exact found (filled.capacity ▸ positive)
          | failed e =>
            rw [outcome] at found
            change r.feed (after.held ++ piece) = _
            rw [HeadReader.feed_append, fed]
            exact found
          | blocked =>
            rw [outcome] at found
            change r.feed (after.held ++ piece) = _
            rw [HeadReader.feed_append, fed]
            exact found

end BufferedSource

end Wiretap.Transport
