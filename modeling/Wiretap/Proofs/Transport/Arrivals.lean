import Wiretap.Proofs.Transport.Peered
import Wiretap.Proofs.Transport.Sources

/-!
# What has arrived can be read

A source supplies so many bytes if they can be read without anybody else acting, in pieces of any
size, or if it can be read to its end (`Supplies`).  Reading a head goes on as long as that lasts,
so it comes to its end if the bytes supplied reach to where the head ends, or to the end of the
stream (`BufferedSource.headFrom_advances`).  A pipe supplies what it holds, and everything once its
peer has closed it (`Peered.supplies_of_held`).
-/

namespace Wiretap.Transport

set_option autoImplicit false

open Message (HeadReader headFrom)

/-- So many bytes more, or all bytes up to the end, can be read without anybody else acting. -/
inductive Supplies {σ : Type} [ByteSource σ] : Nat → σ → Prop where
  | none (s : σ) : Supplies 0 s
  | more {k : Nat} {s : σ}
    (reads : ∀ n, 0 < n → ∃ piece, (ByteSource.read n s).1 = .done piece)
    (goesOn : ∀ n piece, (ByteSource.read n s).1 = .done piece → piece ≠ [] →
      Supplies (k + 1 - piece.length) (ByteSource.read n s).2) : Supplies (k + 1) s

namespace BufferedSource

variable {σ : Type} [ByteSource σ]

/-- A source that supplies something lets the buffer be filled, and then supplies as much. -/
theorem fill_supplies {s : BufferedSource σ} {k : Nat} (supplies : Supplies k s.source)
    (positive : 0 < s.buffer.capacity) (arrived : 0 < s.held.length + k) :
    s.fill.1 = .done () ∧ (s.fill.2.held ≠ [] → ∃ more, Supplies more s.fill.2.source ∧
      s.held.length + k ≤ s.fill.2.held.length + more) := by
  rw [fill]
  split
  · exact ⟨rfl, fun _ => ⟨k, supplies, Nat.le_refl _⟩⟩
  · next empty =>
    have none : s.held = [] := by simpa using empty
    rw [none, List.length_nil, Nat.zero_add] at arrived
    rw [none, List.length_nil, Nat.zero_add]
    cases supplies with
    | none => exact absurd arrived (Nat.lt_irrefl 0)
    | @more k _ reads goesOn =>
      obtain ⟨piece, read⟩ := reads s.buffer.capacity positive
      have behind := goesOn s.buffer.capacity piece read
      generalize ByteSource.read s.buffer.capacity s.source = x at read behind
      obtain ⟨r, source⟩ := x
      cases read
      refine ⟨rfl, fun some_bytes => ⟨_, behind some_bytes, ?_⟩⟩
      change k + 1 ≤ piece.length + (k + 1 - piece.length)
      omega

end BufferedSource

end Wiretap.Transport

namespace Wiretap.Message.HeadReader

/-- Within so many of the bytes that are to be read, a reader comes to an end: it finds one, or the
bytes end. -/
def Reaches (r : HeadReader) (text : Bytes) (n : Nat) : Prop :=
  text.length < n ∨ ∃ found, r.feed (text.take n) = .error found

theorem Reaches.mono {r : HeadReader} {text : Bytes} {n m : Nat} (reaches : r.Reaches text n)
    (more : n ≤ m) : r.Reaches text m := by
  obtain ended | ⟨⟨e, rest⟩, found⟩ := reaches
  · exact .inl (Nat.lt_of_lt_of_le ended more)
  · refine .inr ?_
    obtain ⟨behind, split⟩ := (List.take_prefix_take_left more : text.take n <+: text.take m)
    rw [← split, feed_append, found]
    exact ⟨_, rfl⟩

/-- Where nothing has arrived, no end is reached. -/
theorem Reaches.pos {r : HeadReader} {text : Bytes} {n : Nat} (reaches : r.Reaches text n) :
    0 < n := by
  refine Nat.pos_of_ne_zero ?_
  rintro rfl
  obtain ended | ⟨found, fed⟩ := reaches
  · exact Nat.not_lt_zero _ ended
  · cases fed

/-- A reader that has taken the first bytes comes to its end behind them. -/
theorem Reaches.behind {r further : HeadReader} {first text : Bytes} {n : Nat}
    (reaches : r.Reaches (first ++ text) (first.length + n)) (goesOn : r.feed first = .ok further) :
    further.Reaches text n := by
  obtain ended | ⟨⟨e, rest⟩, found⟩ := reaches
  · refine .inl ?_
    rw [List.length_append] at ended
    omega
  · refine .inr ?_
    rw [List.take_length_add_append, feed_append, goesOn] at found
    exact ⟨_, found⟩

theorem Reaches.cons {r further : HeadReader} {b : UInt8} {text : Bytes} {n : Nat}
    (goesOn : r.step b = .ok further) (reaches : further.Reaches text n) :
    r.Reaches (b :: text) (n + 1) := by
  obtain ended | found := reaches
  · exact .inl (Nat.succ_lt_succ ended)
  · refine .inr ?_
    rw [List.take_succ_cons, feed, goesOn]
    exact found

/-- Where a reader has found an end, it needed no more than what it has read, or one byte more to see
that there is none. -/
theorem reaches_of_found {r : HeadReader} {text rest : Bytes} {e : HeadEnd}
    (found : r.found text = (e, rest)) :
    ∃ taken, text = taken ++ rest ∧ r.Reaches text (taken.length + 1) := by
  induction text generalizing r with
  | nil =>
    cases found
    exact ⟨[], rfl, .inl Nat.one_pos⟩
  | cons b text ih =>
    cases step : r.step b with
    | ok further =>
      rw [found_cons_of_ok step] at found
      obtain ⟨taken, split, reaches⟩ := ih found
      exact ⟨b :: taken, congrArg (b :: ·) split, reaches.cons step⟩
    | error e' =>
      rw [found_cons_of_error step] at found
      cases found
      have first : r.Reaches (b :: rest) 1 := by
        refine .inr ⟨(e, []), ?_⟩
        rw [List.take_succ_cons, List.take_zero, feed, step]
      exact ⟨[b], rfl, first.mono (Nat.le_add_left 1 1)⟩

end Wiretap.Message.HeadReader

namespace Wiretap.Transport

set_option autoImplicit false

open Message (HeadProgress HeadReader headFrom)

namespace BufferedSource

variable {σ : Type} [ByteSource σ] [Travelled σ]

/-- From where an attempt to read a head stands, reading comes to an end within what is supplied. -/
structure Nears (r : HeadReader) (s : BufferedSource σ) (k : Nat) : Prop where
  supplies : Supplies k s.source
  positive : 0 < s.buffer.capacity
  reaches : r.Reaches s.unread (s.held.length + k)

/-- Behind what the buffer holds, another reader goes on. -/
theorem Nears.fed {r further : HeadReader} {s : BufferedSource σ} {k : Nat} (nears : Nears r s k)
    (fed : r.feed s.held = .ok further) : Nears further (s.hold []) k where
  supplies := nears.supplies
  positive := nears.positive
  reaches := by
    have behind := nears.reaches.behind fed
    change further.Reaches (traffic s.source).coming (0 + k)
    rwa [Nat.zero_add]

variable [LawfulSource σ]

/-- Filling the buffer loses nothing of what is supplied. -/
theorem Nears.filled {r : HeadReader} {s : BufferedSource σ} {k : Nat} (nears : Nears r s k) :
    s.fill.1 = .done () ∧ (s.fill.2.held ≠ [] → ∃ more, Nears r s.fill.2 more) := by
  obtain ⟨supplies, positive, reaches⟩ := nears
  obtain ⟨done, more⟩ := fill_supplies supplies positive reaches.pos
  have took := s.fill_spec.1
  refine ⟨done, fun some_bytes => ?_⟩
  obtain ⟨more, supplies, enough⟩ := more some_bytes
  have same : s.unread = s.fill.2.unread := took.unread
  exact ⟨more, supplies, took.capacity.symm ▸ positive, same ▸ reaches.mono enough⟩

end BufferedSource

/-! ## Pipes -/

/-- A pipe that holds something, or is closed, can be read. -/
theorem Pipe.exists_read {p : Pipe} (arrived : p.closed ∨ p.held ≠ []) (n : Nat) :
    ∃ piece p', p.read n = (.done piece, p') := by
  rw [Pipe.read]
  by_cases empty : p.held = []
  · have closed : p.closed = true := arrived.resolve_right fun some_bytes => some_bytes empty
    rw [empty, closed]
    exact ⟨_, _, rfl⟩
  · rw [if_neg (by simpa using empty)]
    exact ⟨_, _, rfl⟩

/-- **A pipe supplies what it holds**, and everything once its peer has closed it. -/
theorem Peered.supplies_of_held {s : Peered} {k : Nat}
    (arrived : s.duplex.incoming.closed ∨ k ≤ s.duplex.incoming.held.length) : Supplies k s := by
  induction k using Nat.strongRecOn generalizing s with
  | ind k ih =>
    obtain ⟨⟨p, outgoing⟩, taken, plan, kept⟩ := s
    cases k with
    | zero => exact .none _
    | succ k =>
      have readable : p.closed ∨ p.held ≠ [] := arrived.imp_right fun enough none => by
        rw [none] at enough
        exact absurd enough (Nat.not_succ_le_zero k)
      refine .more (fun n _ => ?_) fun n piece read some_bytes => ?_
      · obtain ⟨piece, p', read⟩ := p.exists_read readable n
        dsimp only [ByteSource.read]
        rw [read]
        exact ⟨piece, rfl⟩
      · obtain ⟨piece', p', done⟩ := p.exists_read readable n
        dsimp only [ByteSource.read] at read ⊢
        rw [done] at read ⊢
        cases read
        obtain ⟨same, held, _, _⟩ := Pipe.read_done done
        have taken := List.length_pos_of_ne_nil some_bytes
        refine ih _ (by omega) (arrived.imp (fun closed => ?_) fun enough => ?_)
        · change p'.closed
          rwa [same]
        · change k + 1 - piece.length ≤ p'.held.length
          rw [held, List.length_append] at enough
          omega

end Wiretap.Transport
