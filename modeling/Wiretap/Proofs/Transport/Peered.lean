import Mathlib.Data.List.Basic
import Mathlib.Tactic.Common
import Wiretap.Proofs.Transport.Sinks
import Wiretap.Transport.Pipe

/-!
# Pipes whose peer has a plan

A pair of pipes knows what it holds, but not what has been read out of it, nor what the peer is
still going to write.  With that beside them pipes of any capacity make a lawful stream
(`Peered.lawful`).  What the peer does at its end changes nothing of what travels over the stream in
all (`sends_rests`, `ends_rests`, `keeps_rests`).
-/

namespace Wiretap.Transport

set_option autoImplicit false

/-! ## What one pipe does -/

namespace Pipe

variable {p p' : Pipe}

theorem read_done {n : Nat} {piece : Bytes} (got : p.read n = (.done piece, p')) :
    p' = { p with held := p'.held } ∧ p.held = piece ++ p'.held ∧ piece.length ≤ n ∧
      (0 < n → piece = [] → p.held = [] ∧ p.closed) := by
  rw [read] at got
  split at got
  · next empty =>
    split at got
    · next closed =>
      cases got
      rw [List.isEmpty_iff] at empty
      exact ⟨rfl, rfl, Nat.zero_le n, fun _ _ => ⟨empty, closed⟩⟩
    · cases got
  · next more =>
    cases got
    refine ⟨rfl, (List.take_append_drop n p.held).symm, List.length_take_le n p.held, ?_⟩
    intro some none
    obtain zero | empty := List.take_eq_nil_iff.mp none
    · omega
    · exact absurd (List.isEmpty_iff.mpr empty) more

theorem read_else {n : Nat} {r : Attempt Bytes} (got : p.read n = (r, p'))
    (none : ∀ piece, r ≠ .done piece) : p' = p := by
  rw [read] at got
  split at got
  · cases got
    rfl
  · cases got
    exact absurd rfl (none _)

theorem write_done {data : Bytes} {n : Nat} (put : p.write data = (.done n, p')) :
    p.closed = false ∧ n ≤ data.length ∧ p' = { p with held := p.held ++ data.take n } := by
  rw [write] at put
  split at put
  · cases put
  · next opened =>
    dsimp only at put
    split at put
    · cases put
    · cases put
      refine ⟨Bool.not_eq_true _ ▸ opened, List.length_take_le' _ data, ?_⟩
      rw [List.length_take, ← List.take_eq_take_min]

theorem write_else {data : Bytes} {r : Attempt Nat} (put : p.write data = (r, p'))
    (none : ∀ n, r ≠ .done n) : p' = p := by
  rw [write] at put
  split at put
  · cases put
    rfl
  · dsimp only at put
    split at put
    · cases put
      rfl
    · cases put
      exact absurd rfl (none _)

end Pipe

/-! ## Streams with a history -/

/-- One end of a two-way stream, and what a pipe does not tell of it. -/
structure Peered where
  duplex : Duplex
  /-- What has been read at this end. -/
  taken : Bytes := []
  /-- What the peer is still going to write. -/
  plan : Bytes := []
  /-- What the peer has read. -/
  kept : Bytes := []
  deriving DecidableEq, Repr

namespace Peered

/-- A stream over which nothing has travelled, and what its peer is going to write. -/
def fresh (capacity : Nat) (plan : Bytes) : Peered := { duplex := .fresh capacity, plan }

/-- What is still to be read at this end.  A peer that has closed its end writes no more. -/
def coming (s : Peered) : Bytes :=
  s.duplex.incoming.held ++ if s.duplex.incoming.closed then [] else s.plan

/-- What has been written at this end. -/
def given (s : Peered) : Bytes := s.kept ++ s.duplex.outgoing.held

instance : ByteSource Peered where
  read n s :=
    let (r, incoming) := s.duplex.incoming.read n
    let duplex := { s.duplex with incoming }
    match r with
    | .done piece => (r, { s with duplex, taken := s.taken ++ piece })
    | _ => (r, { s with duplex })
  ready s := ByteSource.ready s.duplex

instance : ByteSink Peered where
  write data s :=
    let (r, duplex) := ByteSink.write data s.duplex
    (r, { s with duplex })
  flush s :=
    let (r, duplex) := ByteSink.flush s.duplex
    (r, { s with duplex })
  shutdown s :=
    let (r, duplex) := ByteSink.shutdown s.duplex
    (r, { s with duplex })

/-- What is in a pipe has been passed on. -/
instance : ByteStream Peered where
  traffic s := ⟨s.taken, s.coming, s.given, s.given⟩

theorem read_takes (n : Nat) (s : Peered) :
    (traffic s).Takes n (ByteSource.read n s).1 (traffic (ByteSource.read n s).2) := by
  obtain ⟨⟨p, outgoing⟩, taken, plan, kept⟩ := s
  dsimp only [ByteSource.read]
  cases got : p.read n with
  | mk r p' =>
    cases r with
    | done piece =>
      obtain ⟨same, held, short, ended⟩ := Pipe.read_done got
      refine ⟨⟨_, ?_, .refl _⟩, short, fun some none => ?_⟩
      · change p.held ++ _ = piece ++ (p'.held ++ _)
        rw [held, same, List.append_assoc]
      · obtain ⟨empty, closed⟩ := ended some none
        change p.held ++ (if p.closed then [] else plan) = []
        rw [empty, closed]
        rfl
    | failed | blocked =>
      cases Pipe.read_else got nofun
      exact .refl _

theorem write_gives (data : Bytes) (s : Peered) :
    (traffic s).Gives data (ByteSink.write data s).1 (traffic (ByteSink.write data s).2) := by
  obtain ⟨⟨incoming, p⟩, taken, plan, kept⟩ := s
  dsimp only [ByteSink.write]
  cases put : p.write data with
  | mk r p' =>
    cases r with
    | done n =>
      obtain ⟨_, short, rfl⟩ := Pipe.write_done put
      refine ⟨short, rfl, rfl, ?_, ?_⟩
      · exact (List.append_assoc ..).symm
      · change kept ++ p.held <+: kept ++ (p.held ++ data.take n)
        rw [← List.append_assoc]
        exact List.prefix_append _ _
    | failed | blocked =>
      cases Pipe.write_else put nofun
      exact .refl _

/-- **Pipes whose peer has a plan make a lawful stream.** -/
instance lawful : LawfulStream Peered where
  read_takes := read_takes
  write_gives := write_gives
  flush_rests _ := .refl _
  flush_done _ _ := rfl
  shutdown_rests _ := .refl _

/-! ## What the peer does -/

/-- The peer writes as much as fits of the next `n` bytes of its plan. -/
def sends (n : Nat) (s : Peered) : Peered :=
  match s.duplex.incoming.write (s.plan.take n) with
  | (.done k, incoming) =>
    { s with duplex := { s.duplex with incoming }, plan := s.plan.drop k }
  | _ => s

/-- The peer closes its end, and will write nothing more. -/
def ends (s : Peered) : Peered :=
  { s with duplex := { s.duplex with incoming := s.duplex.incoming.close } }

/-- The peer reads all there is. -/
def keeps (s : Peered) : Peered :=
  { s with
    duplex := { s.duplex with outgoing := { s.duplex.outgoing with held := [] } }
    kept := s.given }

theorem sends_rests (n : Nat) (s : Peered) : (traffic s).Rests (traffic (s.sends n)) := by
  rw [sends]
  split
  · next k incoming put =>
    obtain ⟨opened, short, rfl⟩ := Pipe.write_done put
    have within : k ≤ n := Nat.le_trans short (List.length_take_le n s.plan)
    refine ⟨rfl, ?_, rfl, List.prefix_refl _⟩
    change (s.duplex.incoming.held ++ (s.plan.take n).take k) ++
        (if s.duplex.incoming.closed then [] else s.plan.drop k) =
      s.duplex.incoming.held ++ if s.duplex.incoming.closed then [] else s.plan
    rw [opened, List.append_assoc, List.take_take, Nat.min_eq_left within]
    exact congrArg _ (List.take_append_drop k s.plan)
  · exact .refl _

theorem ends_rests {s : Peered} (done : s.plan = []) : (traffic s).Rests (traffic s.ends) := by
  refine ⟨rfl, ?_, rfl, List.prefix_refl _⟩
  change s.duplex.incoming.held ++ [] = s.duplex.incoming.held ++ _
  rw [done, ite_self]

theorem keeps_rests (s : Peered) : (traffic s).Rests (traffic s.keeps) := by
  have same : s.keeps.given = s.given := List.append_nil _
  exact ⟨rfl, rfl, same, [], (List.append_nil _).trans same.symm⟩

end Peered

end Wiretap.Transport
