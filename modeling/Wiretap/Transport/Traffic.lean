import Wiretap.Transport.Basic

/-!
# What travels over a stream

Whatever the timing of a two-way stream, its peer sends certain bytes in all, and is given certain
bytes.  A read takes the next of the bytes that are sent, and a write adds to those that are given;
what has been written may still be held back, until it is flushed.  A stream is lawful if its
attempts do just that, in pieces of any size, and if nothing but the end of what its peer sends
reads as an end.
-/

namespace Wiretap.Transport

set_option autoImplicit false

/-- What has travelled over a two-way stream, and what is still to come. -/
structure Traffic where
  /-- What has been read. -/
  taken : Bytes := []
  /-- What the peer sends behind that, whether it has arrived or not. -/
  coming : Bytes := []
  /-- What has been written. -/
  given : Bytes := []
  /-- The part of it that has been passed on for certain. -/
  passed : Bytes := []
  deriving DecidableEq, Repr

namespace Traffic

/-- Nothing has been read or written in between, though more may have been passed on. -/
def Rests (before after : Traffic) : Prop :=
  after.taken = before.taken ∧ after.coming = before.coming ∧ after.given = before.given ∧
    before.passed <+: after.passed

instance (before after : Traffic) : Decidable (before.Rests after) :=
  inferInstanceAs (Decidable (_ ∧ _ ∧ _ ∧ _))

/-- The same traffic when a piece of what comes has been read. -/
def read (t : Traffic) (piece rest : Bytes) : Traffic :=
  { t with taken := t.taken ++ piece, coming := rest }

/-- The same traffic when more has been written. -/
def write (t : Traffic) (data : Bytes) : Traffic := { t with given := t.given ++ data }

/-- What an attempt to read at most `n` bytes may come to: it takes some of the bytes that come next,
and none only at their end, or it takes nothing. -/
def Takes (before : Traffic) (n : Nat) (r : Attempt Bytes) (after : Traffic) : Prop :=
  match r with
  | .done piece =>
    (∃ rest, before.coming = piece ++ rest ∧ (before.read piece rest).Rests after) ∧
      piece.length ≤ n ∧ (0 < n → piece = [] → before.coming = [])
  | _ => before.Rests after

/-- What an attempt to write may come to: it gives the first so many bytes, or none. -/
def Gives (before : Traffic) (data : Bytes) (r : Attempt Nat) (after : Traffic) : Prop :=
  match r with
  | .done n => n ≤ data.length ∧ (before.write (data.take n)).Rests after
  | _ => before.Rests after

/-- Whether nothing has travelled over the stream yet. -/
def isFresh (t : Traffic) : Bool := t.taken.isEmpty && t.given.isEmpty

end Traffic

/-- Something that bytes travel over. -/
class Travelled (σ : Type) where
  traffic : σ → Traffic

export Travelled (traffic)

/-- A source whose attempts take what comes next. -/
class LawfulSource (σ : Type) [ByteSource σ] [Travelled σ] : Prop where
  read_takes (n : Nat) (s : σ) :
    (traffic s).Takes n (ByteSource.read n s).1 (traffic (ByteSource.read n s).2)

/-- A sink whose attempts give what they are given. -/
class LawfulSink (σ : Type) [ByteSink σ] [Travelled σ] : Prop where
  write_gives (data : Bytes) (s : σ) :
    (traffic s).Gives data (ByteSink.write data s).1 (traffic (ByteSink.write data s).2)
  flush_rests (s : σ) : (traffic s).Rests (traffic (ByteSink.flush s).2)
  /-- A flush that is done has passed on everything. -/
  flush_done (s : σ) : (ByteSink.flush s).1 = .done () →
    (traffic (ByteSink.flush s).2).passed = (traffic (ByteSink.flush s).2).given
  shutdown_rests (s : σ) : (traffic s).Rests (traffic (ByteSink.shutdown s).2)

/-- A two-way stream. -/
class ByteStream (σ : Type) extends ByteSource σ, ByteSink σ, Travelled σ

/-- A two-way stream whose attempts do what they say. -/
class LawfulStream (σ : Type) [ByteStream σ] : Prop extends LawfulSource σ, LawfulSink σ

end Wiretap.Transport
