import Wiretap.Proofs.Transport.Peered

/-!
# The end of a stream

A sink that has been shut down is ended: its peer reads everything that has been passed on and then
an end, and nothing is given behind it (`LawfulEnd`).  A sink that has passed on everything still
has when it rests (`passed_of_rests`), so shutting it down behind a flush leaves nothing out.  Behind
an empty buffer nothing is in the way of that (`BufferedSink.shutdown_of_empty`).  Pipes whose peer
has a plan are ended lawfully (`Peered.lawful_end`).
-/

namespace Wiretap.Transport

set_option autoImplicit false

/-- Something that bytes travel over until it is ended. -/
class Endable (σ : Type) where
  /-- Whether the peer reads an end behind what it has been given. -/
  ended : σ → Bool

export Endable (ended)

/-- A sink that is ended by shutting it down. -/
class LawfulEnd (σ : Type) [ByteSink σ] [Travelled σ] [Endable σ] : Prop where
  /-- Only what has been given is passed on. -/
  passed_isPrefix (s : σ) : (traffic s).passed <+: (traffic s).given
  shutdown_ended (s : σ) : (ByteSink.shutdown s).1 = .done () → ended (ByteSink.shutdown s).2
  /-- Nothing is given behind the end. -/
  given_write (data : Bytes) (s : σ) : ended s →
    (traffic (ByteSink.write data s).2).given = (traffic s).given

section

variable {σ : Type} [ByteSink σ] [Travelled σ] [Endable σ] [LawfulEnd σ]

/-- A sink that rests behind one that has passed on everything has passed on everything. -/
theorem passed_of_rests {t : Traffic} {s : σ} (all : t.passed = t.given)
    (rests : t.Rests (traffic s)) : (traffic s).passed = (traffic s).given := by
  have further : (traffic s).given <+: (traffic s).passed := by
    rw [rests.2.2.1, ← all]
    exact rests.2.2.2
  exact (LawfulEnd.passed_isPrefix s).eq_of_length_le further.length_le

end

namespace BufferedSink

variable {σ : Type} [ByteSink σ]

/-- **Behind an empty buffer the sink is shut down at once.** -/
theorem shutdown_of_empty {s : BufferedSink σ} (empty : s.buffer.pending = []) :
    s.shutdown =
      ((ByteSink.shutdown s.sink).1, ⟨s.buffer.keep [], (ByteSink.shutdown s.sink).2⟩) := by
  have drained : s.drain = (.done (), ⟨s.buffer.keep [], s.sink⟩) := by
    rw [drain, empty]
    rfl
  rw [shutdown, drained]

end BufferedSink

namespace Peered

/-- A pipe that is closed has ended. -/
instance : Endable Peered where
  ended s := s.duplex.outgoing.closed

/-- **Pipes whose peer has a plan are ended by shutting them down.** -/
instance lawful_end : LawfulEnd Peered where
  passed_isPrefix _ := List.prefix_refl _
  shutdown_ended _ _ := rfl
  given_write data s closed := by
    obtain ⟨⟨incoming, p⟩, taken, plan, kept⟩ := s
    have shut : p.closed = true := closed
    have none : p.write data = (.failed IoFault.brokenPipe, p) := by
      rw [Pipe.write, if_pos shut]
    change kept ++ (p.write data).2.held = kept ++ p.held
    rw [none]

end Peered

end Wiretap.Transport
