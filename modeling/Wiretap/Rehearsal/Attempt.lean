import Wiretap.Rehearsal.Isolation
import Wiretap.Session.Effort
import Wiretap.Transport.Pipe

/-!
# Answering questions over a pipe

In a rehearsal the client's stream is a pipe, and the far side of a tunnel is never there.  What is
asked of another host is answered at once.  A connection that is closed gives up its end of the
pipe, but the client can still read what the pipe holds, so the pipe stays at the post.
-/

namespace Wiretap.Rehearsal

set_option autoImplicit false

open Session (Effort Question)
open Transport (Duplex)

/-- The proxy's end of the pipe. -/
abbrev Post := Session.Post Duplex Duplex

/-- The proxy's end of the pipe is of no use to it any more. -/
def abandon (p : Post) : Post :=
  { p with leaving := p.leaving.map fun s => { s with sink := s.sink.drop } }

/-- One attempt to answer a question. -/
def attempt (e : Effort) (p : Post) (q : Question) : Effort.Outcome Duplex Duplex q.Answer :=
  let x := e.attempt p q
  match q, x with
  | .close, ⟨some a, e, p⟩ => ⟨some a, e, abandon p⟩
  | q, ⟨answer, e, p⟩ => ⟨answer.or (Isolation.answer? q), e, p⟩

end Wiretap.Rehearsal
