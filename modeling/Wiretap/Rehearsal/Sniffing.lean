import Wiretap.Rehearsal.Attempt
import Wiretap.Session.Dispatch

/-!
# Rehearsing a first look

The proxy looks at the first bytes of a connection to which all is sent that the client ever sends.
An answer that is missing then is missing for good, so its deadline passes.
-/

namespace Wiretap.Rehearsal

set_option autoImplicit false

open Session (Dialogue Effort Opening Question)
open Settings (Effective)
open Transport (Duplex)

/-- What a first look finds. -/
structure Sniffed where
  opening : Except Fault Opening
  /-- What was read ahead. -/
  held : Bytes

/-- Answers questions until the dialogue ends, or until an answer is missing that has no deadline. -/
def answerAll {α : Type} (p : Post) : Dialogue α → Option α × Post
  | .finish a => (some a, p)
  | .tell _ rest => answerAll p rest
  | .ask q next =>
    let x := attempt (.start 0 q) p q
    match x.answer, q.late? with
    | some a, _ => answerAll x.post (next a)
    | none, some late => answerAll x.post (next late)
    | none, none => (none, x.post)

/-- A connection whose client has sent some bytes, and perhaps will not send more. -/
def prepared (s : Effective) (data : Bytes) (ended : Bool) : Post :=
  .fresh s.bufferSize ⟨{ capacity := data.length, held := data, closed := ended }, { capacity := 0 }⟩

/-- Looks at the first bytes of a connection. -/
def sniffed (s : Effective) (data : Bytes) (ended : Bool) : Sniffed :=
  let (found, p) := answerAll (prepared s data ended) Session.sniff.run
  ⟨found.getD (.error (.timeout .firstByte)), p.readAhead⟩

end Wiretap.Rehearsal
