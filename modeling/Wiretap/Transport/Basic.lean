import Wiretap.Fault

/-!
# Byte streams

A stream is read and written in attempts.  An attempt is done, fails, or is blocked until somebody
else acts; a blocked attempt leaves what it has already moved behind it, so the operation can be
taken up again where it stopped.  Operations on whole byte strings are loops over attempts.
-/

namespace Wiretap.Transport

set_option autoImplicit false

/-- The outcome of one attempt. -/
inductive Attempt (α : Type) where
  | done (a : α)
  | failed (e : IoFault)
  | blocked
  deriving DecidableEq, Repr

namespace Attempt

def map {α β : Type} (f : α → β) : Attempt α → Attempt β
  | done a => done (f a)
  | failed e => failed e
  | blocked => blocked

end Attempt

/-- Something bytes can be read from. -/
class ByteSource (σ : Type) where
  /-- Reads at most the given number of bytes.  No bytes mean the end of the stream. -/
  read : Nat → σ → Attempt Bytes × σ
  /-- How many bytes can be read without anybody else acting. -/
  ready : σ → Nat

/-- Something bytes can be written to. -/
class ByteSink (σ : Type) where
  /-- Writes some of the bytes, and says how many. -/
  write : Bytes → σ → Attempt Nat × σ
  /-- Passes on what has been written but is still held back. -/
  flush : σ → Attempt Unit × σ
  /-- Ends the stream. -/
  shutdown : σ → Attempt Unit × σ

/-! ## Writing all bytes -/

/-- Where an operation that writes all of some bytes stands. -/
structure Written (σ : Type) where
  outcome : Attempt Unit
  /-- The bytes that are not written yet. -/
  rest : Bytes
  sink : σ

/-- Writes until nothing is left or an attempt is not done.  Each attempt that is done must write
something, so as many attempts as bytes suffice. -/
def writeFrom {σ : Type} [ByteSink σ] : (fuel : Nat) → Bytes → σ → Written σ
  | 0, rest, s => ⟨if rest.isEmpty then .done () else .blocked, rest, s⟩
  | fuel + 1, rest, s =>
    if rest.isEmpty then ⟨.done (), rest, s⟩
    else match ByteSink.write rest s with
      | (.done 0, s) => ⟨.failed IoFault.nothingWritten, rest, s⟩
      | (.done n, s) => writeFrom fuel (rest.drop n) s
      | (.failed e, s) => ⟨.failed e, rest, s⟩
      | (.blocked, s) => ⟨.blocked, rest, s⟩

/-- Writes all the bytes. -/
def writeAll {σ : Type} [ByteSink σ] (data : Bytes) (s : σ) : Written σ :=
  writeFrom data.length data s

/-! ## Reading a fixed number of bytes -/

/-- Where an operation that reads a fixed number of bytes stands. -/
structure Collected (σ : Type) where
  outcome : Attempt Unit
  /-- The bytes read so far, in pieces, the last piece first. -/
  pieces : List Bytes
  /-- How many bytes are still to be read. -/
  missing : Nat
  source : σ

namespace Collected

/-- The bytes read so far. -/
def bytes {σ : Type} (c : Collected σ) : Bytes := c.pieces.reverse.flatten

end Collected

/-- Reads until nothing is missing or an attempt is not done.  The end of the stream before that is
a failure. -/
def collectFrom {σ : Type} [ByteSource σ] : (fuel : Nat) → List Bytes → Nat → σ → Collected σ
  | 0, pieces, missing, s => ⟨if missing = 0 then .done () else .blocked, pieces, missing, s⟩
  | fuel + 1, pieces, missing, s =>
    if missing = 0 then ⟨.done (), pieces, missing, s⟩
    else match ByteSource.read missing s with
      | (.done [], s) => ⟨.failed IoFault.earlyEnd, pieces, missing, s⟩
      | (.done piece, s) => collectFrom fuel (piece :: pieces) (missing - piece.length) s
      | (.failed e, s) => ⟨.failed e, pieces, missing, s⟩
      | (.blocked, s) => ⟨.blocked, pieces, missing, s⟩

/-- Reads `missing` bytes more behind the pieces. -/
def collect {σ : Type} [ByteSource σ] (pieces : List Bytes) (missing : Nat) (s : σ) :
    Collected σ :=
  collectFrom missing pieces missing s

end Wiretap.Transport
