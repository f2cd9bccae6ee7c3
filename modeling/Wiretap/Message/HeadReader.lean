import Wiretap.Message.RequestHead

/-!
# Where a request head ends

A head is cut out of a stream line by line, before its syntax is looked at.  Empty lines in front
of it are skipped, and the first empty line behind its first line ends it.  The reader takes one
byte at a time, so it does not matter how the stream arrives in pieces, and it takes no byte behind
the head.  A head may not be longer than the limit, line ends included.
-/

namespace Wiretap.Message

set_option autoImplicit false

/-- The longest head. -/
def headLimit : Nat := 65536

/-- A head under way. -/
structure HeadReader where
  /-- How many bytes of the head have been taken. -/
  taken : Nat := 0
  /-- The bytes taken, the last one first. -/
  reversed : Bytes := []
  /-- The bytes of the line under way, the last one first. -/
  line : Bytes := []
  deriving DecidableEq, Repr

/-- What a head reader found out. -/
inductive HeadEnd where
  /-- The head, up to and including its empty line. -/
  | complete (raw : Bytes)
  | tooLong
  /-- The stream ended between two lines. -/
  | closed
  deriving DecidableEq, Repr

namespace HeadReader

/-- Whether the reversed line, which ends with a line feed, is empty. -/
def isEmptyLine (reversed : Bytes) : Bool :=
  reversed == [Bytes.lf] || reversed == [Bytes.lf, Bytes.cr]

/-- Takes one byte. -/
def step (r : HeadReader) (b : UInt8) : Except HeadEnd HeadReader :=
  let taken := r.taken + 1
  let reversed := b :: r.reversed
  let line := b :: r.line
  if headLimit < taken then .error .tooLong
  else if b ≠ Bytes.lf then .ok ⟨taken, reversed, line⟩
  else if !isEmptyLine line then .ok ⟨taken, reversed, []⟩
  else if taken = line.length then .ok {}
  else .error (.complete reversed.reverse)

/-- What the end of the stream means. -/
def finish (r : HeadReader) : HeadEnd := if r.line.isEmpty then .closed else .tooLong

/-- Takes bytes up to the end of the head; returns the bytes behind it, or the reader when all were
taken. -/
def feed (r : HeadReader) : Bytes → Except (HeadEnd × Bytes) HeadReader
  | [] => .ok r
  | b :: rest =>
    match r.step b with
    | .ok r => feed r rest
    | .error e => .error (e, rest)

end HeadReader

end Wiretap.Message
