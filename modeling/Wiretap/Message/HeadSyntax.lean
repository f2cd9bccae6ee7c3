import Wiretap.Text.Utf8

/-!
# The syntax of a request head

A request head is a request line, field lines and an empty line.  Every line ends with a line feed,
with or without a carriage return before it; empty lines may stand before the request line.  The
scanner goes from left to right and stops at the first byte that no head continues with, so a text
that ends too early is told apart from one that is wrong.
-/

namespace Wiretap.Message.HeadSyntax

set_option autoImplicit false

/-- What is wrong at the byte where the scanner stopped. -/
inductive Fault where
  | token
  | version
  | newLine
  | fieldName
  | fieldValue
  | tooManyFields
  deriving DecidableEq, Repr

namespace Fault

def message : Fault → String
  | token => "invalid token"
  | version => "invalid HTTP version"
  | newLine => "invalid new line"
  | fieldName => "invalid header name"
  | fieldValue => "invalid header value"
  | tooManyFields => "too many headers"

end Fault

/-- Why the scanner stopped. -/
inductive Stop where
  /-- The bytes ended before the head did. -/
  | short
  | fault (f : Fault)
  deriving DecidableEq, Repr

/-- A step of the scanner over the bytes that are left. -/
abbrev Scan : Type → Type := StateT Bytes (Except Stop)

/-- The two versions of the protocol. -/
inductive Version where
  | one_zero
  | one_one
  deriving DecidableEq, Repr

/-- The parts of a head, before they are given a meaning. -/
structure Parts where
  method : Bytes
  target : Bytes
  version : Version
  /-- The field lines, each a name and a value without blanks around it. -/
  lines : List (Bytes × Bytes)
  deriving DecidableEq, Repr

/-- The greatest number of field lines. -/
def lineLimit : Nat := 100

/-! ## Single bytes and line ends -/

def stop {α : Type} (f : Fault) : Scan α := fun _ => .error (.fault f)

/-- Takes the next byte. -/
def next : Scan UInt8 := fun
  | [] => .error .short
  | b :: rest => .ok (b, rest)

/-- Takes the next byte, which must be `b`. -/
def expect (b : UInt8) (f : Fault) : Scan Unit := do
  if (← next) != b then stop f

/-- Takes the longest run of bytes of the class. -/
def run (p : UInt8 → Bool) : Scan Bytes := fun b => .ok (b.takeWhile p, b.dropWhile p)

/-- Takes a line end, or stops with the fault. -/
def lineEnd (f : Fault) : Scan Unit := do
  let b ← next
  if b = Bytes.cr then expect Bytes.lf f
  else if b ≠ Bytes.lf then stop f

/-- Takes a line end if there is one, and says whether there was. -/
def lineEnd? : Scan Bool := fun b =>
  match b with
  | 0x0d :: _ | 0x0a :: _ => (do lineEnd .newLine; return true : Scan Bool) b
  | [] => .error .short
  | _ => .ok (false, b)

/-- Skips empty lines; there are at most as many as bytes. -/
def skipEmptyLines : (fuel : Nat) → Scan Unit
  | 0 => pure ()
  | fuel + 1 => do if ← lineEnd? then skipEmptyLines fuel

/-! ## The request line -/

/-- A method and the blank behind it. -/
def method : Scan Bytes := do
  let first ← next
  if !Bytes.isToken first then stop .token
  let more ← run Bytes.isToken
  expect Bytes.space .token
  return first :: more

/-- A byte of a target: anything but controls and blanks. -/
def isTargetByte (b : UInt8) : Bool := 0x21 ≤ b && b != 0x7f

/-- A target, which is a text, and the blank behind it. -/
def target : Scan Bytes := do
  let t ← run isTargetByte
  expect Bytes.space .token
  if t.isEmpty || !Text.Utf8.isValid t then stop .token
  return t

/-- What every version begins with. -/
def versionStem : Bytes := Bytes.ascii "HTTP/1."

/-- A version.  When too few bytes are left for one, the bytes that are there must begin one. -/
def version : Scan Version := fun b =>
  if 8 ≤ b.length then
    if b.take 8 = versionStem ++ [0x30] then .ok (.one_zero, b.drop 8)
    else if b.take 8 = versionStem ++ [0x31] then .ok (.one_one, b.drop 8)
    else .error (.fault .version)
  else if b.take 7 = versionStem.take b.length then .error .short
  else .error (.fault .version)

/-! ## Field lines -/

/-- A byte of a field value inside a line. -/
def isValueByte (b : UInt8) : Bool := Bytes.isFieldContent b

/-- A field name and the colon behind it. -/
def fieldName : Scan Bytes := do
  let first ← next
  if !Bytes.isToken first then stop .fieldName
  let more ← run Bytes.isToken
  expect Bytes.colon .fieldName
  return first :: more

/-- A field value and the end of its line, without the blanks on either side. -/
def fieldValue : Scan Bytes := do
  let _ ← run Bytes.isBlank
  let value ← run isValueByte
  lineEnd .fieldValue
  return Bytes.trimBlankEnd value

def fieldLine : Scan (Bytes × Bytes) := do
  let name ← fieldName
  let value ← fieldValue
  return (name, value)

/-- Field lines up to the empty line, at most `room`.  A line too many is read to its end first. -/
def fieldLines : (room : Nat) → Scan (List (Bytes × Bytes))
  | 0 => do
    if ← lineEnd? then return []
    let _ ← fieldLine
    stop .tooManyFields
  | room + 1 => do
    if ← lineEnd? then return []
    let line ← fieldLine
    return line :: (← fieldLines room)

/-- A whole head. -/
def head : Scan Parts := fun b => (do
  skipEmptyLines b.length
  let method ← method
  let target ← target
  let version ← version
  lineEnd .newLine
  let lines ← fieldLines lineLimit
  return ⟨method, target, version, lines⟩ : Scan Parts) b

end Wiretap.Message.HeadSyntax
