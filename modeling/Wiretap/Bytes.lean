/-!
# Byte strings

What travels on a connection is a sequence of bytes.  A byte string is a list, so that a stream
read in pieces is the concatenation of the pieces, and a parser is a function that returns the
bytes it did not use.

The module names the bytes that the wire formats give a meaning to, the classes a header field is
made of, and the ASCII case folding under which field names are compared.  Folding is idempotent
and keeps the length, so a folded name can stand for the name.
-/

namespace Wiretap

set_option autoImplicit false

/-- A string of bytes. -/
abbrev Bytes := List UInt8

namespace Bytes

/-! ## Literals -/

/-- The bytes of an ASCII text, one for each character. -/
def ascii (s : String) : Bytes := s.toList.map fun c => c.toNat.toUInt8

/-- The characters whose code points are the bytes. -/
def toChars (b : Bytes) : List Char := b.map fun x => Char.ofNat x.toNat

/-- The text whose characters are the bytes; for ASCII bytes, the text they encode. -/
def toText (b : Bytes) : String := String.ofList b.toChars

def tab : UInt8 := 0x09
def lf : UInt8 := 0x0a
def cr : UInt8 := 0x0d
def space : UInt8 := 0x20
def colon : UInt8 := 0x3a
def slash : UInt8 := 0x2f

/-- The line end of the wire formats. -/
def crlf : Bytes := [cr, lf]

/-! ## Classes of bytes -/

def isUpper (b : UInt8) : Bool := 0x41 ≤ b && b ≤ 0x5a

def isLower (b : UInt8) : Bool := 0x61 ≤ b && b ≤ 0x7a

def isDigit (b : UInt8) : Bool := 0x30 ≤ b && b ≤ 0x39

def isAlphanumeric (b : UInt8) : Bool := isUpper b || isLower b || isDigit b

/-- The marks that a token may hold beside letters and digits. -/
def tokenMarks : Bytes := ascii "!#$%&'*+-.^_\x60|~"

/-- A byte of a token: a method or a field name is made of these. -/
def isToken (b : UInt8) : Bool := isAlphanumeric b || tokenMarks.contains b

/-- A byte that a field value may hold: anything printable or above ASCII, and the tab. -/
def isFieldContent (b : UInt8) : Bool := b == tab || (0x20 ≤ b && b != 0x7f)

/-- A byte of a value that can be read as text: printable ASCII, and the tab. -/
def isVisible (b : UInt8) : Bool := b == tab || (0x20 ≤ b && b ≤ 0x7e)

/-- The blanks that may surround a field value. -/
def isBlank (b : UInt8) : Bool := b == space || b == tab

/-! ## Case folding -/

/-- The lower-case form of an ASCII letter, and any other byte itself. -/
def foldByte (b : UInt8) : UInt8 := if isUpper b then b + 0x20 else b

/-- The ASCII lower-case form. -/
def fold (b : Bytes) : Bytes := b.map foldByte

/-- Equality up to ASCII case. -/
def sameFolded (a b : Bytes) : Bool := a.fold == b.fold

theorem foldByte_idem (b : UInt8) : foldByte (foldByte b) = foldByte b := by
  have every : ∀ n : Fin 256, foldByte (foldByte ⟨⟨n⟩⟩) = foldByte ⟨⟨n⟩⟩ := by decide +kernel
  exact every b.toBitVec.toFin

@[simp] theorem fold_fold (b : Bytes) : b.fold.fold = b.fold := by
  simp [fold, foldByte_idem, Function.comp_def]

@[simp] theorem length_fold (b : Bytes) : b.fold.length = b.length := by
  simp [fold]

/-! ## Searching -/

/-- Whether `pattern` occurs in the byte string. -/
def containsSlice (pattern : Bytes) : Bytes → Bool
  | [] => pattern.isEmpty
  | b :: rest => pattern.isPrefixOf (b :: rest) || containsSlice pattern rest

/-- What stands before and after the first `mark`. -/
def cutAt? (mark : UInt8) (b : Bytes) : Option (Bytes × Bytes) :=
  match b.dropWhile (· != mark) with
  | [] => none
  | _ :: rest => some (b.takeWhile (· != mark), rest)

/-- What stands before and after the last `mark`. -/
def cutAtLast? (mark : UInt8) (b : Bytes) : Option (Bytes × Bytes) :=
  (cutAt? mark b.reverse).map fun (after, before) => (before.reverse, after.reverse)

/-- The byte string without the blanks at its end. -/
def trimBlankEnd (b : Bytes) : Bytes := (b.reverse.dropWhile isBlank).reverse

/-! ## Hexadecimal digits -/

/-- The lower-case hexadecimal digit of a number below sixteen. -/
def hexDigit (n : Nat) : Char :=
  if n < 10 then Char.ofNat (0x30 + n) else Char.ofNat (0x57 + n)

/-- The two hexadecimal digits of a byte. -/
def hexPair (b : UInt8) : List Char := [hexDigit (b.toNat / 16), hexDigit (b.toNat % 16)]

/-! ## Numbers in bytes -/

/-- The last `size` bytes of a number, the highest first. -/
def bigEndian : (size : Nat) → Nat → Bytes
  | 0, _ => []
  | size + 1, n => bigEndian size (n / 256) ++ [n.toUInt8]

/-- The number that some bytes stand for, the highest first. -/
def ofBigEndian (b : Bytes) : Nat := b.foldl (fun n x => n * 256 + x.toNat) 0

end Bytes

end Wiretap
