import Wiretap.Bytes

/-!
# UTF-8

The encoding of a character as one to four bytes, and a decoder that reads the encoding one byte
at a time.  The decoder keeps the range that the next byte must lie in: the second byte's range
depends on the first, which is what rules out overlong forms, surrogates and values past the last
code point.
-/

namespace Wiretap.Text.Utf8

set_option autoImplicit false

/-! ## Encoding -/

/-- The bytes of one character. -/
def encodeChar (c : Char) : Bytes :=
  let n := c.toNat
  if n < 0x80 then [n.toUInt8]
  else if n < 0x800 then [(0xc0 + n / 0x40).toUInt8, (0x80 + n % 0x40).toUInt8]
  else if n < 0x10000 then
    [(0xe0 + n / 0x1000).toUInt8, (0x80 + n / 0x40 % 0x40).toUInt8, (0x80 + n % 0x40).toUInt8]
  else
    [(0xf0 + n / 0x40000).toUInt8, (0x80 + n / 0x1000 % 0x40).toUInt8,
      (0x80 + n / 0x40 % 0x40).toUInt8, (0x80 + n % 0x40).toUInt8]

/-- The bytes of a sequence of characters. -/
def encode (cs : List Char) : Bytes := cs.flatMap encodeChar

/-- The bytes of a text. -/
def ofText (s : String) : Bytes := encode s.toList

/-! ## Decoding -/

/-- A decoder between two bytes: the characters read so far, the last one first, and the
character under way. -/
structure Decoder where
  chars : List Char
  /-- The bits of the character under way. -/
  value : Nat
  /-- How many bytes it still lacks. -/
  missing : Nat
  /-- The range its next byte must lie in. -/
  low : Nat
  high : Nat

namespace Decoder

/-- The decoder before the first byte. -/
def start : Decoder := ⟨[], 0, 0, 0x80, 0xbf⟩

/-- Begins a character that lacks `missing` bytes, the next of them between `low` and `high`. -/
def expect (d : Decoder) (value missing low high : Nat) : Option Decoder :=
  some { d with value, missing, low, high }

/-- The first byte of a character. -/
def lead (d : Decoder) (n : Nat) : Option Decoder :=
  if n < 0x80 then some { d with chars := Char.ofNat n :: d.chars }
  else if n < 0xc2 then none
  else if n ≤ 0xdf then d.expect (n - 0xc0) 1 0x80 0xbf
  else if n = 0xe0 then d.expect 0 2 0xa0 0xbf
  else if n = 0xed then d.expect 0xd 2 0x80 0x9f
  else if n ≤ 0xef then d.expect (n - 0xe0) 2 0x80 0xbf
  else if n = 0xf0 then d.expect 0 3 0x90 0xbf
  else if n ≤ 0xf3 then d.expect (n - 0xf0) 3 0x80 0xbf
  else if n = 0xf4 then d.expect 4 3 0x80 0x8f
  else none

/-- A further byte of the character under way. -/
def further (d : Decoder) (n : Nat) : Option Decoder :=
  if d.low ≤ n ∧ n ≤ d.high then
    let value := d.value * 0x40 + (n - 0x80)
    if d.missing = 1 then some { start with chars := Char.ofNat value :: d.chars }
    else d.expect value (d.missing - 1) 0x80 0xbf
  else none

/-- Takes one byte; `none` where no text continues so. -/
def step (d : Decoder) (b : UInt8) : Option Decoder :=
  if d.missing = 0 then d.lead b.toNat else d.further b.toNat

/-- The characters, if no character is under way. -/
def finish? (d : Decoder) : Option (List Char) :=
  if d.missing = 0 then some d.chars.reverse else none

end Decoder

/-- The characters that the bytes encode, if they encode any. -/
def decode? (b : Bytes) : Option (List Char) := (b.foldlM Decoder.step .start).bind Decoder.finish?

/-- Whether the bytes encode a text. -/
def isValid (b : Bytes) : Bool := (decode? b).isSome

/-- The text that the bytes encode, if they encode any. -/
def text? (b : Bytes) : Option String := (decode? b).map String.ofList

/-- The text that the bytes encode, read byte for byte where they encode none. -/
def toText (b : Bytes) : String := (text? b).getD b.toText

end Wiretap.Text.Utf8
