import Wiretap.Bytes

/-!
# Payload previews

A captured payload is shown by its first bytes, in printable ASCII.  A printable byte stands for
itself, except the quotes and the backslash, which are escaped; the common controls have letter
escapes and every other byte is written with two hexadecimal digits.  Each byte has one escape and
no escape begins another, so the bytes shown can be read back.  A payload that is cut is marked
with its length.
-/

namespace Wiretap.Text

set_option autoImplicit false

/-- The printable form of one byte. -/
def escapeByte (b : UInt8) : List Char :=
  if b = 0x09 then ['\\', 't']
  else if b = 0x0a then ['\\', 'n']
  else if b = 0x0d then ['\\', 'r']
  else if b = 0x22 then ['\\', '"']
  else if b = 0x27 then ['\\', '\'']
  else if b = 0x5c then ['\\', '\\']
  else if 0x20 ≤ b ∧ b ≤ 0x7e then [Char.ofNat b.toNat]
  else '\\' :: 'x' :: Bytes.hexPair b

/-- The printable form of a byte string. -/
def escape (data : Bytes) : List Char := data.flatMap escapeByte

/-- How many bytes of a payload a preview shows. -/
def previewLimit : Nat := 256

/-- The mark behind the preview of a payload that was cut. -/
def previewMark (length : Nat) : List Char :=
  "... (".toList ++ (Nat.repr length).toList ++ " bytes total)".toList

/-- The preview of a payload. -/
def previewChars (data : Bytes) : List Char :=
  escape (data.take previewLimit)
    ++ if previewLimit < data.length then previewMark data.length else []

/-- The preview of a payload, as a text. -/
def preview (data : Bytes) : String := String.ofList (previewChars data)

end Wiretap.Text
