import Wiretap.Bytes

/-!
# Frames

Messages travel in frames: two bytes that say what the frame is, the length of its payload, which
takes more bytes when it is greater than 125, perhaps a mask of four bytes, and the payload, which
is combined with the mask byte by byte.  Masking twice with the same mask changes nothing.
-/

namespace Wiretap.WebSocket

set_option autoImplicit false

/-- A frame. -/
structure Frame where
  /-- Whether the frame is the last one of its message. -/
  final : Bool := true
  /-- The three reserved bits. -/
  reserved : Nat := 0
  /-- What the frame is, as a number of four bits. -/
  opcode : Nat
  mask : Option Bytes := none
  /-- The payload without its mask. -/
  payload : Bytes
  deriving DecidableEq, Repr

namespace Frame

/-! ## Lengths -/

/-- How many more bytes a length takes behind the seven bits that every length has. -/
def lengthBytes (n : Nat) : Nat := if n < 126 then 0 else if n < 65536 then 2 else 8

/-- How many more bytes a length takes whose first seven bits are known. -/
def moreBytes (bits : Nat) : Nat := if bits = 126 then 2 else if bits = 127 then 8 else 0

/-- The first seven bits of a length. -/
def lengthBits (n : Nat) : Nat := if n < 126 then n else if n < 65536 then 126 else 127

/-! ## Masks -/

/-- Combines a payload with a mask; an empty mask changes nothing. -/
def applyMask (mask payload : Bytes) : Bytes :=
  if mask.isEmpty then payload
  else payload.zipWith (· ^^^ ·)
    (List.replicate (payload.length / mask.length + 1) mask).flatten

/-! ## Whole frames -/

/-- The frame as it is sent. -/
def encode (f : Frame) : Bytes :=
  let n := f.payload.length
  let first := (if f.final then 0x80 else 0) + (f.reserved % 8) * 16 + f.opcode % 16
  let second := (if f.mask.isSome then 0x80 else 0) + lengthBits n
  first.toUInt8 :: second.toUInt8 :: Bytes.bigEndian (lengthBytes n) n
    ++ f.mask.getD [] ++ applyMask (f.mask.getD []) f.payload

/-- The first bytes of a stream, if there are so many, and the rest. -/
def cut? (n : Nat) (b : Bytes) : Option (Bytes × Bytes) :=
  let first := b.take n
  if first.length = n then some (first, b.drop n) else none

/-- A frame that was received. -/
structure Taken where
  frame : Frame
  /-- How many bytes its length took behind the seven bits. -/
  lengthBytes : Nat
  /-- What follows the frame. -/
  rest : Bytes
  deriving DecidableEq, Repr

/-- Takes a frame from the front of a stream, if it is there as a whole. -/
def take? : Bytes → Option Taken
  | a :: b :: rest => do
    let bits := b.toNat % 128
    let (lengthField, rest) ← cut? (moreBytes bits) rest
    let length := if moreBytes bits = 0 then bits else Bytes.ofBigEndian lengthField
    let masked := 128 ≤ b.toNat
    let (mask, rest) ← cut? (if masked then 4 else 0) rest
    let (payload, rest) ← cut? length rest
    return {
      frame := {
        final := 128 ≤ a.toNat
        reserved := a.toNat / 16 % 8
        opcode := a.toNat % 16
        mask := if masked then some mask else none
        payload := applyMask mask payload }
      lengthBytes := moreBytes bits
      rest }
  | _ => none

end Frame

end Wiretap.WebSocket
