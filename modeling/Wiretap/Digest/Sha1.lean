import Wiretap.Bytes

/-!
# SHA-1

The digest of a byte string in 160 bits.  The string is filled up to whole blocks with a one bit,
zeros and its length in bits.  Each block is spread to eighty words, which are mixed one after the
other into the five words of the state.
-/

namespace Wiretap.Digest.Sha1

set_option autoImplicit false

/-- The state: five words. -/
structure State where
  a : UInt32
  b : UInt32
  c : UInt32
  d : UInt32
  e : UInt32
  deriving DecidableEq

/-- The state before the first block. -/
def initial : State := ⟨0x67452301, 0xefcdab89, 0x98badcfe, 0x10325476, 0xc3d2e1f0⟩

/-- Turns the bits of a word to the left. -/
def turn (x : UInt32) (n : UInt32) : UInt32 := (x <<< n) ||| (x >>> (32 - n))

/-- The string filled up to whole blocks of 64 bytes. -/
def padded (data : Bytes) : Bytes :=
  let zeros := (55 + 64 - data.length % 64) % 64
  data ++ [0x80] ++ List.replicate zeros 0 ++ Bytes.bigEndian 8 (data.length * 8)

/-- Four bytes as a word, the highest first. -/
def words : Bytes → List UInt32
  | a :: b :: c :: d :: rest =>
    ((a.toUInt32 <<< 24) ||| (b.toUInt32 <<< 16) ||| (c.toUInt32 <<< 8) ||| d.toUInt32)
      :: words rest
  | _ => []

/-- The eighty words of a block, made from its sixteen; words are kept with the last one first. -/
def spread (block : List UInt32) : List UInt32 :=
  let grow (reversed : List UInt32) : List UInt32 :=
    let earlier (i : Nat) : UInt32 := reversed.getD (i - 1) 0
    turn (earlier 3 ^^^ earlier 8 ^^^ earlier 14 ^^^ earlier 16) 1 :: reversed
  (Nat.repeat grow 64 block.reverse).reverse

/-- The mixing function and constant of a round. -/
def mix (round : Nat) (s : State) : UInt32 × UInt32 :=
  if round < 20 then ((s.b &&& s.c) ||| (s.b.complement &&& s.d), 0x5a827999)
  else if round < 40 then (s.b ^^^ s.c ^^^ s.d, 0x6ed9eba1)
  else if round < 60 then ((s.b &&& s.c) ||| (s.b &&& s.d) ||| (s.c &&& s.d), 0x8f1bbcdc)
  else (s.b ^^^ s.c ^^^ s.d, 0xca62c1d6)

/-- Mixes one word into the state. -/
def round (s : State) (word : UInt32 × Nat) : State :=
  let (f, k) := mix word.2 s
  ⟨turn s.a 5 + f + s.e + k + word.1, s.a, turn s.b 30, s.c, s.d⟩

/-- Mixes one block into the state. -/
def block (s : State) (sixteen : List UInt32) : State :=
  let t := (spread sixteen).zipIdx.foldl round s
  ⟨s.a + t.a, s.b + t.b, s.c + t.c, s.d + t.d, s.e + t.e⟩

/-- Mixes the blocks into the state; `count` is their number. -/
def blocks (s : State) : (count : Nat) → List UInt32 → State
  | 0, _ => s
  | count + 1, ws => blocks (block s (ws.take 16)) count (ws.drop 16)

/-- A word as four bytes, the highest first. -/
def bytes32 (w : UInt32) : Bytes :=
  [(w >>> 24).toUInt8, (w >>> 16).toUInt8, (w >>> 8).toUInt8, w.toUInt8]

/-- The digest of a byte string. -/
def digest (data : Bytes) : Bytes :=
  let ws := words (padded data)
  let s := blocks initial (ws.length / 16) ws
  [s.a, s.b, s.c, s.d, s.e].flatMap bytes32

end Wiretap.Digest.Sha1
