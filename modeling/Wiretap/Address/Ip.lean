import Wiretap.Text.Decimal
import Wiretap.Text.Reader

/-!
# Internet addresses

An address is a number of 32 or 128 bits.  A version 4 address is written as four decimal octets
without leading zeros.  A version 6 address is written as up to eight hexadecimal groups; a double
colon stands for one or more zero groups, and the last two groups may be written as a version 4
address.  The written form of a version 6 address shortens its first longest run of at least two
zero groups.
-/

namespace Wiretap.Address

set_option autoImplicit false

/-- An internet address of either version. -/
inductive Ip where
  | v4 (value : BitVec 32)
  | v6 (value : BitVec 128)
  deriving DecidableEq, Repr

/-! ## Reading -/

namespace Literal

open Text (Reader)

/-- Reads `item`, behind the separator unless it is the first. -/
def following {α : Type} (separator : Char) (first : Bool) (item : Reader α) : Reader α := do
  unless first do Reader.char separator
  item

/-- The value of a hexadecimal digit of either case. -/
def hexValue? (c : Char) : Option Nat :=
  if '0' ≤ c ∧ c ≤ '9' then some (c.toNat - 0x30)
  else if 'a' ≤ c ∧ c ≤ 'f' then some (c.toNat - 0x57)
  else if 'A' ≤ c ∧ c ≤ 'F' then some (c.toNat - 0x37)
  else none

/-- A decimal number up to 255 of at most three digits, without leading zeros. -/
def octet : Reader Nat := fun cs =>
  let digits := cs.takeWhile Text.Decimal.isDigit
  let n := Text.Decimal.value digits
  if digits.isEmpty || 3 < digits.length || 255 < n || (cs.head? == some '0' && 1 < digits.length)
  then none
  else some (n, cs.drop digits.length)

/-- A hexadecimal number of one to four digits. -/
def hexGroup : Reader Nat := fun cs =>
  let digits := cs.takeWhile fun c => (hexValue? c).isSome
  if digits.isEmpty || 4 < digits.length then none
  else some (digits.foldl (fun n c => n * 16 + (hexValue? c).getD 0) 0, cs.drop digits.length)

/-- A decimal number up to `most`, of any number of digits. -/
def number (most : Nat) : Reader Nat := fun cs =>
  let digits := cs.takeWhile Text.Decimal.isDigit
  let n := Text.Decimal.value digits
  if digits.isEmpty || most < n then none else some (n, cs.drop digits.length)

/-- Four octets with dots between them. -/
def v4 : Reader Nat := do
  let a ← octet
  let b ← following '.' false octet
  let c ← following '.' false octet
  let d ← following '.' false octet
  return ((a * 256 + b) * 256 + c) * 256 + d

/-- What a run of groups gave. -/
structure Groups where
  values : List Nat
  /-- The last two groups were written as a version 4 address. -/
  dotted : Bool
  rest : List Char

/-- As many groups as there are, up to `room`.  A version 4 address counts as two groups, ends the
run, and is tried first wherever two groups still fit. -/
def groups (first : Bool) : (room : Nat) → List Char → Groups
  | 0, cs => ⟨[], false, cs⟩
  | room + 1, cs =>
    match if room = 0 then none else following ':' first v4 cs with
    | some (n, rest) => ⟨[n / 65536, n % 65536], true, rest⟩
    | none =>
      match following ':' first hexGroup cs with
      | none => ⟨[], false, cs⟩
      | some (g, rest) =>
        let more := groups false room rest
        { more with values := g :: more.values }

/-- Eight groups, or fewer with one double colon. -/
def v6 : Reader Nat := fun cs =>
  let value (gs : List Nat) : Nat := gs.foldl (fun n g => n * 65536 + g) 0
  let front := groups true 8 cs
  if front.values.length = 8 then some (value front.values, front.rest)
  else if front.dotted then none
  else do
    let (_, rest) ← Reader.literal [':', ':'] front.rest
    let back := groups true (7 - front.values.length) rest
    let zeros := List.replicate (8 - front.values.length - back.values.length) 0
    return (value (front.values ++ zeros ++ back.values), back.rest)

end Literal

namespace Ip

/-- Reads an address of either version. -/
def ofChars? (cs : List Char) : Option Ip :=
  ((Text.Reader.all? Literal.v4 cs).map fun n => v4 (BitVec.ofNat 32 n)).or
    ((Text.Reader.all? Literal.v6 cs).map fun n => v6 (BitVec.ofNat 128 n))

/-- Reads an address of either version. -/
def ofText? (s : String) : Option Ip := ofChars? s.toList

/-! ## Writing -/

/-- The four octets with dots between them. -/
def dotted (n : Nat) : String :=
  s!"{n / 16777216 % 256}.{n / 65536 % 256}.{n / 256 % 256}.{n % 256}"

/-- The last `count` groups of sixteen bits of a number, the highest first. -/
def groupsOf : (count : Nat) → Nat → List Nat
  | 0, _ => []
  | count + 1, n => groupsOf count (n / 65536) ++ [n % 65536]

/-- The eight groups of a version 6 address. -/
def groups (value : BitVec 128) : List Nat := groupsOf 8 value.toNat

/-- How many zeros the list begins with. -/
def zeroRun (gs : List Nat) : Nat := (gs.takeWhile (· == 0)).length

/-- The place and length of the first longest run of zeros. -/
def longestZeroRun (gs : List Nat) : Nat × Nat :=
  (List.range gs.length).foldl
    (fun best i => let n := zeroRun (gs.drop i); if best.2 < n then (i, n) else best) (0, 0)

/-- Hexadecimal groups with colons between them. -/
def hexText (gs : List Nat) : String :=
  ":".intercalate (gs.map fun g => String.ofList (Nat.toDigits 16 g))

/-- The written form. -/
def text : Ip → String
  | v4 value => dotted value.toNat
  | v6 value =>
    let gs := groups value
    if gs.take 6 = [0, 0, 0, 0, 0, 0xffff] then "::ffff:" ++ dotted (value.toNat % 4294967296)
    else
      let (place, length) := longestZeroRun gs
      if 1 < length then hexText (gs.take place) ++ "::" ++ hexText (gs.drop (place + length))
      else hexText gs

/-- The address a host has on its own loopback. -/
def loopback : Ip := v4 0x7f000001

end Ip

end Wiretap.Address
