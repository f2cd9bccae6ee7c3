/-!
# Punycode

A label above ASCII is written in ASCII as its basic characters, a hyphen, and a run of numbers in
base 36.  Each number says how far to advance through the positions and code points before the next
character is put in.  The digits of a number have thresholds that follow the numbers before it.
-/

namespace Wiretap.Url.Punycode

set_option autoImplicit false

/-- The value of a digit: letters of either case, then decimal digits. -/
def digitValue? (c : Char) : Option Nat :=
  if 'a' ≤ c ∧ c ≤ 'z' then some (c.toNat - 0x61)
  else if 'A' ≤ c ∧ c ≤ 'Z' then some (c.toNat - 0x41)
  else if '0' ≤ c ∧ c ≤ '9' then some (c.toNat - 0x30 + 26)
  else none

/-- The threshold of the digit at place `k`, where places are counted in steps of 36. -/
def threshold (k bias : Nat) : Nat := min 26 (max 1 (k - bias))

/-- Divides by 35 until the rest is small, and counts 36 for each division. -/
def scaleDown (delta k : Nat) : Nat × Nat :=
  if 455 < delta then scaleDown (delta / 35) (k + 36) else (delta, k)
termination_by delta
decreasing_by exact Nat.div_lt_self (by omega) (by decide)

/-- The bias after a number. -/
def adapt (delta count : Nat) (first : Bool) : Nat :=
  let delta := if first then delta / 700 else delta / 2
  let (rest, k) := scaleDown (delta + delta / count) 0
  k + 36 * rest / (rest + 38)

/-- The state between two digits. -/
structure State where
  /-- The characters put in so far. -/
  output : List Nat
  point : Nat := 128
  position : Nat := 0
  bias : Nat := 72
  /-- The number under way: its value, the weight and the place of its next digit. -/
  value : Nat := 0
  weight : Nat := 1
  place : Nat := 36

/-- The greatest number that a label may hold. -/
def numberLimit : Nat := 4294967295

/-- Takes one digit; the last digit of a number puts a character in. -/
def step (s : State) (c : Char) : Option State := do
  let digit ← digitValue? c
  let value := s.value + digit * s.weight
  if numberLimit < value then none
  let t := threshold s.place s.bias
  if t ≤ digit then
    some { s with value, weight := s.weight * (36 - t), place := s.place + 36 }
  else
    let count := s.output.length + 1
    let advance := s.position + value
    let point := s.point + advance / count
    let position := advance % count
    if 0x10ffff < point then none
    some {
      output := s.output.take position ++ point :: s.output.drop position
      point
      position := position + 1
      bias := adapt value count (s.position = 0) }

/-- The code points that a label stands for, without its mark. -/
def decode? (label : List Char) : Option (List Nat) := do
  let reversed := label.reverse
  let tail := (reversed.takeWhile (· != '-')).reverse
  let basic := (reversed.dropWhile (· != '-')).drop 1
  let s ← tail.foldlM step { output := basic.reverse.map Char.toNat }
  if s.weight = 1 ∧ s.value = 0 then some s.output else none

end Wiretap.Url.Punycode
