import Wiretap.Text.Decimal

/-!
# Spans of time

A span is counted in microseconds.  It is written in the greatest of seconds, milliseconds and
microseconds that it reaches, with as many decimals as it needs.
-/

namespace Wiretap.Text

set_option autoImplicit false

/-- A span of time in microseconds. -/
structure Span where
  micros : Nat
  deriving DecidableEq, Repr, Inhabited

namespace Span

/-- A span of whole seconds. -/
def seconds (n : Nat) : Span := ⟨n * 1000000⟩

/-- A span of whole milliseconds. -/
def milliseconds (n : Nat) : Span := ⟨n * 1000⟩

/-- The whole milliseconds of a span. -/
def millis (s : Span) : Nat := s.micros / 1000

/-- The last `places` digits of a number, zeros in front included. -/
def lastDigits : (places : Nat) → Nat → List Char
  | 0, _ => []
  | places + 1, n => lastDigits places (n / 10) ++ [Char.ofNat ('0'.toNat + n % 10)]

/-- A number without its last `places` digits. -/
def leadingDigits : (places : Nat) → Nat → Nat
  | 0, n => n
  | places + 1, n => leadingDigits places (n / 10)

/-- A number of units of which the last `places` digits are decimals; zeros at the end of the
decimals are not written. -/
def scaled (places n : Nat) : String :=
  let whole := Nat.repr (leadingDigits places n)
  let decimals := ((lastDigits places n).reverse.dropWhile (· == '0')).reverse
  if decimals.isEmpty then whole else whole ++ "." ++ String.ofList decimals

/-- The written form: `30s`, `1.5s`, `250ms`, `15µs`. -/
def text (s : Span) : String :=
  if s.micros = 0 then "0ns"
  else if s.micros < 1000 then s!"{s.micros}µs"
  else if s.micros < 1000000 then scaled 3 s.micros ++ "ms"
  else scaled 6 s.micros ++ "s"

end Span

end Wiretap.Text
