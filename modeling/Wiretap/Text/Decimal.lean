/-!
# Decimal numbers

Readers for the numbers of header fields, addresses, ports and options: a run of ASCII digits,
for some readers after a sign, whose value lies in a given range.  Nothing else is accepted: no
blanks, no separators, no empty run.
-/

namespace Wiretap.Text.Decimal

set_option autoImplicit false

def isDigit (c : Char) : Bool := '0' ≤ c && c ≤ '9'

/-- The value of a decimal digit. -/
def digitValue (c : Char) : Nat := c.toNat - '0'.toNat

/-- The number that a run of digits denotes. -/
def value (digits : List Char) : Nat := digits.foldl (fun n c => n * 10 + digitValue c) 0

/-- Reads a non-empty run of digits. -/
def natural? (cs : List Char) : Option Nat :=
  if !cs.isEmpty && cs.all isDigit then some (value cs) else none

/-- Reads a number up to `most`; one plus sign may stand before it. -/
def unsigned? (most : Nat) (cs : List Char) : Option Nat :=
  (natural? (match cs with | '+' :: rest => rest | _ => cs)).filter (· ≤ most)

/-- Reads an integer between `least` and `most`; one sign may stand before it. -/
def signed? (least most : Int) (cs : List Char) : Option Int :=
  let number : Option Int := match cs with
    | '-' :: rest => (natural? rest).map fun n => -(n : Int)
    | '+' :: rest => (natural? rest).map Int.ofNat
    | _ => (natural? cs).map Int.ofNat
  number.filter fun n => least ≤ n && n ≤ most

/-- The least and the greatest number of a signed 64-bit field. -/
def least64 : Int := -9223372036854775808

def most64 : Int := 9223372036854775807

/-- Reads an integer that fits a signed 64-bit field. -/
def int64? (cs : List Char) : Option Int := signed? least64 most64 cs

/-- The greatest size that a length in bytes can have. -/
def mostSize : Nat := 18446744073709551615

/-- Reads a length in bytes. -/
def size? (cs : List Char) : Option Nat := unsigned? mostSize cs

/-- Reads a port number. -/
def port? (cs : List Char) : Option Nat := unsigned? 65535 cs

end Wiretap.Text.Decimal
