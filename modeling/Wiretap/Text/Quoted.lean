import Wiretap.Text.CharRanges
import Wiretap.Bytes

/-!
# Quoted text

Messages quote a text they did not choose.  Between the double quotes a printable character stands
for itself, the double quote and the backslash are escaped, four controls have short escapes, and
every other character is written as its code point in braces; so are the characters that would
combine with the one before them.
-/

namespace Wiretap.Text

set_option autoImplicit false

/-- Whether a sorted table of ranges covers the code point, by bisection of the part of the table
between `low` and `high`; each step halves it, so `fuel` steps suffice for `2 ^ fuel` ranges. -/
def inRanges (table : Array (Nat × Nat)) (n : Nat) : (fuel low high : Nat) → Bool
  | 0, _, _ => false
  | fuel + 1, low, high =>
    if high ≤ low then false
    else
      let middle := (low + high) / 2
      match table[middle]? with
      | none => false
      | some (first, last) =>
        if n < first then inRanges table n fuel low middle
        else if last < n then inRanges table n fuel (middle + 1) high
        else true

/-- Whether a sorted table of ranges covers the code point. -/
def covered (table : Array (Nat × Nat)) (n : Nat) : Bool :=
  inRanges table n (table.size.log2 + 1) 0 table.size

/-- Whether a character is shown as itself inside quotes. -/
def isPlain (c : Char) : Bool :=
  let n := c.toNat
  if n < 0x80 then 0x20 ≤ n && n < 0x7f
  else covered printableRanges n && !covered extendingRanges n

/-- The hexadecimal digits of a number, without leading zeros. -/
def hexDigits (n : Nat) : List Char := Nat.toDigits 16 n

/-- The form of one character between the quotes. -/
def quoteChar (c : Char) : List Char :=
  match c with
  | '\x00' => ['\\', '0']
  | '\t' => ['\\', 't']
  | '\r' => ['\\', 'r']
  | '\n' => ['\\', 'n']
  | '"' => ['\\', '"']
  | '\\' => ['\\', '\\']
  | c => if isPlain c then [c] else ['\\', 'u', '\x7b'] ++ hexDigits c.toNat ++ ['\x7d']

/-- The text between double quotes. -/
def quote (s : String) : String :=
  String.ofList ('"' :: s.toList.flatMap quoteChar ++ ['"'])

end Wiretap.Text
