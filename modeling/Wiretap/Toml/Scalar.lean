import Wiretap.Text.Decimal
import Wiretap.Text.Reader
import Wiretap.Address.Ip
import Wiretap.Toml.Entries

/-!
# TOML scalars

Readers for blanks, comments, line ends, the four kinds of string, numbers, truth values and dates.
Digits may be grouped by single underscores between them.  An integer must fit 64 bits with a sign;
a float must not be rounded up to infinity, though a negative one may be rounded down to it.
-/

namespace Wiretap.Toml

set_option autoImplicit false

open Text (Reader)

namespace Scalar

/-! ## Blanks and line ends -/

def isBlank (c : Char) : Bool := c == ' ' || c == '\t'

/-- Any character above ASCII. -/
def isWide (c : Char) : Bool := 0x80 ≤ c.toNat

/-- A character of a comment: everything but controls; the tab is allowed. -/
def isCommentChar (c : Char) : Bool := c == '\t' || (0x20 ≤ c.toNat && c.toNat ≠ 0x7f)

def blanks : Reader Unit := do
  let _ ← Reader.takeWhile isBlank

/-- One line end in either form. -/
def newline : Reader Unit := Reader.char '\n' <|> Reader.literal ['\r', '\n']

def comment : Reader Unit := do
  Reader.char '#'
  let _ ← Reader.takeWhile isCommentChar

/-- The end of a line that holds nothing more: blanks, perhaps a comment, and a line end or the end
of the text. -/
def lineEnd : Reader Unit := do
  blanks
  let _ ← Reader.optional comment
  newline <|> Reader.endOfText

/-- One stretch of blanks, line ends or comment inside an array. -/
def gap : Reader Unit :=
  (do let _ ← Reader.takeWhile1 isBlank) <|> newline <|> comment

def gaps : Reader Unit := do
  let _ ← Reader.many gap

/-! ## Strings -/

/-- Reads exactly `n` hexadecimal digits as the code point of a character. -/
def codePoint (n : Nat) : Reader Char := do
  let digits ← Reader.exactly n fun c => (Address.Literal.hexValue? c).isSome
  let value := digits.foldl (fun v c => v * 16 + (Address.Literal.hexValue? c).getD 0) 0
  if value.isValidChar then return Char.ofNat value else failure

/-- The character that an escape stands for, read behind the backslash. -/
def escaped : Reader Char := do
  match ← Reader.satisfy fun _ => true with
  | 'b' => return '\x08'
  | 't' => return '\t'
  | 'n' => return '\n'
  | 'f' => return '\x0c'
  | 'r' => return '\r'
  | '"' => return '"'
  | '\\' => return '\\'
  | 'u' => codePoint 4
  | 'U' => codePoint 8
  | _ => failure

def escape : Reader Char := do
  Reader.char '\\'
  escaped

/-- A character that stands for itself between double quotes. -/
def isBasicChar (c : Char) : Bool :=
  isBlank c || isWide c || (0x21 ≤ c.toNat && c.toNat ≤ 0x7e && c != '"' && c != '\\')

/-- A character that stands for itself between single quotes. -/
def isLiteralChar (c : Char) : Bool :=
  isWide c || c == '\t' || (0x20 ≤ c.toNat && c.toNat ≤ 0x7e && c != '\'')

/-- A string between double quotes on one line. -/
def basicString : Reader (List Char) := do
  Reader.char '"'
  let cs ← Reader.many (Reader.satisfy isBasicChar <|> escape)
  Reader.char '"'
  return cs

/-- A string between single quotes on one line. -/
def literalString : Reader (List Char) := do
  Reader.char '\''
  let cs ← Reader.takeWhile isLiteralChar
  Reader.char '\''
  return cs

/-- A backslash at the end of a line, with the blanks and line ends behind it. -/
def lineJoin : Reader (List Char) := do
  Reader.char '\\'
  blanks
  newline
  let _ ← Reader.many ((do let _ ← Reader.takeWhile1 isBlank) <|> newline)
  return []

/-- The line end of a long string, always as a line feed. -/
def foldedNewline : Reader (List Char) := do
  newline
  return ['\n']

/-- One or two quotes inside a long string, not at its end. -/
def loneQuotes (quote : Char) : Reader (List Char) := do
  let run ← Reader.takeWhile1 (· == quote)
  if run.length < 3 then return run else failure

/-- The quotes that end a long string; up to two before the last three belong to it. -/
def closing (quote : Char) : Reader (List Char) := fun cs =>
  let run := (cs.takeWhile (· == quote)).length
  if run < 3 then none
  else
    let inside := min (run - 3) 2
    some (List.replicate inside quote, cs.drop (inside + 3))

/-- A string over several lines between three quotes and three quotes; a line end right behind the
first three is not part of it. -/
def longString (quote : Char) (piece : Reader (List Char)) : Reader (List Char) := do
  Reader.literal [quote, quote, quote]
  let _ ← Reader.optional newline
  let pieces ← Reader.many (piece <|> foldedNewline <|> loneQuotes quote)
  let last ← closing quote
  return pieces.flatten ++ last

def longBasicString : Reader (List Char) :=
  longString '"' (Reader.takeWhile1 isBasicChar <|> lineJoin <|> (do return [← escape]))

def longLiteralString : Reader (List Char) := longString '\'' (Reader.takeWhile1 isLiteralChar)

/-- A string of any kind. -/
def string : Reader String := do
  let cs ← longBasicString <|> basicString <|> longLiteralString <|> literalString
  return String.ofList cs

/-! ## Numbers -/

/-- A run of digits of a class, with single underscores between them, which are dropped. -/
def grouped (isDigit : Char → Bool) : Reader (List Char) := do
  let first ← Reader.satisfy isDigit
  let more ← Reader.many
    (Reader.satisfy isDigit <|> (do Reader.char '_'; Reader.satisfy isDigit))
  return first :: more

/-- The integer that digits of a base below sixteen or sixteen denote. -/
def radixValue (base : Nat) (digits : List Char) : Nat :=
  digits.foldl (fun n c => n * base + (Address.Literal.hexValue? c).getD 0) 0

/-- Whether a character is a digit in the base. -/
def isRadixDigit (base : Nat) (c : Char) : Bool :=
  ((Address.Literal.hexValue? c).map fun v => decide (v < base)).getD false

/-- A sign, as the factor it stands for. -/
def sign : Reader (Option Char) := Reader.optional (Reader.satisfy fun c => c == '+' || c == '-')

/-- The digits of a decimal integer: no zero before other digits. -/
def decimalDigits : Reader (List Char) :=
  fun cs => match cs with
    | '0' :: rest => some (['0'], rest)
    | _ => grouped Text.Decimal.isDigit cs

/-- An integer in a base given by the two characters before it. -/
def radixInteger (mark : Char) (base : Nat) : Reader Int := do
  Reader.literal ['0', mark]
  let n := radixValue base (← grouped (isRadixDigit base))
  if (n : Int) ≤ Text.Decimal.most64 then return n else failure

def decimalInteger : Reader Int := do
  let s ← sign
  let n := Text.Decimal.value (← decimalDigits)
  let z : Int := if s = some '-' then -(n : Int) else n
  if Text.Decimal.least64 ≤ z ∧ z ≤ Text.Decimal.most64 then return z else failure

def integer : Reader Int :=
  radixInteger 'x' 16 <|> radixInteger 'o' 8 <|> radixInteger 'b' 2 <|> decimalInteger

/-- The exponent of a float, read behind its letter. -/
def exponent : Reader Int := do
  let _ ← Reader.satisfy fun c => c == 'e' || c == 'E'
  let s ← sign
  let n := Text.Decimal.value (← grouped Text.Decimal.isDigit)
  return if s = some '-' then -(n : Int) else n

/-- The least number that is rounded up past the greatest double. -/
def overflowBound : Nat := 1 <<< 1024 - 1 <<< 970

/-- Whether the decimal number made of `digits`, scaled by a power of ten, is too great for a
double.  A number with its first digit far beyond or far below the bound is decided by that alone. -/
def overflows (digits : List Char) (scale : Int) : Bool :=
  let n := Text.Decimal.value digits
  let places := ((Nat.repr n).length : Int) + scale
  if n = 0 then false
  else if 400 < places then true
  else if places < 300 then false
  else if 0 ≤ scale then overflowBound ≤ n * Nat.pow 10 scale.toNat
  else overflowBound * Nat.pow 10 (-scale).toNat ≤ n

/-- A float in digits: a fraction, an exponent, or both. -/
def plainFloat : Reader Unit := do
  let s ← sign
  let whole ← decimalDigits
  let fraction ← Reader.optional (do Reader.char '.'; grouped Text.Decimal.isDigit)
  let power ← Reader.optional exponent
  if fraction.isNone && power.isNone then failure
  let decimals := fraction.getD []
  if s != some '-' && overflows (whole ++ decimals) (power.getD 0 - decimals.length) then failure

def specialFloat : Reader Unit := do
  let _ ← sign
  Reader.literal ['i', 'n', 'f'] <|> Reader.literal ['n', 'a', 'n']

def float : Reader Unit := plainFloat <|> specialFloat

/-- A truth value. -/
def boolean : Reader Bool :=
  (do Reader.literal ['t', 'r', 'u', 'e']; return true)
    <|> (do Reader.literal ['f', 'a', 'l', 's', 'e']; return false)

/-! ## Dates -/

/-- A number of exactly `n` digits, between the bounds. -/
def field (n least most : Nat) : Reader Nat := do
  let v := Text.Decimal.value (← Reader.exactly n Text.Decimal.isDigit)
  if least ≤ v ∧ v ≤ most then return v else failure

/-- How many days the month has. -/
def daysIn (year month : Nat) : Nat :=
  if month = 2 then
    if year % 4 = 0 ∧ (year % 100 ≠ 0 ∨ year % 400 = 0) then 29 else 28
  else if month = 4 ∨ month = 6 ∨ month = 9 ∨ month = 11 then 30
  else 31

def date : Reader Unit := do
  let year ← field 4 0 9999
  Reader.char '-'
  let month ← field 2 1 12
  Reader.char '-'
  let _ ← field 2 1 (daysIn year month)

/-- A time of day; a leap second is allowed. -/
def time : Reader Unit := do
  let _ ← field 2 0 23
  Reader.char ':'
  let _ ← field 2 0 59
  Reader.char ':'
  let _ ← field 2 0 60
  let _ ← Reader.optional (do Reader.char '.'; Reader.takeWhile1 Text.Decimal.isDigit)

/-- The offset of a time from the universal one. -/
def offset : Reader Unit :=
  (do let _ ← Reader.satisfy fun c => c == 'Z' || c == 'z') <|> do
    let _ ← Reader.satisfy fun c => c == '+' || c == '-'
    let _ ← field 2 0 23
    Reader.char ':'
    let _ ← field 2 0 59

/-- A date, a time, or both. -/
def datetime : Reader Unit :=
  (do
    date
    let _ ← Reader.optional do
      let _ ← Reader.satisfy fun c => c == 'T' || c == 't' || c == ' '
      time
      let _ ← Reader.optional offset) <|> time

/-! ## Any scalar -/

/-- A scalar value.  A date is tried before a float, and a float before an integer, since each of
these begins with what the next would accept. -/
def value : Reader Value :=
  (do return .string (← string))
    <|> (do return .boolean (← boolean))
    <|> (do datetime; return .datetime)
    <|> (do float; return .float)
    <|> (do return .integer (← integer))

end Scalar

end Wiretap.Toml
