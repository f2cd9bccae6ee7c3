import Wiretap.Address.Ip
import Wiretap.Bytes
import Wiretap.Text.Quoted
import Wiretap.Text.Utf8
import Wiretap.Url.Punycode

/-!
# Hosts of locations

A host is a version 6 address in brackets, a version 4 address, or a name.  Percent escapes in a
name are resolved first.  A name whose last label is a number must be a version 4 address, of which
one to four parts may be written in decimal, octal or hexadecimal.  A name holds no character that
delimits a location, and a label that is marked as encoded must decode to printable characters.
-/

namespace Wiretap.Url

set_option autoImplicit false

/-- Why a location is refused. -/
inductive UrlError where
  | emptyHost
  | invalidName
  | invalidPort
  | invalidIpv4
  | invalidIpv6
  deriving DecidableEq, Repr

namespace UrlError

def message : UrlError → String
  | emptyHost => "empty host"
  | invalidName => "invalid international domain name"
  | invalidPort => "invalid port number"
  | invalidIpv4 => "invalid IPv4 address"
  | invalidIpv6 => "invalid IPv6 address"

end UrlError

namespace Host

/-! ## Names -/

/-- Resolves percent escapes; a percent sign without two digits stands for itself. -/
def percentDecode : Bytes → Bytes
  | [] => []
  | 0x25 :: a :: b :: rest =>
    match Address.Literal.hexValue? (Char.ofNat a.toNat),
        Address.Literal.hexValue? (Char.ofNat b.toNat) with
    | some h, some l => (h * 16 + l).toUInt8 :: percentDecode rest
    | _, _ => 0x25 :: percentDecode (a :: b :: rest)
  | c :: rest => c :: percentDecode rest

/-- The ASCII characters that no name holds: controls, the blank, and delimiters. -/
def isDenied (c : Char) : Bool :=
  c.toNat ≤ 0x20 || c.toNat = 0x7f || "%#/:<>?@[\\]^|".toList.contains c

/-- Whether a code point above ASCII may stand in a name. -/
def isAdmitted (n : Nat) : Bool := Text.covered Text.printableRanges n

/-- The plain form of a character: wide forms of ASCII characters are made narrow, full stops of
other scripts are made dots, and letters are put in lower case. -/
def plainChar (c : Char) : Char :=
  let n := c.toNat
  if n = 0x3002 ∨ n = 0xff61 then '.'
  else if 0xff01 ≤ n ∧ n ≤ 0xff5e then (Char.ofNat (n - 0xfee0)).toLower
  else c.toLower

/-- Whether a label marked as encoded stands for a label above ASCII. -/
def isEncodedLabel (label : List Char) : Bool :=
  match Punycode.decode? (label.drop 4) with
  | none => false
  | some points =>
    points.any (0x80 ≤ ·) && points.all (fun n => n < 0x80 || isAdmitted n)
      && !(points.head?.any (Text.covered Text.extendingRanges))

/-- Whether the characters between two dots of a name are a label. -/
def isLabel (label : List Char) : Bool :=
  label.all (fun c => if c.toNat < 0x80 then !isDenied c else isAdmitted c.toNat)
    && (label.take 4 != ['x', 'n', '-', '-'] || isEncodedLabel label)

/-- The plain form of a name. -/
def name (host : List Char) : Except UrlError (List Char) :=
  match Text.Utf8.decode? (percentDecode (Text.Utf8.encode host)) with
  | none => .error .invalidName
  | some cs =>
    let cs := cs.map plainChar
    if (cs.splitOn '.').all isLabel then .ok cs else .error .invalidName

/-! ## Version 4 addresses -/

/-- A part of an address in one of three bases; `some none` is a number that is too great. -/
def ipv4Number? (cs : List Char) : Option (Option Nat) :=
  let read (base : Nat) (digits : List Char) : Option (Option Nat) :=
    let values := digits.map fun c => (Address.Literal.hexValue? c).getD 16
    if values.all (· < base) then
      let n := values.foldl (fun n v => n * base + v) 0
      some (if n ≤ 4294967295 then some n else none)
    else none
  match cs with
  | [] => none
  | '0' :: 'x' :: digits => read 16 digits
  | '0' :: 'X' :: digits => read 16 digits
  | '0' :: d :: digits => read 8 (d :: digits)
  | _ => read 10 cs

/-- The labels of a name, without the empty one behind a last dot. -/
def labels (cs : List Char) : List (List Char) :=
  let all := cs.splitOn '.'
  if 1 < all.length && all.getLast? == some [] then all.dropLast else all

/-- Whether the last label of a name is a number. -/
def endsInNumber (cs : List Char) : Bool :=
  match (labels cs).getLast? with
  | none => false
  | some last =>
    (!last.isEmpty && last.all Text.Decimal.isDigit) || (ipv4Number? last).isSome

/-- Whether a name is a version 4 address. -/
def isIpv4 (cs : List Char) : Bool :=
  let parts := labels cs
  match parts.mapM ipv4Number? with
  | none => false
  | some numbers =>
    parts.length ≤ 4 && numbers.all (·.isSome)
      && numbers.dropLast.all (fun n => n.getD 256 ≤ 255)
      && (numbers.getLast?.any fun n => n.getD 0 < 1 <<< (8 * (5 - parts.length)))

/-! ## Any host -/

/-- Checks a host. -/
def check (host : List Char) : Except UrlError Unit :=
  match host with
  | [] => .error .emptyHost
  | '[' :: rest =>
    if rest.getLast? = some ']'
        && (Text.Reader.all? Address.Literal.v6 rest.dropLast).isSome then .ok ()
    else .error .invalidIpv6
  | _ =>
    match name host with
    | .error e => .error e
    | .ok cs =>
      if cs.isEmpty then .error .emptyHost
      else if endsInNumber cs && !isIpv4 cs then .error .invalidIpv4
      else .ok ()

end Host

end Wiretap.Url
