import Wiretap.Text.Utf8
import Wiretap.Text.Decimal

/-!
# Request targets

A target is a path alone, an authority alone, or a scheme, an authority and a path.  The authority
ends at the first slash, question mark or number sign, so no byte of a path belongs to it.  It holds
at most one colon outside brackets and user information, and a percent sign only inside them; user
information ends at the last at sign.  What stands behind a number sign is dropped.
-/

namespace Wiretap.Message

set_option autoImplicit false

/-- Why something is no target. -/
inductive UriError where
  | tooLong
  | empty
  | schemeTooLong
  | invalidAuthority
  | invalidCharacter
  | invalidFormat
  deriving DecidableEq, Repr

namespace UriError

def message : UriError → String
  | tooLong => "uri too long"
  | empty => "empty string"
  | schemeTooLong => "scheme too long"
  | invalidAuthority => "invalid authority"
  | invalidCharacter => "invalid uri character"
  | invalidFormat => "invalid format"

end UriError

/-- A request target in its parts. -/
structure Uri where
  /-- The scheme, in lower case if it is one of the two well-known ones. -/
  scheme : Option Bytes
  /-- The authority, empty where there is none. -/
  authority : Bytes
  /-- The path with the query, as written. -/
  pathAndQuery : Bytes
  deriving DecidableEq, Repr

namespace Uri

/-- The longest target. -/
def lengthLimit : Nat := 65534

/-- The longest scheme. -/
def schemeLimit : Nat := 64

/-- The greatest number of colons before a bracket closes. -/
def colonLimit : Nat := 8

/-! ## Classes of bytes -/

/-- A byte that an authority, or what ends it, is made of. -/
def isUriByte (b : UInt8) : Bool :=
  Bytes.isAlphanumeric b || (Bytes.ascii "!#$&'()*+,-./:;=?@[]_~").contains b

/-- A byte that ends an authority. -/
def endsAuthority (b : UInt8) : Bool := b == 0x2f || b == 0x3f || b == 0x23

/-- A byte of a scheme. -/
def isSchemeByte (b : UInt8) : Bool :=
  Bytes.isAlphanumeric b || (Bytes.ascii "+-.~").contains b

/-- A byte of a path, before the query and the fragment. -/
def isPathByte (b : UInt8) : Bool :=
  b == 0x21 || b == 0x22 || (0x24 ≤ b && b ≤ 0x3b) || b == 0x3d || (0x40 ≤ b && b ≤ 0x5f)
    || (0x61 ≤ b && b ≤ 0x7e) || 0x7f ≤ b

/-- A byte of a query. -/
def isQueryByte (b : UInt8) : Bool :=
  b == 0x21 || (0x24 ≤ b && b ≤ 0x3b) || b == 0x3d || 0x3f ≤ b

/-! ## The authority -/

/-- What has been seen of an authority. -/
structure AuthorityScan where
  colons : Nat := 0
  opened : Bool := false
  closed : Bool := false
  percent : Bool := false
  /-- The last byte was an at sign. -/
  atEnd : Bool := false

namespace AuthorityScan

/-- Takes one byte of the authority.  A closing bracket and an at sign forgive the colons and the
percent signs before them. -/
def step (s : AuthorityScan) (b : UInt8) : Except UriError AuthorityScan :=
  let s := { s with atEnd := false }
  if b = 0x3a then
    if colonLimit ≤ s.colons then .error .invalidAuthority
    else .ok { s with colons := s.colons + 1 }
  else if b = 0x5b then
    if s.percent || s.opened then .error .invalidAuthority else .ok { s with opened := true }
  else if b = 0x5d then
    if !s.opened || s.closed then .error .invalidAuthority
    else .ok { s with closed := true, colons := 0, percent := false }
  else if b = 0x40 then .ok { s with colons := 0, percent := false, atEnd := true }
  else if b = 0x25 then .ok { s with percent := true }
  else if isUriByte b then .ok s
  else .error .invalidCharacter

/-- Whether an authority may end here. -/
def complete (s : AuthorityScan) : Bool :=
  s.opened == s.closed && s.colons ≤ 1 && !s.atEnd && !s.percent

end AuthorityScan

/-- Splits off the authority, which may be empty, and returns what follows it. -/
def splitAuthority (b : Bytes) : Except UriError (Bytes × Bytes) := do
  if b.isEmpty then .error .empty
  let authority := b.takeWhile fun x => !endsAuthority x
  let scan ← authority.foldlM AuthorityScan.step {}
  if scan.complete then return (authority, b.dropWhile fun x => !endsAuthority x)
  else .error .invalidAuthority

/-- The part of an authority behind its last at sign. -/
def hostAndPort (authority : Bytes) : Bytes :=
  ((Bytes.cutAtLast? 0x40 authority).map (·.2)).getD authority

/-- The host that an authority names; brackets belong to it. -/
def host (authority : Bytes) : Bytes :=
  let b := hostAndPort authority
  match b with
  | 0x5b :: _ => match Bytes.cutAt? 0x5d b with
    | some (inside, _) => inside ++ [0x5d]
    | none => b
  | _ => b.takeWhile (· != Bytes.colon)

/-- The port that an authority names, if it is one. -/
def port? (authority : Bytes) : Option Nat :=
  (Bytes.cutAtLast? Bytes.colon authority).bind fun (_, p) =>
    Text.Decimal.port? (Bytes.toChars p)

/-! ## The path -/

/-- Checks a path with its query and drops the fragment. -/
def checkPath (b : Bytes) : Except UriError Bytes := do
  let path := b.takeWhile fun x => x != 0x3f && x != 0x23
  if !path.all isPathByte then .error .invalidCharacter
  let behind := b.drop path.length
  let query := match behind with
    | 0x3f :: q => 0x3f :: q.takeWhile (· != 0x23)
    | _ => []
  if !query.all isQueryByte then .error .invalidCharacter
  let kept := path ++ query
  if kept.any (0x7f ≤ ·) && !Text.Utf8.isValid kept then .error .invalidCharacter
  return kept

/-! ## Whole targets -/

/-- The well-known schemes. -/
def http : Bytes := Bytes.ascii "http"

def https : Bytes := Bytes.ascii "https"

/-- What separates a scheme from an authority. -/
def schemeMark : Bytes := Bytes.ascii "://"

/-- Splits off the scheme, if the target begins with one. -/
def splitScheme (b : Bytes) : Except UriError (Option Bytes × Bytes) :=
  if Bytes.sameFolded (b.take 7) (http ++ schemeMark) then .ok (some http, b.drop 7)
  else if Bytes.sameFolded (b.take 8) (https ++ schemeMark) then .ok (some https, b.drop 8)
  else
    let scheme := b.takeWhile isSchemeByte
    let behind := b.drop scheme.length
    if 3 < b.length && schemeMark.isPrefixOf behind then
      if schemeLimit < scheme.length then .error .schemeTooLong
      else .ok (some scheme, behind.drop 3)
    else .ok (none, b)

/-- Reads a target. -/
def parse (b : Bytes) : Except UriError Uri := do
  if lengthLimit < b.length then .error .tooLong
  match b with
  | [] => .error .empty
  | [0x2a] => return ⟨none, [], b⟩
  | 0x2f :: _ => return ⟨none, [], ← checkPath b⟩
  | [_] =>
    let (authority, rest) ← splitAuthority b
    if rest.isEmpty then return ⟨none, authority, []⟩ else .error .invalidCharacter
  | _ =>
    let (scheme, behind) ← splitScheme b
    let (authority, rest) ← splitAuthority behind
    match scheme with
    | none => if rest.isEmpty then return ⟨none, authority, []⟩ else .error .invalidFormat
    | some _ =>
      if authority.isEmpty then .error .invalidFormat
      return ⟨scheme, authority, ← checkPath rest⟩

/-- The path with the query, with a slash for nothing; an authority alone has none. -/
def pathAndQuery? (u : Uri) : Option Bytes :=
  if u.scheme.isNone && !u.authority.isEmpty then none
  else some (if u.pathAndQuery.isEmpty then [Bytes.slash] else u.pathAndQuery)

/-- The written form: an absent path before a query is written as a slash. -/
def bytes (u : Uri) : Bytes :=
  let path := u.pathAndQuery.takeWhile (· != 0x3f)
  let query := u.pathAndQuery.drop path.length
  let absolute := u.scheme.isSome || !u.pathAndQuery.isEmpty
  ((u.scheme.map (· ++ schemeMark)).getD []) ++ u.authority
    ++ (if path.isEmpty && absolute then [Bytes.slash] else path) ++ query

end Uri

end Wiretap.Message
