import Wiretap.Url.Host

/-!
# Locations

A location that a tunnel is opened to is a scheme, two slashes, perhaps user information, a host,
perhaps a port, and a path.  Blanks and controls around it are dropped, and so are tabs and line
ends inside it; slashes before the host may be repeated and may lean either way.  Of the parts only
the host and the port can be wrong.
-/

namespace Wiretap.Url

set_option autoImplicit false

/-- A character that ends the host and the port. -/
def endsAuthority (c : Char) : Bool := c == '/' || c == '\\' || c == '?' || c == '#'

/-- The location without what is ignored in it. -/
def significant (cs : List Char) : List Char :=
  let blank (c : Char) : Bool := c.toNat ≤ 0x20
  let trimmed := ((cs.dropWhile blank).reverse.dropWhile blank).reverse
  trimmed.filter fun c => c != '\t' && c != '\n' && c != '\r'

/-- The characters of an authority up to the colon before its port. -/
def hostPart (inBrackets : Bool) : List Char → List Char
  | [] => []
  | c :: rest =>
    if c = ':' ∧ !inBrackets then []
    else c :: hostPart (if c = '[' then true else if c = ']' then false else inBrackets) rest

/-- Checks what stands behind the host. -/
def checkPort (cs : List Char) : Except UrlError Unit :=
  match cs with
  | [] => .ok ()
  | _ :: digits =>
    if digits.all Text.Decimal.isDigit && Text.Decimal.value digits ≤ 65535 then .ok ()
    else .error .invalidPort

/-- Checks an authority. -/
def checkAuthority (authority : List Char) : Except UrlError Unit := do
  let reversed := authority.reverse.takeWhile (· != '@')
  let hostAndPort := reversed.reverse
  let host := hostPart false hostAndPort
  Host.check host
  checkPort (hostAndPort.drop host.length)

/-- Checks a location whose scheme and colon have been taken off. -/
def checkBehindScheme (cs : List Char) : Except UrlError Unit :=
  let rest := cs.dropWhile fun c => c == '/' || c == '\\'
  checkAuthority (rest.takeWhile fun c => !endsAuthority c)

/-- Checks a location. -/
def check (location : List Char) : Except UrlError Unit :=
  checkBehindScheme (((significant location).dropWhile (· != ':')).drop 1)

end Wiretap.Url
