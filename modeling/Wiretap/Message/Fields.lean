import Wiretap.Bytes

/-!
# Header fields

The fields of a message, by name.  Names are compared without regard to case and kept in lower
case.  A name stands at the place where it first appeared, and all its values stand together there,
in the order in which they were added.

Some fields speak about the connection they arrive on and not about the message.  They are not
passed on to the next connection.
-/

namespace Wiretap.Message

set_option autoImplicit false

/-- A name with its values in order. -/
structure FieldGroup where
  name : Bytes
  values : List Bytes
  deriving DecidableEq, Repr

/-- The fields of a message. -/
structure Fields where
  groups : List FieldGroup := []
  deriving DecidableEq, Repr

/-- Why something is no field. -/
inductive FieldError where
  | badName
  | badValue
  deriving DecidableEq, Repr

namespace Fields

/-- The longest name a field can have. -/
def nameLimit : Nat := 65535

/-- Whether the bytes are the name of a field. -/
def isName (b : Bytes) : Bool := !b.isEmpty && b.all Bytes.isToken && b.length ≤ nameLimit

/-- Whether the bytes are the value of a field. -/
def isValue (b : Bytes) : Bool := b.all Bytes.isFieldContent

def empty : Fields := {}

/-! ## Reading -/

/-- All fields as pairs: names in the order of their first appearance, the values of a name
together. -/
def toList (f : Fields) : List (Bytes × Bytes) :=
  f.groups.flatMap fun g => g.values.map fun v => (g.name, v)

/-- All values of a name. -/
def getAll (f : Fields) (name : Bytes) : List Bytes :=
  ((f.groups.find? fun g => g.name == name.fold).map (·.values)).getD []

/-- The first value of a name. -/
def get? (f : Fields) (name : Bytes) : Option Bytes := (f.getAll name).head?

/-- The first value of a name, if it can be read as text. -/
def text? (f : Fields) (name : Bytes) : Option Bytes :=
  (f.get? name).filter fun v => v.all Bytes.isVisible

/-! ## Changing -/

/-- Changes the values of a name in its place, or adds the name at the end. -/
def update (f : Fields) (name : Bytes) (change : List Bytes → List Bytes) : Fields :=
  let name := name.fold
  if f.groups.any fun g => g.name == name then
    ⟨f.groups.map fun g => if g.name == name then { g with values := change g.values } else g⟩
  else ⟨f.groups ++ [⟨name, change []⟩]⟩

/-- Adds a value behind the name's other values. -/
def append (f : Fields) (name value : Bytes) : Fields := f.update name (· ++ [value])

/-- Makes `value` the only value of the name. -/
def insert (f : Fields) (name value : Bytes) : Fields := f.update name fun _ => [value]

/-- The fields whose names satisfy the condition. -/
def keep (p : Bytes → Bool) (f : Fields) : Fields := ⟨f.groups.filter fun g => p g.name⟩

/-- Adds all fields of `g` behind those of `f`. -/
def appendAll (f g : Fields) : Fields := g.toList.foldl (fun f p => f.append p.1 p.2) f

/-- The fields of a list of pairs, added in order. -/
def ofList (pairs : List (Bytes × Bytes)) : Fields :=
  pairs.foldl (fun f p => f.append p.1 p.2) empty

/-- The fields of a list of pairs, if all names and values are well formed. -/
def ofPairs (pairs : List (Bytes × Bytes)) : Except FieldError Fields :=
  pairs.foldlM (fun f p =>
    if !isName p.1 then .error .badName
    else if !isValue p.2 then .error .badValue
    else .ok (f.append p.1 p.2)) empty

end Fields

/-! ## Fields of one hop -/

/-- The names of the fields that are not passed on. -/
def hopNames : List Bytes :=
  ["connection", "keep-alive", "proxy-authenticate", "proxy-authorization", "proxy-connection",
    "te", "trailer", "transfer-encoding", "upgrade"].map Bytes.ascii

/-- The fields that are passed on, in their order. -/
def endToEnd (f : Fields) : Fields := f.keep fun name => !hopNames.contains name

end Wiretap.Message
