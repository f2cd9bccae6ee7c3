/-!
# TOML values and tables under construction

A document assigns values to its keys.  A float is kept as a value without its number and a date
without its parts: no setting is one of these, so only their presence matters.

A document names its tables out of order: by headers, by dotted keys, and by being on the path of a
deeper table.  How a table came to be decides who may add to it.  A table given by its own header,
or in braces, is complete: neither a second header nor a dotted key may add to it.  A table only
passed through by headers may still get a header of its own, and a table made by dotted keys may
get more dotted keys.  No key is ever given twice.
-/

namespace Wiretap.Toml

set_option autoImplicit false

/-- A value of a document. -/
inductive Value where
  | string (s : String)
  | integer (n : Int)
  | float
  | boolean (b : Bool)
  | datetime
  | array (items : List Value)
  | table (entries : List (String × Value))

namespace Value

/-- The value of a key in a list of entries. -/
def entry? (entries : List (String × Value)) (key : String) : Option Value :=
  entries.lookup key

end Value

/-- How a table came to be. -/
inductive Origin where
  /-- By its own header, or in braces. -/
  | given
  /-- On the path of a header. -/
  | passed
  /-- By dotted keys. -/
  | dotted
  deriving DecidableEq

/-- What a key of a table under construction stands for. -/
inductive Node where
  | value (v : Value)
  | table (origin : Origin) (entries : List (String × Node))
  /-- The tables of one repeated header, the last one first. -/
  | tables (newestFirst : List (List (String × Node)))

/-- The entries of a table under construction, in order of appearance. -/
abbrev Entries := List (String × Node)

namespace Entries

/-- Puts `node` in the place of the key's old node, or at the end. -/
def put (entries : Entries) (key : String) (node : Node) : Entries :=
  if entries.any (·.1 == key) then entries.map fun e => if e.1 == key then (key, node) else e
  else entries ++ [(key, node)]

/-- Changes the table at the end of `path`, which is made along the way where it is missing: as
dotted tables for dotted keys, as passed ones for a header.  `change` is given the origin of the
table it changes. -/
def updateAt (byDots : Bool) (change : Origin → Entries → Option Entries) :
    List String → Origin → Entries → Option Entries
  | [], origin, entries => change origin entries
  | key :: path, _, entries =>
    let made : Origin := if byDots then .dotted else .passed
    match entries.lookup key with
    | none => do
      let inner ← updateAt byDots change path made []
      return entries.put key (.table made inner)
    | some (.value _) => none
    | some (.tables []) => none
    | some (.tables (last :: before)) => do
      let inner ← updateAt byDots change path .given last
      return entries.put key (.tables (inner :: before))
    | some (.table origin inner) =>
      if byDots ∧ origin = .given then none
      else do
        let inner ← updateAt byDots change path origin inner
        return entries.put key (.table origin inner)

/-- Adds a key that must be new. -/
def add (key : String) (v : Value) (entries : Entries) : Option Entries :=
  if (entries.lookup key).isSome then none else some (entries ++ [(key, .value v)])

/-- Adds a value under a dotted key.  The table it goes into must itself be one that dotted keys
made, unless it is the table the key is relative to. -/
def assign (path : List String) (key : String) (v : Value) (entries : Entries) : Option Entries :=
  updateAt true (fun origin inner =>
    if path ≠ [] ∧ origin ≠ .dotted then none else add key v inner) path .given entries

/-- A dotted key with its value. -/
structure Assignment where
  path : List String
  key : String
  value : Value

/-- Adds the values one after the other. -/
def assignAll (assignments : List Assignment) (entries : Entries) : Option Entries :=
  assignments.foldlM (fun es a => assign a.path a.key a.value es) entries

/-- Gives a header's table its values.  The table must be new or only passed through so far. -/
def giveTable (key : String) (assignments : List Assignment) (entries : Entries) :
    Option Entries :=
  match entries.lookup key with
  | none => do return entries.put key (.table .given (← assignAll assignments []))
  | some (.table .passed inner) => do
    return entries.put key (.table .given (← assignAll assignments inner))
  | some _ => none

/-- Adds one more table under a repeated header. -/
def addTable (key : String) (assignments : List Assignment) (entries : Entries) :
    Option Entries :=
  match entries.lookup key with
  | none => do return entries.put key (.tables [← assignAll assignments []])
  | some (.tables before) => do
    return entries.put key (.tables ((← assignAll assignments []) :: before))
  | some _ => none

end Entries

/-! ## Finished tables -/

mutual

/-- The value that a node stands for once the document is complete. -/
def Node.toValue : Node → Value
  | .value v => v
  | .table _ entries => .table (toValues entries)
  | .tables newestFirst => .array (tablesToValues newestFirst).reverse

/-- The values of the entries, in their order. -/
def toValues : List (String × Node) → List (String × Value)
  | [] => []
  | (key, node) :: rest => (key, node.toValue) :: toValues rest

/-- Each table of a repeated header as a value. -/
def tablesToValues : List (List (String × Node)) → List Value
  | [] => []
  | entries :: rest => .table (toValues entries) :: tablesToValues rest

end

end Wiretap.Toml
