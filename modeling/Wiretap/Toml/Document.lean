import Wiretap.Toml.Scalar
import Wiretap.Toml.Entries

/-!
# TOML documents

A document is a list of sections, each a header with the assignments below it; the assignments
before the first header form the root section.  Reading goes in two passes: the text is read into
sections, and the sections are put together into one table.  Arrays and braces may be nested, and
keys may be dotted, to a fixed depth.
-/

namespace Wiretap.Toml

set_option autoImplicit false

open Text (Reader)
open Entries (Assignment)

/-! ## Keys and values -/

/-- The greatest depth of nesting, and the greatest number of parts of a dotted key. -/
def depthLimit : Nat := 79

/-- A character of a key without quotes. -/
def isBareKeyChar (c : Char) : Bool :=
  ('a' ≤ c && c ≤ 'z') || ('A' ≤ c && c ≤ 'Z') || Text.Decimal.isDigit c || c == '-' || c == '_'

/-- One part of a key, with the blanks around it. -/
def keyPart : Reader String := do
  Scalar.blanks
  let cs ← Scalar.basicString <|> Scalar.literalString <|> Reader.takeWhile1 isBareKeyChar
  Scalar.blanks
  return String.ofList cs

/-- A dotted key, as the path before its last part and that part. -/
def dottedKey : Reader (List String × String) := do
  let parts ← Reader.separated1 (Reader.char '.') keyPart
  match parts.getLast? with
  | some last => if parts.length ≤ depthLimit then return (parts.dropLast, last) else failure
  | none => failure

/-- A key, the equals sign and the value. -/
def assignment (value : Reader Value) : Reader Assignment := do
  let (path, key) ← dottedKey
  Reader.char '='
  Scalar.blanks
  let v ← value
  return ⟨path, key, v⟩

/-- The items of an array, with line ends and comments between them and perhaps a comma behind the
last. -/
def arrayItems (value : Reader Value) : Reader (List Value) := do
  let item : Reader Value := do
    Scalar.gaps
    let v ← value
    Scalar.gaps
    return v
  let items ← Reader.separated (Reader.char ',') item
  unless items.isEmpty do
    let _ ← Reader.optional (Reader.char ',')
  Scalar.gaps
  return items

/-- The assignments between braces, all on one line and without a comma behind the last. -/
def bracedAssignments (value : Reader Value) : Reader (List Assignment) := do
  let one : Reader Assignment := do
    let a ← assignment value
    Scalar.blanks
    return a
  let all ← Reader.separated (Reader.char ',') one
  Scalar.blanks
  return all

/-- A value with at most `depth` levels of arrays and braces. -/
def value : (depth : Nat) → Reader Value
  | 0 => Scalar.value
  | depth + 1 =>
    (do
      Reader.char '['
      let items ← arrayItems (value depth)
      Reader.char ']'
      return .array items)
    <|> (do
      Reader.char '\x7b'
      let assignments ← bracedAssignments (value depth)
      Reader.char '\x7d'
      match Entries.assignAll assignments [] with
      | some entries => return .table (toValues entries)
      | none => failure)
    <|> Scalar.value

/-! ## Sections -/

/-- The header of a section. -/
inductive Header where
  | root
  | table (path : List String) (key : String)
  | repeated (path : List String) (key : String)

/-- A header with the assignments below it. -/
structure Section where
  header : Header
  assignments : List Assignment

/-- The header in brackets, with the rest of its line. -/
def header : Reader Header :=
  (do
    Reader.literal ['[', '[']
    let (path, key) ← dottedKey
    Reader.literal [']', ']']
    Scalar.lineEnd
    return .repeated path key)
  <|> (do
    Reader.char '['
    let (path, key) ← dottedKey
    Reader.char ']'
    Scalar.lineEnd
    return .table path key)

/-- A line without an assignment. -/
def emptyLine : Reader (List Assignment) := do
  Scalar.blanks
  Scalar.newline <|> (do Scalar.comment; Scalar.newline <|> Reader.endOfText)
  return []

/-- A line with an assignment. -/
def assignmentLine : Reader (List Assignment) := do
  Scalar.blanks
  let a ← assignment (value depthLimit)
  Scalar.lineEnd
  return [a]

/-- The assignments up to the next header. -/
def sectionBody : Reader (List Assignment) := do
  let lines ← Reader.many (emptyLine <|> assignmentLine)
  Scalar.blanks
  return lines.flatten

/-- A header and its section. -/
def headedSection : Reader Section := do
  let h ← header
  let body ← sectionBody
  return ⟨h, body⟩

/-- All sections, after an optional byte order mark. -/
def sections : Reader (List Section) := do
  let _ ← Reader.optional (Reader.char '\ufeff')
  let root ← sectionBody
  let headed ← Reader.many headedSection
  return ⟨.root, root⟩ :: headed

/-! ## Putting sections together -/

/-- Adds a section to the root table. -/
def addSection (root : Entries) (s : Section) : Option Entries :=
  match s.header with
  | .root => Entries.assignAll s.assignments root
  | .table path key =>
    Entries.updateAt false (fun _ es => Entries.giveTable key s.assignments es) path .given root
  | .repeated path key =>
    Entries.updateAt false (fun _ es => Entries.addTable key s.assignments es) path .given root

/-- The root table of a document, if the text is one. -/
def parse (text : String) : Option (List (String × Value)) := do
  let all ← Reader.all? sections text.toList
  let root ← all.foldlM addSection []
  return toValues root

end Wiretap.Toml
