/-!
# Readers

A reader takes a value off the front of a text and returns it with the rest, or refuses the text.
A reader that refuses leaves no trace, so a second one can be tried at the same place.  Repetition
stops at the first item that is refused or that takes nothing; the number of characters left bounds
the number of items.
-/

namespace Wiretap.Text

set_option autoImplicit false

/-- Reads a value off the front of a text. -/
abbrev Reader : Type → Type := StateT (List Char) Option

namespace Reader

variable {α : Type}

/-- The characters that have not been read. -/
def rest : Reader (List Char) := get

/-- Takes the next character if it is in the class. -/
def satisfy (p : Char → Bool) : Reader Char := fun
  | [] => none
  | c :: cs => if p c then some (c, cs) else none

/-- Takes the given character. -/
def char (c : Char) : Reader Unit := do
  let _ ← satisfy (· == c)

/-- Takes the given characters. -/
def literal (word : List Char) : Reader Unit := fun cs =>
  if word.isPrefixOf cs then some ((), cs.drop word.length) else none

/-- Takes the longest run of characters of the class, possibly empty. -/
def takeWhile (p : Char → Bool) : Reader (List Char) := fun cs =>
  some (cs.takeWhile p, cs.dropWhile p)

/-- Takes the longest run of characters of the class, which must not be empty. -/
def takeWhile1 (p : Char → Bool) : Reader (List Char) := do
  let run ← takeWhile p
  if run.isEmpty then failure else return run

/-- Takes exactly `n` characters of the class. -/
def exactly (n : Nat) (p : Char → Bool) : Reader (List Char) := fun cs =>
  let run := cs.take n
  if run.length = n ∧ run.all p then some (run, cs.drop n) else none

/-- Reads an item if there is one. -/
def optional (item : Reader α) : Reader (Option α) := fun cs =>
  match item cs with
  | some (a, rest) => some (some a, rest)
  | none => some (none, cs)

/-- Whether the text is used up. -/
def atEnd : Reader Bool := return (← rest).isEmpty

/-- Succeeds only where the text is used up. -/
def endOfText : Reader Unit := do
  if ← atEnd then return () else failure

/-- Items up to the first that is refused or takes nothing, at most `fuel`, behind the items
`before`, which stand in reverse. -/
def manyFrom (item : Reader α) : (fuel : Nat) → (before : List α) → Reader (List α)
  | 0, before => return before.reverse
  | fuel + 1, before => fun cs =>
    match item cs with
    | none => some (before.reverse, cs)
    | some (a, rest) =>
      if rest.length < cs.length then manyFrom item fuel (a :: before) rest
      else some (before.reverse, cs)

/-- As many items as there are. -/
def many (item : Reader α) : Reader (List α) := fun cs => manyFrom item cs.length [] cs

/-- One or more items with separators between them. -/
def separated1 (separator : Reader Unit) (item : Reader α) : Reader (List α) := do
  let first ← item
  let more ← many (do separator; item)
  return first :: more

/-- No items, or items with separators between them. -/
def separated (separator : Reader Unit) (item : Reader α) : Reader (List α) :=
  separated1 separator item <|> pure []

/-- Runs a reader that must use up the text. -/
def all? (reader : Reader α) (cs : List Char) : Option α :=
  match reader cs with
  | some (a, []) => some a
  | _ => none

end Reader

end Wiretap.Text
