import Mathlib.Data.List.Basic
import Wiretap.Proofs.Message.ReplyForm
import Wiretap.Text.Decimal

/-!
# Reading a response back

Anyone can read a response: what stands before the first empty line is its head, and the head is
lines, the first of which holds the status and the others a field each (`decode?`).  A response
that is relayed reads as the other host's, whatever fields that gave it, but for the fields of one
hop and for its length and the connection, which are stated anew and once
(`decode?_relayed`).
-/

namespace Wiretap.Message

set_option autoImplicit false

open Bytes (colon cr crlf lf space)
open Fields (isName isValue valuesOf)

/-! ## What a reader makes of a response -/

/-- What stands before the first mark, and behind it. -/
def splitAtMark? (mark : Bytes) : Bytes → Option (Bytes × Bytes)
  | [] => none
  | b :: rest =>
    if mark.isPrefixOf (b :: rest) then some ([], (b :: rest).drop mark.length)
    else (splitAtMark? mark rest).map fun (before, behind) => (b :: before, behind)

/-- The pieces between line ends. -/
def splitLines : Bytes → List Bytes
  | [] => [[]]
  | [b] => [[b]]
  | a :: b :: rest =>
    if a = cr ∧ b = lf then [] :: splitLines rest
    else (splitLines (b :: rest)).modifyHead (a :: ·)

/-- The code on the line with the status. -/
def statusCode? (line : Bytes) : Option Nat :=
  let version := Bytes.ascii "HTTP/1.1 "
  if version.isPrefixOf line then
    Text.Decimal.natural? (Bytes.toChars ((line.drop version.length).takeWhile (· != space)))
  else none

/-- The name on the line of a field, and behind a colon and a space its value. -/
def fieldOf? (line : Bytes) : Option (Bytes × Bytes) :=
  match Bytes.cutAt? colon line with
  | some (name, b :: value) => if b = space then some (name, value) else none
  | _ => none

/-- A response as it is read. -/
structure Decoded where
  code : Nat
  fields : List (Bytes × Bytes)
  body : Bytes
  deriving DecidableEq, Repr

/-- Reads a response. -/
def decode? (b : Bytes) : Option Decoded :=
  match splitAtMark? (crlf ++ crlf) b with
  | none => none
  | some (head, body) =>
    match splitLines head with
    | [] => none
    | status :: lines => do return ⟨← statusCode? status, ← lines.mapM fieldOf?, body⟩

/-! ## Lines -/

/-- Something stands on the line, and no line end within it. -/
def IsText (line : Bytes) : Prop := line ≠ [] ∧ cr ∉ line

theorem isPrefixOf_of_ne {mark rest : Bytes} {b : UInt8} (other : b ≠ cr) :
    (crlf ++ mark).isPrefixOf (b :: rest) = false := by
  simp [crlf, List.isPrefixOf, Ne.symm other]

/-- The bytes of a line are not part of a mark that begins with a line end. -/
theorem splitAtMark?_append {mark line rest before behind : Bytes} (clean : cr ∉ line)
    (found : splitAtMark? (crlf ++ mark) rest = some (before, behind)) :
    splitAtMark? (crlf ++ mark) (line ++ rest) = some (line ++ before, behind) := by
  induction line with
  | nil => exact found
  | cons b line ih =>
    obtain ⟨other, clean⟩ : cr ≠ b ∧ cr ∉ line := by simpa using clean
    rw [List.cons_append, splitAtMark?, isPrefixOf_of_ne other.symm, if_neg (by decide), ih clean]
    rfl

/-- A line end in front of a further line is not an empty line. -/
theorem splitAtMark?_lineEnd {rest before behind : Bytes} (goesOn : rest.head? ≠ some cr)
    (found : splitAtMark? (crlf ++ crlf) rest = some (before, behind)) :
    splitAtMark? (crlf ++ crlf) (crlf ++ rest) = some (crlf ++ before, behind) := by
  have first : (crlf ++ crlf).isPrefixOf (cr :: lf :: rest) = false := by
    cases rest with
    | nil => rfl
    | cons b rest =>
      have other : (cr == b) = false := beq_false_of_ne fun same => goesOn (congrArg some same.symm)
      simp [crlf, List.isPrefixOf, other]
  change splitAtMark? (crlf ++ crlf) (cr :: lf :: rest) = _
  rw [splitAtMark?, first, if_neg (by decide), splitAtMark?, isPrefixOf_of_ne (by decide),
    if_neg (by decide), found]
  rfl

/-- Lines are the head of what they begin, up to the first empty line. -/
theorem splitAtMark?_lines {lines : List Bytes} (some_lines : lines ≠ [])
    (texts : ∀ line ∈ lines, IsText line) (body : Bytes) :
    splitAtMark? (crlf ++ crlf) (lines.flatMap (· ++ crlf) ++ crlf ++ body) =
      some (crlf.intercalate lines, body) := by
  induction lines with
  | nil => exact absurd rfl some_lines
  | cons line lines ih =>
    obtain ⟨⟨_, clean⟩, texts⟩ := List.forall_mem_cons.mp texts
    cases lines with
    | nil =>
      have here : splitAtMark? (crlf ++ crlf) (crlf ++ crlf ++ body) = some ([], body) := rfl
      simpa using splitAtMark?_append clean here
    | cons next lines =>
      have inner := ih (List.cons_ne_nil _ _) texts
      have goesOn : ((next :: lines).flatMap (· ++ crlf) ++ crlf ++ body).head? ≠ some cr := by
        obtain ⟨⟨full, other⟩, _⟩ := List.forall_mem_cons.mp texts
        obtain ⟨b, more, rfl⟩ := List.exists_cons_of_ne_nil full
        rintro ⟨⟩
        exact other List.mem_cons_self
      have whole := splitAtMark?_append clean (splitAtMark?_lineEnd goesOn inner)
      rw [List.intercalate_cons_cons, List.flatMap_cons]
      simpa only [List.append_assoc] using whole

theorem splitLines_cons {b : UInt8} (other : b ≠ cr) (rest : Bytes) :
    splitLines (b :: rest) = (splitLines rest).modifyHead (b :: ·) := by
  cases rest with
  | nil => rfl
  | cons c rest => rw [splitLines, if_neg fun both => other both.1]

theorem splitLines_append {line : Bytes} (clean : cr ∉ line) (rest : Bytes) :
    splitLines (line ++ (crlf ++ rest)) = line :: splitLines rest := by
  induction line with
  | nil => rfl
  | cons b line ih =>
    obtain ⟨other, clean⟩ : cr ≠ b ∧ cr ∉ line := by simpa using clean
    rw [List.cons_append, splitLines_cons other.symm, ih clean]
    rfl

theorem splitLines_single {line : Bytes} (clean : cr ∉ line) : splitLines line = [line] := by
  induction line with
  | nil => rfl
  | cons b line ih =>
    obtain ⟨other, clean⟩ : cr ≠ b ∧ cr ∉ line := by simpa using clean
    rw [splitLines_cons other.symm, ih clean]
    rfl

theorem splitLines_intercalate {lines : List Bytes} (some_lines : lines ≠ [])
    (texts : ∀ line ∈ lines, IsText line) : splitLines (crlf.intercalate lines) = lines := by
  induction lines with
  | nil => exact absurd rfl some_lines
  | cons line lines ih =>
    obtain ⟨⟨_, clean⟩, texts⟩ := List.forall_mem_cons.mp texts
    cases lines with
    | nil => rw [List.intercalate_singleton, splitLines_single clean]
    | cons next lines =>
      rw [List.intercalate_cons_cons, List.append_assoc, splitLines_append clean,
        ih (List.cons_ne_nil _ _) texts]

/-- A head of lines, with a body behind it, is read line by line. -/
theorem decode?_lines {status : Bytes} {lines : List Bytes} (isText : IsText status)
    (texts : ∀ line ∈ lines, IsText line) (body : Bytes) :
    decode? ((status :: lines).flatMap (· ++ crlf) ++ crlf ++ body) =
      do return ⟨← statusCode? status, ← lines.mapM fieldOf?, body⟩ := by
  have all := List.forall_mem_cons.mpr ⟨isText, texts⟩
  rw [decode?, splitAtMark?_lines (List.cons_ne_nil _ _) all]
  dsimp only
  rw [splitLines_intercalate (List.cons_ne_nil _ _) all]

/-! ## The lines of a response -/

theorem cr_not_mem_of_isValue {b : Bytes} (value : isValue b) : cr ∉ b := fun member => by
  cases List.all_eq_true.mp value cr member

theorem isFieldContent_of_isToken {b : UInt8} (token : Bytes.isToken b) :
    Bytes.isFieldContent b ∧ b ≠ colon := by
  have every : ∀ n : Fin 256, Bytes.isToken ⟨⟨n⟩⟩ →
      Bytes.isFieldContent ⟨⟨n⟩⟩ ∧ (⟨⟨n⟩⟩ : UInt8) ≠ colon := by decide +kernel
  exact every b.toBitVec.toFin token

/-- A name is not empty, and holds no colon and no line end. -/
theorem of_isName {name : Bytes} (isNamed : isName name) :
    name ≠ [] ∧ isValue name ∧ ∀ b ∈ name, (b != colon) = true := by
  rw [isName, Bool.and_eq_true, Bool.and_eq_true, List.all_eq_true] at isNamed
  obtain ⟨⟨full, tokens⟩, _⟩ := isNamed
  refine ⟨fun empty => ?_, List.all_eq_true.mpr fun b member => ?_, fun b member => ?_⟩
  · rw [empty] at full
    cases full
  · exact (isFieldContent_of_isToken (tokens b member)).1
  · exact bne_iff_ne.mpr (isFieldContent_of_isToken (tokens b member)).2

/-- The line of a field without its end. -/
def fieldText (line : Bytes × Bytes) : Bytes := line.1 ++ [colon, space] ++ line.2

theorem isText_fieldText {line : Bytes × Bytes} (isField : isName line.1 ∧ isValue line.2) :
    IsText (fieldText line) := by
  obtain ⟨full, value, _⟩ := of_isName isField.1
  refine ⟨by simp [fieldText], ?_⟩
  simp only [fieldText, List.mem_append, not_or]
  exact ⟨⟨cr_not_mem_of_isValue value, by decide⟩, cr_not_mem_of_isValue isField.2⟩

/-- A field is read as it was written. -/
theorem fieldOf?_fieldText {line : Bytes × Bytes} (isNamed : isName line.1) :
    fieldOf? (fieldText line) = some line := by
  obtain ⟨_, _, name⟩ := of_isName isNamed
  have cut : Bytes.cutAt? colon (fieldText line) = some (line.1, space :: line.2) := by
    rw [Bytes.cutAt?, fieldText, List.append_assoc, List.dropWhile_append_of_pos name,
      List.takeWhile_append_of_pos name]
    simp
  rw [fieldOf?, cut]
  rfl

theorem mapM_fieldOf? {lines : List (Bytes × Bytes)} (fields : AreFieldLines lines) :
    (lines.map fieldText).mapM fieldOf? = some lines := by
  induction lines with
  | nil => rfl
  | cons line lines ih =>
    obtain ⟨⟨name, _⟩, fields⟩ := List.forall_mem_cons.mp fields
    rw [List.map_cons, List.mapM_cons, fieldOf?_fieldText name, ih fields]
    rfl

/-! ### The status -/

/-- The digits of a number are not spaces. -/
theorem ne_space_of_mem_decimal {n : Nat} {b : UInt8} (member : b ∈ Reply.decimal n) :
    (b != space) = true := by
  have other : ∀ k : Fin 58, 48 ≤ k.val → (k.val.toUInt8 != space) = true := by decide
  obtain ⟨k, low, rfl⟩ := mem_decimal member
  exact other k low

theorem toChars_decimal (n : Nat) : Bytes.toChars (Reply.decimal n) = Nat.toDigits 10 n := by
  rw [decimal_eq_map, Bytes.toChars, List.map_map]
  refine (List.map_congr_left fun c digit => ?_).trans (List.map_id _)
  have small : c.toNat < 256 := Nat.lt_of_le_of_lt (toNat_of_mem_toDigits digit).2 (by decide)
  have same : c.toNat.toUInt8.toNat = c.toNat := Nat.mod_eq_of_lt small
  rw [Function.comp_apply, same, Char.ofNat_toNat]
  rfl

/-- A number is read as it was written. -/
theorem natural?_decimal (n : Nat) :
    Text.Decimal.natural? (Bytes.toChars (Reply.decimal n)) = some n := by
  have value : Text.Decimal.value (Nat.toDigits 10 n) = n := by
    refine Eq.trans ?_ (Nat.ofDigitChars_toDigits (b := 10) (by decide) (by decide))
    rw [Text.Decimal.value, Nat.ofDigitChars]
    refine congrArg (fun f => List.foldl f 0 (Nat.toDigits 10 n))
      (funext fun m => funext fun c => ?_)
    rw [Nat.mul_comm, Text.Decimal.digitValue]
  have digits : (Nat.toDigits 10 n).all Text.Decimal.isDigit := List.all_eq_true.mpr fun c digit =>
    Nat.isDigit_of_mem_toDigits (by decide) (by decide) digit
  have full : (Nat.toDigits 10 n).isEmpty = false := by
    rw [List.isEmpty_eq_false_iff]
    exact Nat.toDigits_ne_nil
  rw [toChars_decimal, Text.Decimal.natural?, digits, full, value]
  rfl

/-- The line with the status without its end. -/
def statusText (s : Status) : Bytes :=
  Bytes.ascii "HTTP/1.1 " ++ Reply.decimal s.code ++ [space] ++ Bytes.ascii s.phrase

theorem isText_statusText (s : Status) : IsText (statusText s) := by
  refine ⟨by simp [statusText, Bytes.ascii], ?_⟩
  simp only [statusText, List.mem_append, not_or]
  exact ⟨⟨⟨by decide, cr_not_mem_of_isValue (isValue_decimal _)⟩, by decide⟩,
    cr_not_mem_of_isValue (isValue_phrase s)⟩

/-- A code of three digits is read as it was written. -/
theorem statusCode?_statusText (s : Status) : statusCode? (statusText s) = some s.code := by
  have version : (Bytes.ascii "HTTP/1.1 ").isPrefixOf (statusText s) := by
    rw [statusText, List.append_assoc, List.append_assoc]
    exact List.isPrefixOf_iff_prefix.mpr (List.prefix_append _ _)
  have rest : (statusText s).drop (Bytes.ascii "HTTP/1.1 ").length =
      Reply.decimal s.code ++ ([space] ++ Bytes.ascii s.phrase) := by
    rw [statusText, List.append_assoc, List.append_assoc, List.drop_left]
  rw [statusCode?, if_pos version, rest,
    List.takeWhile_append_of_pos fun _ => ne_space_of_mem_decimal]
  simpa using natural?_decimal s.code

/-- **A response is read as it was written.** -/
theorem decode?_response (s : Status) {lines : List (Bytes × Bytes)} (fields : AreFieldLines lines)
    (body : Bytes) :
    decode? (Reply.statusLine s ++ fieldLines lines ++ crlf ++ body) =
      some ⟨s.code, lines, body⟩ := by
  have status : Reply.statusLine s = statusText s ++ crlf := rfl
  have text : fieldLines lines = (lines.map fieldText).flatMap (· ++ crlf) := by
    rw [fieldLines, List.flatMap_map]
    rfl
  have texts : ∀ line ∈ lines.map fieldText, IsText line := by
    intro line member
    obtain ⟨field, inLines, rfl⟩ := List.mem_map.mp member
    exact isText_fieldText (fields field inLines)
  have whole : statusText s ++ crlf ++ (lines.map fieldText).flatMap (· ++ crlf) =
      (statusText s :: lines.map fieldText).flatMap (· ++ crlf) := rfl
  rw [status, text, whole, decode?_lines (isText_statusText s) texts, statusCode?_statusText,
    mapM_fieldOf? fields]
  rfl

/-- An answer of the proxy itself is read as one with its status. -/
theorem code_decode?_plainText (s : Status) (body : Bytes) :
    (decode? (Reply.plainText s body)).map (·.code) = some s.code := by
  have type : isName (Bytes.ascii "Content-Type") ∧ isValue (Bytes.ascii "text/plain") := by decide
  have length : isName (Bytes.ascii "Content-Length") := by decide
  have fields : AreFieldLines [(Bytes.ascii "Content-Type", Bytes.ascii "text/plain"),
      (Bytes.ascii "Content-Length", Reply.decimal body.length)] :=
    List.forall_mem_cons.mpr ⟨type, List.forall_mem_singleton.mpr ⟨length, isValue_decimal _⟩⟩
  have written : Reply.plainText s body = Reply.statusLine s ++ fieldLines
      [(Bytes.ascii "Content-Type", Bytes.ascii "text/plain"),
        (Bytes.ascii "Content-Length", Reply.decimal body.length)] ++ crlf ++ body := by
    simp [Reply.plainText, fieldLines]
  rw [written, decode?_response s fields body]
  rfl

/-! ## Relayed responses -/

/-- The lines that a response with some fields is passed back with: those of the fields that are not
about one hop or the length, then the length and the connection. -/
def relayedLines (fields : Fields) (length : Nat) : List (Bytes × Bytes) :=
  (fields.toList.filter fun line => line.1 ∉ Name.contentLength :: hopNames) ++
    [(Bytes.ascii "Content-Length", Reply.decimal length),
      (Bytes.ascii "Connection", Bytes.ascii "close")]

variable {fields : Fields}

theorem areFieldLines_relayed (proper : fields.areFields) (length : Nat) :
    AreFieldLines (relayedLines fields length) := by
  have name : isName (Bytes.ascii "Content-Length") := by decide
  have connection : isName (Bytes.ascii "Connection") ∧ isValue (Bytes.ascii "close") := by decide
  refine List.forall_mem_append.mpr ⟨fun line member => ?_,
    List.forall_mem_cons.mpr ⟨⟨name, isValue_decimal _⟩, List.forall_mem_singleton.mpr connection⟩⟩
  exact Fields.areFieldLines_toList proper line (List.mem_of_mem_filter member)

/-- The fields that the head is written from are those that are passed on and kept. -/
theorem toList_keep_endToEnd (fields : Fields) :
    ((endToEnd fields).keep Reply.isKept).toList =
      fields.toList.filter fun line => line.1 ∉ Name.contentLength :: hopNames := by
  have hop : Name.connection ∈ hopNames := by decide
  rw [Fields.toList_keep, endToEnd, Fields.toList_keep, List.filter_filter]
  refine congrArg (List.filter · fields.toList) (funext fun line => ?_)
  rw [Bool.eq_iff_iff]
  simp only [Reply.isKept, Bool.and_eq_true, bne_iff_ne, Bool.not_eq_true',
    List.contains_eq_mem, decide_eq_false_iff_not, decide_eq_true_eq, List.mem_cons, not_or]
  exact ⟨fun ⟨⟨length, _⟩, other⟩ => ⟨length, other⟩, fun ⟨length, other⟩ =>
    ⟨⟨length, fun same => other (same ▸ hop)⟩, other⟩⟩

/-- **A response that is relayed is read as the other host's**, but for the fields of one hop and
the length and the connection. -/
theorem decode?_relayed (proper : fields.areFields) (s : Status) (body : Bytes) :
    decode? (Reply.head s (endToEnd fields) body.length ++ body) =
      some ⟨s.code, relayedLines fields body.length, body⟩ := by
  have written : Reply.head s (endToEnd fields) body.length ++ body =
      Reply.statusLine s ++ fieldLines (relayedLines fields body.length) ++ crlf ++ body := by
    rw [Reply.head, toList_keep_endToEnd]
    simp [relayedLines, fieldLines]
  rw [written]
  exact decode?_response s (areFieldLines_relayed proper _) body

/-- The values under a name that is not passed on are those that are stated anew. -/
theorem valuesOf_relayedLines (proper : fields.areFields) (length : Nat) {name : Bytes}
    (dropped : name ∈ Name.contentLength :: hopNames) :
    valuesOf (relayedLines fields length) name =
      valuesOf [(Bytes.ascii "Content-Length", Reply.decimal length),
        (Bytes.ascii "Connection", Bytes.ascii "close")] name := by
  have none : valuesOf (fields.toList.filter fun line => line.1 ∉ Name.contentLength :: hopNames)
      name = [] := by
    rw [← Fields.toList_keep fields fun name => decide (name ∉ Name.contentLength :: hopNames)]
    exact Fields.valuesOf_keep proper (decide_eq_false (not_not_intro dropped))
  rw [relayedLines, valuesOf, List.filter_append, List.map_append]
  exact congrArg (· ++ _) none

end Wiretap.Message
