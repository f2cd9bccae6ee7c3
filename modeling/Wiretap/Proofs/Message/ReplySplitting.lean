import Mathlib.Data.List.Nodup
import Wiretap.Proofs.Message.FieldChanges
import Wiretap.Proofs.Message.ReplyReading
import Wiretap.Proofs.Message.TakeoverPhase

/-!
# Replies cannot be split

Whoever reads a response looks for line ends, so what is written on its lines must hold none.  A head
that is written from lines of field content has carriage returns and line feeds in pairs only, an
empty line at its end and nowhere else, and comes apart into just these lines (`isHeadOf_lines`).

The replies of the proxy are such heads with a body behind them, whatever the body holds and whatever
fields they are given (`replies_split_as_written`).  The fields of a framed response state its type
and its length once, because what was stored under these names gives way (`statesText_framedLines`).
-/

namespace Wiretap.Message

set_option autoImplicit false

open Bytes (cr crlf lf)
open Fields (isName isValue valuesOf)
open Transport (ByteSink)

/-! ## Line ends in pairs -/

/-- Carriage returns and line feeds stand in pairs only. -/
structure LineEndsPaired (b : Bytes) : Prop where
  behind_cr : ∀ before behind, b = before ++ cr :: behind → behind.head? = some lf
  before_lf : ∀ before behind, b = before ++ lf :: behind → before.getLast? = some cr

theorem lf_not_mem_of_isValue {b : Bytes} (value : isValue b) : lf ∉ b := fun member => by
  cases List.all_eq_true.mp value lf member

theorem lineEndsPaired_of_isValue {b : Bytes} (value : isValue b) : LineEndsPaired b where
  behind_cr before _ split :=
    absurd (split ▸ List.mem_append_right before List.mem_cons_self) (cr_not_mem_of_isValue value)
  before_lf before _ split :=
    absurd (split ▸ List.mem_append_right before List.mem_cons_self) (lf_not_mem_of_isValue value)

theorem LineEndsPaired.append {a b : Bytes} (first : LineEndsPaired a) (second : LineEndsPaired b) :
    LineEndsPaired (a ++ b) where
  behind_cr before behind split := by
    rcases List.append_eq_append_iff.mp split with ⟨inner, _, within⟩ | ⟨inner, within, across⟩
    · exact second.behind_cr inner behind within
    · rcases List.cons_eq_append_iff.mp across with ⟨rfl, whole⟩ | ⟨more, rfl, rfl⟩
      · exact second.behind_cr [] behind whole
      · rw [List.head?_append, first.behind_cr before more within]
        rfl
  before_lf before behind split := by
    rcases List.append_eq_append_iff.mp split with ⟨inner, rfl, within⟩ | ⟨inner, within, across⟩
    · rw [List.getLast?_append, second.before_lf inner behind within]
      rfl
    · rcases List.cons_eq_append_iff.mp across with ⟨rfl, whole⟩ | ⟨more, rfl, rfl⟩
      · cases second.before_lf [] behind whole
      · exact first.before_lf before more within

theorem lineEndsPaired_crlf : LineEndsPaired crlf where
  behind_cr before behind split := by
    cases before with
    | nil =>
      cases split
      rfl
    | cons _ before =>
      cases before with
      | nil => cases split
      | cons => simp [crlf] at split
  before_lf before behind split := by
    cases before with
    | nil => cases split
    | cons _ before =>
      cases before with
      | nil =>
        cases split
        rfl
      | cons => simp [crlf] at split

/-! ## One empty line -/

/-- Nothing stands behind an empty line. -/
def EmptyLineEnds (b : Bytes) : Prop := ∀ behind, crlf ++ crlf ++ behind <:+ b → behind = []

theorem EmptyLineEnds.text {line rest : Bytes} (value : isValue line) (ends : EmptyLineEnds rest) :
    EmptyLineEnds (line ++ rest) := by
  induction line with
  | nil => exact ends
  | cons b line ih =>
    intro behind inside
    rcases List.suffix_cons_iff.mp inside with whole | further
    · have first : cr = b := (List.cons.inj whole).1
      exact absurd (first ▸ List.mem_cons_self) (cr_not_mem_of_isValue value)
    · exact ih (List.all_eq_true.mpr fun x member =>
        List.all_eq_true.mp value x (List.mem_cons_of_mem b member)) behind further

/-- A line end in front of a further line is not an empty line. -/
theorem EmptyLineEnds.lineEnd {rest : Bytes} (goesOn : rest.head? ≠ some cr)
    (ends : EmptyLineEnds rest) : EmptyLineEnds (crlf ++ rest) := by
  intro behind inside
  rcases List.suffix_cons_iff.mp inside with whole | inside
  · have again : crlf ++ behind = rest := (List.cons.inj (List.cons.inj whole).2).2
    exact absurd (again ▸ rfl) goesOn
  · rcases List.suffix_cons_iff.mp inside with whole | further
    · cases whole
    · exact ends behind further

theorem emptyLineEnds_crlf : EmptyLineEnds (crlf ++ crlf) := by
  intro behind inside
  have short := inside.length_le
  simp only [List.length_append] at short
  exact List.eq_nil_of_length_eq_zero (by omega)

/-! ## Heads made of lines -/

/-- A head that comes apart into the lines: line ends stand in pairs, an empty line stands at its end
and nowhere else, and between the line ends stand the lines. -/
structure IsHeadOf (lines : List Bytes) (b : Bytes) : Prop where
  paired : LineEndsPaired b
  ended : crlf ++ crlf <:+ b
  once : EmptyLineEnds b
  split : splitLines b = lines ++ [[], []]

/-- A response that comes apart into a head of the lines and a body, at its first empty line. -/
def SplitsInto (lines : List Bytes) (body b : Bytes) : Prop :=
  ∃ head, splitAtMark? (crlf ++ crlf) b = some (head, body) ∧
    IsHeadOf lines (head ++ (crlf ++ crlf)) ∧ b = head ++ (crlf ++ crlf) ++ body

/-- Something stands on the line, and lines can hold it. -/
def IsOneLine (line : Bytes) : Prop := line ≠ [] ∧ isValue line

theorem IsOneLine.isText {line : Bytes} (isLine : IsOneLine line) : IsText line :=
  ⟨isLine.1, cr_not_mem_of_isValue isLine.2⟩

theorem head?_of_isOneLine {line : Bytes} (isLine : IsOneLine line) (rest : Bytes) :
    (line ++ rest).head? ≠ some cr := by
  obtain ⟨b, more, rfl⟩ := List.exists_cons_of_ne_nil isLine.1
  rintro ⟨⟩
  exact cr_not_mem_of_isValue isLine.2 List.mem_cons_self

variable {lines : List Bytes}

theorem lineEndsPaired_lines (all : ∀ line ∈ lines, IsOneLine line) :
    LineEndsPaired (lines.flatMap (· ++ crlf)) := by
  induction lines with
  | nil => exact lineEndsPaired_of_isValue rfl
  | cons line lines ih =>
    obtain ⟨isLine, all⟩ := List.forall_mem_cons.mp all
    rw [List.flatMap_cons]
    exact ((lineEndsPaired_of_isValue isLine.2).append lineEndsPaired_crlf).append (ih all)

theorem emptyLineEnds_lines (some_lines : lines ≠ []) (all : ∀ line ∈ lines, IsOneLine line) :
    EmptyLineEnds (lines.flatMap (· ++ crlf) ++ crlf) := by
  induction lines with
  | nil => exact absurd rfl some_lines
  | cons line lines ih =>
    obtain ⟨isLine, all⟩ := List.forall_mem_cons.mp all
    rw [List.flatMap_cons, List.append_assoc, List.append_assoc]
    refine EmptyLineEnds.text isLine.2 ?_
    cases lines with
    | nil => exact emptyLineEnds_crlf
    | cons next lines =>
      refine EmptyLineEnds.lineEnd ?_ (ih (List.cons_ne_nil _ _) all)
      rw [List.flatMap_cons, List.append_assoc, List.append_assoc]
      exact head?_of_isOneLine (all next List.mem_cons_self) _

theorem splitLines_lines (all : ∀ line ∈ lines, IsOneLine line) :
    splitLines (lines.flatMap (· ++ crlf) ++ crlf) = lines ++ [[], []] := by
  induction lines with
  | nil => rfl
  | cons line lines ih =>
    obtain ⟨isLine, all⟩ := List.forall_mem_cons.mp all
    rw [List.flatMap_cons, List.append_assoc, List.append_assoc, splitLines_append isLine.isText.2,
      ih all]
    rfl

theorem intercalate_append (some_lines : lines ≠ []) :
    crlf.intercalate lines ++ crlf = lines.flatMap (· ++ crlf) := by
  induction lines with
  | nil => exact absurd rfl some_lines
  | cons line lines ih =>
    cases lines with
    | nil => simp
    | cons next lines =>
      rw [List.intercalate_cons_cons, List.append_assoc, ih (List.cons_ne_nil _ _)]
      rfl

/-- **A head that is written line by line comes apart into its lines.** -/
theorem isHeadOf_lines (some_lines : lines ≠ []) (all : ∀ line ∈ lines, IsOneLine line) :
    IsHeadOf lines (lines.flatMap (· ++ crlf) ++ crlf) where
  paired := (lineEndsPaired_lines all).append lineEndsPaired_crlf
  ended := by
    rw [← intercalate_append some_lines, List.append_assoc]
    exact List.suffix_append _ _
  once := emptyLineEnds_lines some_lines all
  split := splitLines_lines all

/-- **With a body behind it, it comes apart into its lines and the body**, whatever the body
holds. -/
theorem splitsInto_lines (some_lines : lines ≠ []) (all : ∀ line ∈ lines, IsOneLine line)
    (body : Bytes) : SplitsInto lines body (lines.flatMap (· ++ crlf) ++ crlf ++ body) := by
  have head : crlf.intercalate lines ++ (crlf ++ crlf) = lines.flatMap (· ++ crlf) ++ crlf := by
    rw [← List.append_assoc, intercalate_append some_lines]
  refine ⟨crlf.intercalate lines, ?_, ?_, ?_⟩
  · exact splitAtMark?_lines some_lines (fun line member => (all line member).isText) body
  · rw [head]
    exact isHeadOf_lines some_lines all
  · rw [head]

/-! ## The lines of a reply -/

theorem isValue_append {a b : Bytes} (first : isValue a) (second : isValue b) :
    isValue (a ++ b) := by
  rw [isValue, List.all_append, Bool.and_eq_true]
  exact ⟨first, second⟩

theorem isOneLine_fieldText {line : Bytes × Bytes} (isField : isName line.1 ∧ isValue line.2) :
    IsOneLine (fieldText line) :=
  ⟨(isText_fieldText isField).1, isValue_append
    (isValue_append (of_isName isField.1).2.1 (by decide)) isField.2⟩

theorem isOneLine_statusText (s : Status) : IsOneLine (statusText s) :=
  ⟨(isText_statusText s).1, isValue_append
    (isValue_append (isValue_append (by decide) (isValue_decimal _)) (by decide)) (isValue_phrase s)⟩

/-- The lines of a head: one with the status, and one for each field. -/
def replyLines (s : Status) (fields : List (Bytes × Bytes)) : List Bytes :=
  statusText s :: fields.map fieldText

theorem isOneLine_replyLines (s : Status) {fields : List (Bytes × Bytes)}
    (proper : AreFieldLines fields) : ∀ line ∈ replyLines s fields, IsOneLine line := by
  refine List.forall_mem_cons.mpr ⟨isOneLine_statusText s, fun line member => ?_⟩
  obtain ⟨field, inFields, rfl⟩ := List.mem_map.mp member
  exact isOneLine_fieldText (proper field inFields)

theorem flatMap_replyLines (s : Status) (fields : List (Bytes × Bytes)) :
    (replyLines s fields).flatMap (· ++ crlf) = Reply.statusLine s ++ fieldLines fields := by
  rw [replyLines, List.flatMap_cons, List.flatMap_map]
  rfl

theorem isHeadOf_reply (s : Status) {fields : List (Bytes × Bytes)} (proper : AreFieldLines fields) :
    IsHeadOf (replyLines s fields) (Reply.statusLine s ++ fieldLines fields ++ crlf) := by
  rw [← flatMap_replyLines]
  exact isHeadOf_lines (List.cons_ne_nil _ _) (isOneLine_replyLines s proper)

theorem splitsInto_reply (s : Status) {fields : List (Bytes × Bytes)}
    (proper : AreFieldLines fields) (body : Bytes) :
    SplitsInto (replyLines s fields) body
      (Reply.statusLine s ++ fieldLines fields ++ crlf ++ body) := by
  rw [← flatMap_replyLines]
  exact splitsInto_lines (List.cons_ne_nil _ _) (isOneLine_replyLines s proper) body

/-! ## Fields that stand at one place each -/

namespace Fields

/-- Fields as a map of them: names and values can stand on lines, and every name, in lower case,
stands at one place. -/
structure WellFormed (f : Fields) : Prop where
  proper : f.areFields
  distinct : (f.groups.map (·.name)).Nodup

variable {f : Fields} {name : Bytes} {change : List Bytes → List Bytes}

theorem WellFormed.keep (wellFormed : f.WellFormed) (p : Bytes → Bool) : (f.keep p).WellFormed where
  proper := areFields_keep wellFormed.proper p
  distinct := wellFormed.distinct.sublist (List.filter_sublist.map _)

theorem areFields_of_groups {f : Fields} (proper : ∀ g ∈ f.groups,
    isName g.name ∧ g.name.fold = g.name ∧ ∀ v ∈ g.values, isValue v) : f.areFields := by
  refine List.all_eq_true.mpr fun g member => ?_
  rw [Bool.and_eq_true, Bool.and_eq_true, beq_iff_eq, List.all_eq_true]
  obtain ⟨isNamed, folded, values⟩ := proper g member
  exact ⟨⟨isNamed, folded⟩, values⟩

theorem isToken_foldByte {b : UInt8} (token : Bytes.isToken b) :
    Bytes.isToken (Bytes.foldByte b) := by
  have every : ∀ n : Fin 256, Bytes.isToken ⟨⟨n⟩⟩ → Bytes.isToken (Bytes.foldByte ⟨⟨n⟩⟩) := by
    decide +kernel
  exact every b.toBitVec.toFin token

/-- A name is a name in lower case too. -/
theorem isName_fold (isNamed : isName name) : isName name.fold := by
  simp only [isName, Bool.and_eq_true, List.all_eq_true] at isNamed ⊢
  obtain ⟨⟨nonempty, tokens⟩, short⟩ := isNamed
  refine ⟨⟨by simpa [Bytes.fold] using nonempty, fun b member => ?_⟩,
    (Bytes.length_fold name).symm ▸ short⟩
  obtain ⟨b, inside, rfl⟩ := List.mem_map.mp member
  exact isToken_foldByte (tokens b inside)

/-- Changing a field leaves fields well formed, if its values stay such. -/
theorem WellFormed.update (wellFormed : f.WellFormed) (isNamed : isName name)
    (valued : ∀ values, (∀ v ∈ values, isValue v) → ∀ v ∈ change values, isValue v) :
    (f.update name change).WellFormed := by
  by_cases there : f.Names name
  · rw [update_of_names there]
    refine ⟨areFields_of_groups fun g member => ?_, ?_⟩
    · obtain ⟨old, inFields, rfl⟩ := List.mem_map.mp member
      obtain ⟨isNamed, folded, values⟩ := of_areFields wellFormed.proper inFields
      refine ⟨by rwa [FieldGroup.name_changed], by rwa [FieldGroup.name_changed], ?_⟩
      rw [FieldGroup.changed]
      split
      · exact valued old.values values
      · exact values
    · have same : (f.groups.map (·.changed name.fold change)).map (·.name) =
          f.groups.map (·.name) := by simp
      rw [same]
      exact wellFormed.distinct
  · rw [update_of_not_names there]
    refine ⟨areFields_of_groups fun g member => ?_, ?_⟩
    · obtain old | new := List.mem_append.mp member
      · exact of_areFields wellFormed.proper old
      · rw [List.mem_singleton] at new
        subst new
        exact ⟨isName_fold isNamed, Bytes.fold_fold name, valued [] nofun⟩
    · rw [List.map_append, List.map_singleton, ← List.concat_eq_append]
      exact wellFormed.distinct.concat there

/-- Setting a field leaves fields well formed. -/
theorem WellFormed.insert {value : Bytes} (wellFormed : f.WellFormed) (isNamed : isName name)
    (isValued : isValue value) : (f.insert name value).WellFormed :=
  wellFormed.update isNamed fun _ _ => List.forall_mem_singleton.mpr isValued

/-- Adding a field leaves fields well formed. -/
theorem WellFormed.append {value : Bytes} (wellFormed : f.WellFormed) (isNamed : isName name)
    (isValued : isValue value) : (f.append name value).WellFormed :=
  wellFormed.update isNamed fun _ values =>
    List.forall_mem_append.mpr ⟨values, List.forall_mem_singleton.mpr isValued⟩

theorem valuesOf_append (lines more : List (Bytes × Bytes)) (name : Bytes) :
    valuesOf (lines ++ more) name = valuesOf lines name ++ valuesOf more name := by
  rw [valuesOf, List.filter_append, List.map_append]
  rfl

theorem valuesOf_group (own : Bytes) (values : List Bytes) (name : Bytes) :
    valuesOf (values.map fun v => (own, v)) name = if own.fold = name then values else [] := by
  by_cases same : own.fold = name <;> simp [valuesOf, List.filter_map, same, Function.comp_def]

/-- In well-formed fields, the lines of a name hold the values of the name. -/
theorem valuesOf_toList (wellFormed : f.WellFormed) (folded : name.fold = name) :
    valuesOf f.toList name = f.getAll name := by
  obtain ⟨groups⟩ := f
  induction groups with
  | nil => rfl
  | cons g groups ih =>
    obtain ⟨proper, distinct⟩ := wellFormed
    obtain ⟨absent, distinct⟩ := List.nodup_cons.mp distinct
    have own := (of_areFields proper List.mem_cons_self).2.1
    have rest : (⟨groups⟩ : Fields).WellFormed :=
      ⟨areFields_of_groups fun g member => of_areFields proper (List.mem_cons_of_mem _ member),
        distinct⟩
    have split : (⟨g :: groups⟩ : Fields).toList =
        (g.values.map fun v => (g.name, v)) ++ (⟨groups⟩ : Fields).toList := rfl
    rw [split, valuesOf_append, valuesOf_group, own, ih rest]
    by_cases same : g.name = name
    · have others : (⟨groups⟩ : Fields).getAll name = [] :=
        getAll_of_not_names fun there => absent (by rwa [Names, folded, ← same] at there)
      rw [others]
      simp [getAll, same, folded]
    · simp [getAll, same, folded]

end Fields

/-! ## Replies -/

/-- The fields of a head that is written: those that are stored, but for the length and the
connection, and then these two. -/
def statedLines (fields : Fields) (length : Nat) : List (Bytes × Bytes) :=
  (fields.toList.filter fun line =>
      line.1 != Name.contentLength && line.1 != Name.connection) ++
    [(Bytes.ascii "Content-Length", Reply.decimal length),
      (Bytes.ascii "Connection", Bytes.ascii "close")]

/-- The fields of a line of text. -/
def textLines (body : Bytes) : List (Bytes × Bytes) :=
  [(Bytes.ascii "Content-Type", Bytes.ascii "text/plain"),
    (Bytes.ascii "Content-Length", Reply.decimal body.length)]

/-- The fields of a framed response: those of a head, with its type for any that is stored. -/
def framedLines (fields : Fields) (body : Bytes) : List (Bytes × Bytes) :=
  statedLines (fields.insert Name.contentType (Bytes.ascii "text/plain")) body.length

/-- The type and the length of a text are stated, each once. -/
structure StatesText (lines : List (Bytes × Bytes)) (body : Bytes) : Prop where
  type : valuesOf lines Name.contentType = [Bytes.ascii "text/plain"]
  length : valuesOf lines Name.contentLength = [Reply.decimal body.length]

theorem areFieldLines_textLines (body : Bytes) : AreFieldLines (textLines body) := by
  have type : isName (Bytes.ascii "Content-Type") ∧ isValue (Bytes.ascii "text/plain") := by decide
  have length : isName (Bytes.ascii "Content-Length") := by decide
  exact List.forall_mem_cons.mpr ⟨type, List.forall_mem_singleton.mpr ⟨length, isValue_decimal _⟩⟩

theorem statesText_textLines (body : Bytes) : StatesText (textLines body) body := ⟨rfl, rfl⟩

variable {fields : Fields}

theorem areFieldLines_statedLines (proper : fields.areFields) (length : Nat) :
    AreFieldLines (statedLines fields length) := by
  have name : isName (Bytes.ascii "Content-Length") := by decide
  have connection : isName (Bytes.ascii "Connection") ∧ isValue (Bytes.ascii "close") := by decide
  refine List.forall_mem_append.mpr ⟨fun line member => ?_,
    List.forall_mem_cons.mpr ⟨⟨name, isValue_decimal _⟩, List.forall_mem_singleton.mpr connection⟩⟩
  exact Fields.areFieldLines_toList proper line (List.mem_of_mem_filter member)

theorem keep_isKept (fields : Fields) : (fields.keep Reply.isKept).toList =
    fields.toList.filter fun line =>
      line.1 != Name.contentLength && line.1 != Name.connection := by
  rw [Fields.toList_keep]
  rfl

theorem head_eq_statedLines (s : Status) (fields : Fields) (length : Nat) :
    Reply.head s fields length =
      Reply.statusLine s ++ fieldLines (statedLines fields length) ++ crlf := by
  rw [Reply.head, keep_isKept]
  simp [statedLines, fieldLines]

theorem Fields.WellFormed.withType (wellFormed : fields.WellFormed) :
    (fields.insert Name.contentType (Bytes.ascii "text/plain")).WellFormed :=
  wellFormed.insert (by decide) (by decide)

/-- **A framed response states its type and its length once**, whatever was stored. -/
theorem statesText_framedLines (wellFormed : fields.WellFormed) (body : Bytes) :
    StatesText (framedLines fields body) body := by
  have kept := wellFormed.withType.keep Reply.isKept
  constructor
  · rw [framedLines, statedLines, ← keep_isKept, Fields.valuesOf_append,
      Fields.valuesOf_toList kept (by decide), Fields.getAll_keep (by decide), Fields.insert,
      Fields.getAll_update rfl]
    rfl
  · rw [framedLines, statedLines, ← keep_isKept, Fields.valuesOf_append,
      Fields.valuesOf_toList kept (by decide), Fields.getAll_keep_of_not (by decide)]
    rfl

/-- **Replies come apart as they were written.**  A head with any fields is one line with the status
and one for each field, the length and the connection stated anew, and nothing in it ends a line or
the head before its end.  A line of text and a framed response, whatever fields are stored for it,
come apart at their first empty line into such a head and just the text, whose type and length the
head states once. -/
theorem replies_split_as_written (wellFormed : fields.WellFormed) (s : Status) (length : Nat)
    (body : Bytes) :
    statusCode? (statusText s) = some s.code ∧
    IsHeadOf (replyLines s (statedLines fields length)) (Reply.head s fields length) ∧
    (SplitsInto (replyLines s (textLines body)) body (Reply.plainText s body) ∧
      StatesText (textLines body) body) ∧
    (∀ {σ : Type} [ByteSink σ] (t : Takeover σ), t.fields = fields → t.phase = .negotiating →
      t.respond s body = t.put (Reply.framed s fields body)) ∧
    SplitsInto (replyLines s (framedLines fields body)) body (Reply.framed s fields body) ∧
    StatesText (framedLines fields body) body := by
  refine ⟨statusCode?_statusText s, ?_, ⟨?_, statesText_textLines body⟩, ?_, ?_,
    statesText_framedLines wellFormed body⟩
  · rw [head_eq_statedLines]
    exact isHeadOf_reply s (areFieldLines_statedLines wellFormed.proper length)
  · have written : Reply.plainText s body =
        Reply.statusLine s ++ fieldLines (textLines body) ++ crlf ++ body := by
      simp [Reply.plainText, textLines, fieldLines]
    rw [written]
    exact splitsInto_reply s (areFieldLines_textLines body) body
  · rintro σ _ t rfl negotiating
    exact Takeover.respond_of_negotiating negotiating s body
  · have inserted := wellFormed.withType.proper
    rw [Reply.framed, head_eq_statedLines]
    exact splitsInto_reply s (areFieldLines_statedLines inserted body.length) body

/-- A text that looks like the rest of a head, and stored fields that the response states anew. -/
theorem replies_split_around_blank_lines :
    let fields : Fields := ⟨[⟨Name.contentLength, [Bytes.ascii "9"]⟩,
      ⟨Bytes.ascii "x-a", [Bytes.ascii "1", 0xe9 :: Bytes.ascii ": 2"]⟩,
      ⟨Name.contentType, [Bytes.ascii "text/html", Bytes.ascii "text/css"]⟩,
      ⟨Name.connection, [Bytes.ascii "keep-alive"]⟩]⟩
    let body : Bytes := Bytes.ascii "\r\n\r\nX: " ++ [0xc3, 0xa9] ++ Bytes.ascii "\n\r\n\r\n"
    fields.WellFormed ∧
      SplitsInto [Bytes.ascii "HTTP/1.1 400 Bad Request", Bytes.ascii "x-a: 1",
          Bytes.ascii "x-a: " ++ 0xe9 :: Bytes.ascii ": 2", Bytes.ascii "content-type: text/plain",
          Bytes.ascii "Content-Length: 14", Bytes.ascii "Connection: close"] body
        (Reply.framed .badRequest fields body) := by
  intro fields body
  have wellFormed : fields.WellFormed := ⟨by decide, by decide⟩
  obtain ⟨_, _, _, _, splits, _⟩ := replies_split_as_written wellFormed .badRequest 0 body
  have lines : replyLines .badRequest (framedLines fields body) =
      [Bytes.ascii "HTTP/1.1 400 Bad Request", Bytes.ascii "x-a: 1",
        Bytes.ascii "x-a: " ++ 0xe9 :: Bytes.ascii ": 2", Bytes.ascii "content-type: text/plain",
        Bytes.ascii "Content-Length: 14", Bytes.ascii "Connection: close"] := by decide +kernel
  rw [lines] at splits
  exact ⟨wellFormed, splits⟩

end Wiretap.Message
