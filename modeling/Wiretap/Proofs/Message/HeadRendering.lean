import Mathlib.Data.List.Basic
import Mathlib.Tactic.Common
import Wiretap.Proofs.Message.FieldGroups
import Wiretap.Proofs.Message.HeadFraming
import Wiretap.Proofs.Message.Routing

/-!
# Written heads are read back

A head is written as a request line, a line for each field, and an empty line, every line with the
same line end.  A part of a head that is written can be read back whatever stands behind it
(`Takes`), because each part ends with a byte that it cannot hold; so the parts of a whole head are
read back one behind the other (`takes_head`).

What is read of a well-formed head is what was written (`parse_render`): its method and target, and
its fields grouped by name, with the values of a name in their order.  How the lines end makes no
difference to anything but the bytes that are kept.
-/

namespace Wiretap.Message

set_option autoImplicit false

open Bytes (lf cr)

namespace HeadSyntax

/-! ## Writing a head -/

/-- The written form of a version. -/
def Version.bytes : Version → Bytes
  | .one_zero => versionStem ++ [0x30]
  | .one_one => versionStem ++ [0x31]

/-- A field line: the name, a colon and a blank, the value, and the line end. -/
def renderField (ending : Bytes) (field : Bytes × Bytes) : Bytes :=
  field.1 ++ [Bytes.colon] ++ ([Bytes.space] ++ field.2 ++ ending)

/-- A head whose lines all end alike. -/
def render (ending : Bytes) (parts : Parts) : Bytes :=
  parts.method ++ [Bytes.space] ++ (parts.target ++ [Bytes.space] ++ (parts.version.bytes ++
    (ending ++ (parts.lines.flatMap (renderField ending) ++ ending))))

/-- A field that can be written: its name is a token, and its value has no blank at either end. -/
structure Writable (field : Bytes × Bytes) : Prop where
  name_ne_nil : field.1 ≠ []
  name : field.1.all Bytes.isToken
  value : field.2.all Bytes.isFieldContent
  first : ∀ b ∈ field.2.head?, Bytes.isBlank b = false
  last : ∀ b ∈ field.2.getLast?, Bytes.isBlank b = false

/-- Parts that can be written as a head: the method is a token, the target is a text without blanks
and controls, and there are not too many fields. -/
structure Parts.WellFormed (parts : Parts) : Prop where
  method_ne_nil : parts.method ≠ []
  method : parts.method.all Bytes.isToken
  target_ne_nil : parts.target ≠ []
  target : parts.target.all isTargetByte
  target_text : Text.Utf8.isValid parts.target
  lines_le : parts.lines.length ≤ lineLimit
  lines : ∀ field ∈ parts.lines, Writable field

/-! ## Scanners that read a text back -/

/-- A scanner takes a text: it reads the value off it and stops behind it, whatever follows. -/
def Takes {α : Type} (p : Scan α) (text : Bytes) (a : α) : Prop :=
  ∀ rest, p (text ++ rest) = .ok (a, rest)

section

variable {α β : Type} {p : Scan α} {text more : Bytes} {a : α} {b : β}

theorem takes_pure (a : α) : Takes (pure a) [] a := fun _ => rfl

theorem Takes.bind {next : α → Scan β} (first : Takes p text a) (second : Takes (next a) more b) :
    Takes (p >>= next) (text ++ more) b := by
  intro rest
  rw [List.append_assoc]
  change (p (text ++ (more ++ rest)) >>= fun x => next x.1 x.2) = _
  rw [first]
  exact second rest

/-- Behind the last byte only the value is made. -/
theorem Takes.map (first : Takes p text a) (f : α → β) :
    Takes (p >>= fun x => pure (f x)) text (f a) := by
  have whole : Takes (p >>= fun x => pure (f x)) (text ++ []) (f a) := first.bind (takes_pure _)
  rwa [List.append_nil] at whole

/-- A check that is passed. -/
theorem Takes.check {c : Prop} [Decidable c] {f : Fault} {next : Unit → Scan α} (passed : ¬ c)
    (taken : Takes (next ()) text a) : Takes (if c then stop f >>= next else next ()) text a := by
  rw [if_neg passed]
  exact taken

theorem takes_next (b : UInt8) : Takes next [b] b := fun _ => rfl

theorem takes_expect (b : UInt8) (f : Fault) : Takes (expect b f) [b] () :=
  (takes_next b).bind (Takes.check (by simp) (takes_pure ()))

/-- A run ends in front of a byte that is not in its class. -/
theorem takes_run {inClass : UInt8 → Bool} {taken : Bytes} {mark : UInt8} {next : Bytes → Scan β}
    (inside : taken.all inClass) (ends : inClass mark = false)
    (onward : Takes (next taken) (mark :: more) b) :
    Takes (run inClass >>= next) (taken ++ mark :: more) b := by
  intro rest
  have cut : run inClass (taken ++ mark :: more ++ rest) = .ok (taken, mark :: more ++ rest) := by
    have within := List.all_eq_true.mp inside
    rw [run, List.append_assoc, List.cons_append, List.takeWhile_append_of_pos within,
      List.dropWhile_append_of_pos within, List.takeWhile_cons_of_neg (by simp [ends]),
      List.dropWhile_cons_of_neg (by simp [ends]), List.append_nil]
  change (run inClass (taken ++ mark :: more ++ rest) >>= fun x => next x.1 x.2) = _
  rw [cut]
  exact onward rest

end

/-! ## The parts of a head -/

variable {ending : Bytes}

theorem takes_method {method' : Bytes} (some_bytes : method' ≠ [])
    (tokens : method'.all Bytes.isToken) : Takes method (method' ++ [Bytes.space]) method' := by
  obtain ⟨first, more, rfl⟩ := List.exists_cons_of_ne_nil some_bytes
  obtain ⟨token, tokens⟩ := Bool.and_eq_true_iff.mp tokens
  refine (takes_next first).bind (Takes.check (by simp [token]) ?_)
  exact takes_run tokens (by decide) ((takes_expect _ _).map _)

theorem takes_target {target' : Bytes} (some_bytes : target' ≠ [])
    (inside : target'.all isTargetByte) (text : Text.Utf8.isValid target') :
    Takes target (target' ++ [Bytes.space]) target' := by
  refine takes_run inside (by decide) ?_
  refine (takes_expect Bytes.space .token).bind (Takes.check ?_ (takes_pure target'))
  simp [some_bytes, text]

theorem takes_version (v : Version) : Takes version v.bytes v := by
  intro rest
  have enough : 8 ≤ (v.bytes ++ rest).length := by
    have eight : v.bytes.length = 8 := by cases v <;> rfl
    rw [List.length_append, eight]
    exact Nat.le_add_right _ _
  have begins : (v.bytes ++ rest).take 8 = v.bytes := List.take_left' (by cases v <;> rfl)
  have behind : (v.bytes ++ rest).drop 8 = rest := List.drop_left' (by cases v <;> rfl)
  rw [version, if_pos enough, begins, behind]
  cases v <;> rfl

theorem takes_lineEnd (isEnding : IsEmptyLine ending) (f : Fault) :
    Takes (lineEnd f) ending () := by
  intro rest
  rcases isEnding with rfl | rfl <;> rfl

theorem takes_lineEnd? (isEnding : IsEmptyLine ending) : Takes lineEnd? ending true := by
  intro rest
  rcases isEnding with rfl | rfl <;> rfl

/-- The first byte of a line end is in no class of bytes that a line is made of. -/
theorem exists_ending_cons (isEnding : IsEmptyLine ending) :
    ∃ mark more, ending = mark :: more ∧ Bytes.isBlank mark = false ∧ isValueByte mark = false := by
  rcases isEnding with rfl | rfl
  · exact ⟨lf, [], rfl, by decide, by decide⟩
  · exact ⟨cr, [lf], rfl, by decide, by decide⟩

theorem trimBlankEnd_eq_self {value : Bytes}
    (last : ∀ b ∈ value.getLast?, Bytes.isBlank b = false) : Bytes.trimBlankEnd value = value := by
  cases reversed : value.reverse with
  | nil => rw [List.reverse_eq_nil_iff.mp reversed]; rfl
  | cons b more =>
    have notBlank : Bytes.isBlank b = false := by
      apply last
      rw [← List.head?_reverse, reversed]
      rfl
    rw [Bytes.trimBlankEnd, reversed, List.dropWhile_cons_of_neg (by simp [notBlank]), ← reversed,
      List.reverse_reverse]

theorem takes_fieldName {name : Bytes} (some_bytes : name ≠ []) (tokens : name.all Bytes.isToken) :
    Takes fieldName (name ++ [Bytes.colon]) name := by
  obtain ⟨first, more, rfl⟩ := List.exists_cons_of_ne_nil some_bytes
  obtain ⟨token, tokens⟩ := Bool.and_eq_true_iff.mp tokens
  refine (takes_next first).bind (Takes.check (by simp [token]) ?_)
  exact takes_run tokens (by decide) ((takes_expect _ _).map _)

/-- The blank behind the colon is skipped; the value ends at the line end. -/
theorem takes_fieldValue (isEnding : IsEmptyLine ending) {value : Bytes}
    (content : value.all Bytes.isFieldContent)
    (first : ∀ b ∈ value.head?, Bytes.isBlank b = false)
    (last : ∀ b ∈ value.getLast?, Bytes.isBlank b = false) :
    Takes fieldValue ([Bytes.space] ++ value ++ ending) value := by
  obtain ⟨mark, more, split, notBlank, notValue⟩ := exists_ending_cons isEnding
  have ended : Takes (do lineEnd .fieldValue; return Bytes.trimBlankEnd value) (mark :: more)
      value := by
    have trimmed := (takes_lineEnd isEnding .fieldValue).map fun _ => Bytes.trimBlankEnd value
    rw [split] at trimmed
    intro rest
    rw [trimmed, trimBlankEnd_eq_self last]
  have taken : Takes (do
      let value ← run isValueByte
      lineEnd .fieldValue
      return Bytes.trimBlankEnd value) (value ++ mark :: more) value :=
    takes_run content notValue ended
  rw [split, List.append_assoc]
  cases value with
  | nil => exact takes_run rfl notBlank taken
  | cons b value => exact takes_run rfl (first b rfl) taken

theorem takes_fieldLine (isEnding : IsEmptyLine ending) {field : Bytes × Bytes}
    (writable : Writable field) : Takes fieldLine (renderField ending field) field := by
  obtain ⟨some_bytes, tokens, content, first, last⟩ := writable
  refine (takes_fieldName some_bytes tokens).bind ?_
  exact (takes_fieldValue isEnding content first last).map _

/-- A token is not taken for a line end. -/
theorem lineEnd?_of_token {b : UInt8} (token : Bytes.isToken b) (text : Bytes) :
    lineEnd? (b :: text) = .ok (false, b :: text) := by
  refine lineEnd?_of_other ?_ ?_ text
  · rintro rfl
    exact absurd token (by decide)
  · rintro rfl
    exact absurd token (by decide)

theorem lineEnd?_of_writable {field : Bytes × Bytes} (writable : Writable field) (rest : Bytes) :
    lineEnd? (renderField ending field ++ rest) = .ok (false, renderField ending field ++ rest) := by
  obtain ⟨b, more, split⟩ := List.exists_cons_of_ne_nil writable.name_ne_nil
  have token : Bytes.isToken b := List.all_eq_true.mp writable.name b (by simp [split])
  rw [renderField, split]
  exact lineEnd?_of_token token _

/-- Looking for a line end where there is none takes nothing. -/
theorem takes_of_peek {β : Type} {next : Bool → Scan β} {text : Bytes} {b : β}
    (none : ∀ rest, lineEnd? (text ++ rest) = .ok (false, text ++ rest))
    (onward : Takes (next false) text b) : Takes (lineEnd? >>= next) text b := by
  intro rest
  change (lineEnd? (text ++ rest) >>= fun x => next x.1 x.2) = _
  rw [none]
  exact onward rest

/-- Field lines are taken up to the empty line behind them, which ends the head whether there is room
for more lines or not. -/
theorem takes_fieldLines (isEnding : IsEmptyLine ending) {lines : List (Bytes × Bytes)} {room : Nat}
    (enough : lines.length ≤ room) (writable : ∀ field ∈ lines, Writable field) :
    Takes (fieldLines room) (lines.flatMap (renderField ending) ++ ending) lines := by
  induction lines generalizing room with
  | nil =>
    have ended (further : Scan (List (Bytes × Bytes))) :
        Takes (do if ← lineEnd? then pure [] else further) ending [] := by
      intro rest
      change (lineEnd? (ending ++ rest) >>= fun x =>
        (if x.1 = true then pure [] else further : Scan _) x.2) = _
      rw [takes_lineEnd? isEnding rest]
      rfl
    cases room with
    | zero => exact ended _
    | succ room => exact ended _
  | cons field lines ih =>
    obtain ⟨here, others⟩ := List.forall_mem_cons.mp writable
    cases room with
    | zero => exact absurd enough (by simp)
    | succ room =>
      have onward : Takes (do
          let field ← fieldLine
          return field :: (← fieldLines room))
          (renderField ending field ++ (lines.flatMap (renderField ending) ++ ending))
          (field :: lines) :=
        (takes_fieldLine isEnding here).bind
          ((ih (Nat.le_of_succ_le_succ enough) others).map _)
      rw [List.flatMap_cons, List.append_assoc]
      refine takes_of_peek (fun rest => ?_) onward
      rw [List.append_assoc]
      exact lineEnd?_of_writable here _

/-- Nothing is skipped in front of a token. -/
theorem skipAll_of_token {b : UInt8} (token : Bytes.isToken b) (text : Bytes) :
    skipAll (b :: text) = .ok ((), b :: text) := by
  change (lineEnd? (b :: text) >>= fun x =>
    (if x.1 = true then skipEmptyLines text.length else pure () : Scan Unit) x.2) = _
  rw [lineEnd?_of_token token]
  rfl

/-- The parts of a head are read back off what is written of them, and nothing behind it is read. -/
theorem takes_head (isEnding : IsEmptyLine ending) {parts : Parts} (wellFormed : parts.WellFormed) :
    Takes head (render ending parts) parts := by
  have onward : Takes (do
      let method ← method
      let target ← target
      let version ← version
      lineEnd .newLine
      let lines ← fieldLines lineLimit
      return ⟨method, target, version, lines⟩) (render ending parts) parts := by
    refine (takes_method wellFormed.method_ne_nil wellFormed.method).bind ?_
    refine (takes_target wellFormed.target_ne_nil wellFormed.target wellFormed.target_text).bind ?_
    refine (takes_version parts.version).bind ((takes_lineEnd isEnding .newLine).bind ?_)
    exact (takes_fieldLines isEnding wellFormed.lines_le wellFormed.lines).map
      fun lines => (⟨parts.method, parts.target, parts.version, lines⟩ : Parts)
  intro rest
  obtain ⟨b, more, split⟩ := List.exists_cons_of_ne_nil wellFormed.method_ne_nil
  have token : Bytes.isToken b := List.all_eq_true.mp wellFormed.method b (by simp [split])
  obtain ⟨text, begins⟩ : ∃ text, render ending parts ++ rest = b :: text := by
    rw [render, split]
    exact ⟨_, rfl⟩
  rw [head_eq]
  change (skipAll (render ending parts ++ rest) >>= fun x => _) = _
  rw [begins, skipAll_of_token token, ← begins]
  exact onward rest

/-! ## The fields and the host -/

/-- The first line of a name. -/
def Parts.line? (parts : Parts) (name : Bytes) : Option (Bytes × Bytes) :=
  parts.lines.find? fun line => line.1.fold == name.fold

/-- A host can be read off the parts: they ask for a tunnel, or the target names its authority, or
the first host field can be read as text. -/
def Parts.Addressed (parts : Parts) : Prop :=
  parts.method = tunnelMethod ∨
  (∃ uri, Uri.parse parts.target = .ok uri ∧ uri.authority ≠ []) ∨
  ∃ line, parts.line? Name.host = some line ∧ line.2.all Bytes.isVisible

/-- What is written of a line is a part of what is written of the head. -/
theorem length_name_lt {parts : Parts} {field : Bytes × Bytes} (member : field ∈ parts.lines) :
    field.1.length < (render ending parts).length := by
  have inside : renderField ending field <:+: parts.lines.flatMap (renderField ending) :=
    List.infix_of_mem_flatten (List.mem_map_of_mem member)
  have bound := inside.length_le
  simp only [renderField, render, List.length_append, List.length_singleton] at bound ⊢
  omega

/-- The fields of a head that is small enough can be kept as fields. -/
theorem isField_of_writable {parts : Parts} (wellFormed : parts.WellFormed)
    (fits : (render ending parts).length ≤ headLimit) : ∀ line ∈ parts.lines, IsField line := by
  intro line member
  obtain ⟨some_bytes, tokens, content, _, _⟩ := wellFormed.lines line member
  have short : line.1.length ≤ Fields.nameLimit :=
    Nat.le_of_lt_succ ((length_name_lt member).trans_le fits)
  exact ⟨by simp [Fields.isName, some_bytes, tokens, short], content⟩

end HeadSyntax

namespace RequestHead

open HeadSyntax (Parts Version render IsField)

theorem ofTarget?_of_authority {target : Bytes} {uri : Uri} (parsed : Uri.parse target = .ok uri)
    (named : uri.authority ≠ []) :
    ofTarget? target = some (uri.authority, uri.pathAndQuery?.getD []) := by
  have notPath : target.head? ≠ some Bytes.slash := by
    intro begins
    obtain ⟨rest, rfl⟩ := List.head?_eq_some_iff.mp begins
    exact named (Uri.authority_of_path parsed)
  rw [ofTarget?, if_neg notPath, parsed]
  simp [named]

theorem resolve_of_addressed {parts : Parts} (addressed : parts.Addressed) :
    ∃ host path, resolve parts.method parts.target (Fields.grouped parts.lines) =
      .ok (host, path) := by
  rw [resolve]
  split
  · exact ⟨_, _, rfl⟩
  · next request =>
    rcases addressed with tunnel | ⟨uri, parsed, named⟩ | ⟨line, found, visible⟩
    · exact absurd tunnel request
    · exact ⟨_, _, by rw [ofTarget?_of_authority parsed named]⟩
    · have host : (Fields.grouped parts.lines).text? Name.host = some line.2 := by
        rw [Fields.text?, Fields.get?_grouped]
        change ((parts.line? Name.host).map (·.2)).filter _ = _
        rw [found]
        simp [visible]
      rw [host]
      split
      · exact ⟨_, _, rfl⟩
      · exact ⟨_, _, rfl⟩

/-- **What is written as a head is read back as it was written**: its method and its target, and its
fields by name, in the order in which the names first appear and each with its values in their
order.  Where the lines end in a line feed alone, only the bytes that are kept differ. -/
theorem parse_render {parts : Parts} (wellFormed : parts.WellFormed)
    (addressed : parts.Addressed) (fits : (render Bytes.crlf parts).length ≤ headLimit) :
    ∃ host path,
      resolve parts.method parts.target (Fields.grouped parts.lines) = .ok (host, path) ∧
      ∀ ending, ending = Bytes.crlf ∨ ending = [Bytes.lf] →
        parse (render ending parts) = .ok ⟨parts.method, parts.target, host, path,
          Fields.grouped parts.lines, render ending parts⟩ := by
  obtain ⟨host, path, resolved⟩ := resolve_of_addressed addressed
  refine ⟨host, path, resolved, fun ending endings => ?_⟩
  have scanned := HeadSyntax.takes_head (Or.symm endings) wellFormed []
  have isMethod : (parts.method.isEmpty || !parts.method.all Bytes.isToken) = false := by
    simp [wellFormed.method_ne_nil, wellFormed.method]
  have areFields := HeadSyntax.isField_of_writable wellFormed fits
  rw [List.append_nil] at scanned
  rw [parse, scanned]
  simp only [isMethod, collect_of_isField areFields, Fields.ofList_eq_grouped, bind, Except.bind,
    resolved]
  rfl

/-- Two values of one name, written in two ways, behind a field of another name and in front of one:
they come out together. -/
theorem parse_render_of_repeated :
    let parts : Parts := ⟨Bytes.ascii "GET", Bytes.ascii "/a?b", .one_one,
      [(Bytes.ascii "Host", Bytes.ascii "h"), (Bytes.ascii "X-A", Bytes.ascii "1"),
        (Bytes.ascii "Accept", []), (Bytes.ascii "x-a", Bytes.ascii "2 3")]⟩
    let fields : Fields := ⟨[⟨Bytes.ascii "host", [Bytes.ascii "h"]⟩,
      ⟨Bytes.ascii "x-a", [Bytes.ascii "1", Bytes.ascii "2 3"]⟩, ⟨Bytes.ascii "accept", [[]]⟩]⟩
    render Bytes.crlf parts =
      Bytes.ascii "GET /a?b HTTP/1.1\r\nHost: h\r\nX-A: 1\r\nAccept: \r\nx-a: 2 3\r\n\r\n" ∧
    ∀ ending, ending = Bytes.crlf ∨ ending = [Bytes.lf] →
      parse (render ending parts) = .ok ⟨Bytes.ascii "GET", Bytes.ascii "/a?b", Bytes.ascii "h",
        Bytes.ascii "/a?b", fields, render ending parts⟩ := by
  intro parts fields
  have wellFormed : parts.WellFormed := by
    refine ⟨by decide, by decide, by decide, by decide, by decide, by decide, ?_⟩
    intro field member
    rcases member with _ | ⟨_, _ | ⟨_, _ | ⟨_, _ | ⟨_, none⟩⟩⟩⟩ <;>
      first
        | exact ⟨by decide, by decide, by decide, by decide +kernel, by decide +kernel⟩
        | cases none
  have addressed : parts.Addressed := .inr (.inr ⟨_, rfl, by decide⟩)
  obtain ⟨host, path, resolved, readBack⟩ := parse_render wellFormed addressed (by decide)
  have found : resolve parts.method parts.target (Fields.grouped parts.lines) =
      .ok (Bytes.ascii "h", Bytes.ascii "/a?b") := by decide +kernel
  have groups : Fields.grouped parts.lines = fields := by decide +kernel
  cases found.symm.trans resolved
  rw [groups] at readBack
  exact ⟨by decide, readBack⟩

end RequestHead

end Wiretap.Message
