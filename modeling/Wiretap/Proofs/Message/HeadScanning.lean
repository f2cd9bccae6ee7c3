import Mathlib.Data.List.Basic
import Mathlib.Data.List.TakeWhile
import Mathlib.Tactic.Common
import Wiretap.Message.RequestHead
import Wiretap.Proofs.Message.HeadLines

/-!
# Scanning a head line by line

The scanner of a head looks at single bytes and knows nothing of lines.  Yet no part of it that
begins on a line reads behind the end of the line: either it stops at a fault inside, or it goes on
inside the line or right behind it, and what follows the line has no part in that (`Settles`).  So
the scanner settles on the bytes of a head: it takes them to the last byte, or stops at a fault
among them (`settles_head`), and all that it takes can be given a meaning (`Parts.Convertible`).
-/

namespace Wiretap

set_option autoImplicit false

theorem Bytes.trimBlankEnd_isPrefix (b : Bytes) : Bytes.trimBlankEnd b <+: b := by
  rw [Bytes.trimBlankEnd, ← List.reverse_suffix, List.reverse_reverse]
  exact List.dropWhile_suffix _

namespace Message

open Bytes (lf cr)

/-! ## What is left of a line -/

theorem IsLine.of_suffix {line left : Bytes} (isLine : IsLine line) (isSuffix : left <:+ line)
    (some_left : left ≠ []) : IsLine left := by
  obtain ⟨body, free, rfl⟩ := isLine
  rcases List.suffix_concat_iff.mp isSuffix with none | ⟨rest, rfl, inside⟩
  · exact absurd none some_left
  · exact ⟨rest, fun member => free (inside.subset member), rfl⟩

/-- A line is its end alone, or a byte in front of a line. -/
theorem IsLine.cons_cases {line : Bytes} (isLine : IsLine line) :
    line = [lf] ∨ ∃ b left, b ≠ lf ∧ IsLine left ∧ line = b :: left := by
  obtain ⟨body, free, rfl⟩ := isLine
  cases body with
  | nil => exact .inl rfl
  | cons b body =>
    have other : b ≠ lf := fun same => free (same ▸ List.mem_cons_self)
    have inside : lf ∉ body := fun member => free (List.mem_cons_of_mem _ member)
    exact .inr ⟨b, body ++ [lf], other, ⟨body, inside, rfl⟩, rfl⟩

theorem IsLine.lf_mem {line : Bytes} (isLine : IsLine line) : lf ∈ line := by
  obtain ⟨body, _, rfl⟩ := isLine
  simp

namespace HeadSyntax

/-! ## Settled scans -/

section Settles

variable {α β : Type} {p : Scan α} {text : Bytes} {post : α → Bytes → Prop}

/-- Whatever comes behind the text, the scanner stops at a fault in the text, or goes on behind a
part of it, with a result and bytes left as the condition says. -/
def Settles (p : Scan α) (text : Bytes) (post : α → Bytes → Prop) : Prop :=
  (∃ f, ∀ tail, p (text ++ tail) = .error (.fault f)) ∨
    ∃ a left, post a left ∧ ∀ tail, p (text ++ tail) = .ok (a, left ++ tail)

theorem settles_pure {a : α} (holds : post a text) : Settles (pure a) text post :=
  .inr ⟨a, text, holds, fun _ => rfl⟩

theorem settles_stop (f : Fault) : Settles (stop f) text post := .inl ⟨f, fun _ => rfl⟩

theorem Settles.mono {post' : α → Bytes → Prop} (settles : Settles p text post)
    (weaker : ∀ a left, post a left → post' a left) : Settles p text post' := by
  rcases settles with faulty | ⟨a, left, holds, goesOn⟩
  · exact .inl faulty
  · exact .inr ⟨a, left, weaker a left holds, goesOn⟩

theorem Settles.bind {q : α → Scan β} {post' : β → Bytes → Prop} (first : Settles p text post)
    (second : ∀ a left, post a left → Settles (q a) left post') : Settles (p >>= q) text post' := by
  rcases first with ⟨f, faulty⟩ | ⟨a, left, holds, goesOn⟩
  · refine .inl ⟨f, fun tail => ?_⟩
    change (p (text ++ tail) >>= fun x => q x.1 x.2) = _
    rw [faulty]
    rfl
  · have onward : ∀ tail, (p >>= q) (text ++ tail) = q a (left ++ tail) := by
      intro tail
      change (p (text ++ tail) >>= fun x => q x.1 x.2) = _
      rw [goesOn]
      rfl
    simp only [Settles, onward]
    exact second a left holds

/-- A check in front of the rest. -/
theorem Settles.check {c : Prop} [Decidable c] {f : Fault} {q : Unit → Scan α}
    (passed : ¬ c → Settles (q ()) text post) :
    Settles (if c then stop f >>= q else q ()) text post := by
  split
  · exact .inl ⟨f, fun _ => rfl⟩
  · next pass => exact passed pass

/-- What settles on a text settles on it in front of more text, which it leaves. -/
theorem Settles.frame (settles : Settles p text post) (more : Bytes) :
    Settles p (text ++ more) fun a left => ∃ inner, post a inner ∧ left = inner ++ more := by
  rcases settles with ⟨f, faulty⟩ | ⟨a, left, holds, goesOn⟩
  · exact .inl ⟨f, fun tail => by rw [List.append_assoc, faulty]⟩
  · refine .inr ⟨a, left ++ more, ⟨left, holds, rfl⟩, fun tail => ?_⟩
    rw [List.append_assoc, goesOn, List.append_assoc]

end Settles

/-! ## Parts of a line -/

variable {line : Bytes}

/-- What is left behind the first byte of a line. -/
def Behind (b : UInt8) (left : Bytes) : Prop := b = lf ∧ left = [] ∨ b ≠ lf ∧ IsLine left

theorem settles_next (isLine : IsLine line) :
    Settles next line fun b left => line = b :: left ∧ Behind b left := by
  rcases isLine.cons_cases with rfl | ⟨b, left, other, isLeft, rfl⟩
  · exact .inr ⟨lf, [], ⟨rfl, .inl ⟨rfl, rfl⟩⟩, fun _ => rfl⟩
  · exact .inr ⟨b, left, ⟨rfl, .inr ⟨other, isLeft⟩⟩, fun _ => rfl⟩

theorem settles_expect (isLine : IsLine line) (b : UInt8) (f : Fault) :
    Settles (expect b f) line fun _ left => line = b :: left ∧ Behind b left := by
  refine (settles_next isLine).bind fun first left ⟨split, behind⟩ => ?_
  split
  · exact settles_stop f
  · next same =>
    have same : first = b := by simpa using same
    subst same
    exact settles_pure ⟨split, behind⟩

theorem settles_run (isLine : IsLine line) {p : UInt8 → Bool} (ends : p lf = false) :
    Settles (run p) line fun taken left => line = taken ++ left ∧ taken.all p ∧ IsLine left := by
  have some_left : line.dropWhile p ≠ [] := by
    intro none
    have passes := List.dropWhile_eq_nil_iff.mp none lf isLine.lf_mem
    rw [ends] at passes
    cases passes
  have split : line.takeWhile p ++ line.dropWhile p = line := List.takeWhile_append_dropWhile
  have stops : (line.takeWhile p).length ≠ line.length := by
    intro whole
    rw [← congrArg List.length split, List.length_append] at whole
    exact some_left (List.length_eq_zero_iff.mp (by omega))
  refine .inr ⟨line.takeWhile p, line.dropWhile p, ⟨split.symm, List.all_takeWhile,
    isLine.of_suffix (List.dropWhile_suffix _) some_left⟩, fun tail => ?_⟩
  rw [run, List.takeWhile_append, List.dropWhile_append, if_neg stops,
    if_neg (by simpa using some_left)]

/-! ## Line ends -/

theorem settles_lineEnd (isLine : IsLine line) (f : Fault) :
    Settles (lineEnd f) line fun _ left => left = [] := by
  refine (settles_next isLine).bind fun b left ⟨_, behind⟩ => ?_
  rcases behind with ⟨rfl, rfl⟩ | ⟨other, isLeft⟩
  · exact settles_pure rfl
  · split
    · refine (settles_expect isLeft lf f).mono fun _ rest ⟨_, behind⟩ => ?_
      rcases behind with ⟨_, ended⟩ | ⟨same, _⟩
      · exact ended
      · exact absurd rfl same
    · exact settles_stop f

theorem settles_lineEnd?_of_isEmptyLine (isEmpty : IsEmptyLine line) :
    Settles lineEnd? line fun found left => found = true ∧ left = [] := by
  rcases isEmpty with rfl | rfl
  · exact .inr ⟨true, [], ⟨rfl, rfl⟩, fun _ => rfl⟩
  · exact .inr ⟨true, [], ⟨rfl, rfl⟩, fun _ => rfl⟩

theorem lineEnd?_of_other {b : UInt8} (notReturn : b ≠ cr) (notFeed : b ≠ lf) (text : Bytes) :
    lineEnd? (b :: text) = .ok (false, b :: text) := by
  unfold lineEnd?
  split
  · next same => exact absurd (List.cons.inj same).1 notReturn
  · next same => exact absurd (List.cons.inj same).1 notFeed
  · next same => cases same
  · rfl

theorem lineEnd?_of_torn {c : UInt8} (notFeed : c ≠ lf) (text : Bytes) :
    lineEnd? (cr :: c :: text) = .error (.fault .newLine) := by
  have torn : expect lf .newLine (c :: text) = .error (.fault .newLine) := by
    change (if (c != lf) = true then stop .newLine else pure () : Scan Unit) text = _
    rw [if_pos (bne_iff_ne.mpr notFeed)]
    rfl
  change (expect lf .newLine (c :: text) >>= fun x => (pure true : Scan Bool) x.2) = _
  rw [torn]
  rfl

/-- A line that is not empty may begin like an empty one; then the scanner stops at it. -/
theorem settles_lineEnd?_of_isHeadLine (headLine : IsHeadLine line) :
    Settles lineEnd? line fun found left => found = false ∧ left = line := by
  obtain ⟨isLine, full⟩ := headLine
  rcases isLine.cons_cases with rfl | ⟨b, left, other, isLeft, rfl⟩
  · exact absurd (.inl rfl) full
  · by_cases begins : b = cr
    · subst begins
      rcases isLeft.cons_cases with rfl | ⟨c, rest, other', _, rfl⟩
      · exact absurd (.inr rfl) full
      · exact .inl ⟨.newLine, fun tail => lineEnd?_of_torn other' (rest ++ tail)⟩
    · exact .inr ⟨false, b :: left, ⟨rfl, rfl⟩, fun tail =>
        lineEnd?_of_other begins other (left ++ tail)⟩

/-! ## The request line -/

theorem settles_method (isLine : IsLine line) :
    Settles method line fun m left => (m ≠ [] ∧ m.all Bytes.isToken) ∧ IsLine left := by
  refine (settles_next isLine).bind fun first left ⟨_, behind⟩ => ?_
  refine Settles.check fun token => ?_
  have token : Bytes.isToken first := by simpa using token
  rcases behind with ⟨rfl, _⟩ | ⟨_, isLeft⟩
  · exact absurd token (by decide)
  · refine (settles_run isLeft (by decide)).bind fun more left ⟨_, tokens, isLeft⟩ => ?_
    refine (settles_expect isLeft _ _).bind fun _ left ⟨_, behind⟩ => ?_
    rcases behind with ⟨same, _⟩ | ⟨_, isLeft⟩
    · exact absurd same (by decide)
    · exact settles_pure ⟨⟨by simp, by simp [token, tokens]⟩, isLeft⟩

theorem settles_target (isLine : IsLine line) :
    Settles target line fun _ left => IsLine left := by
  refine (settles_run isLine (by decide)).bind fun t left ⟨_, _, isLeft⟩ => ?_
  refine (settles_expect isLeft _ _).bind fun _ left ⟨_, behind⟩ => ?_
  refine Settles.check fun _ => ?_
  rcases behind with ⟨same, _⟩ | ⟨_, isLeft⟩
  · exact absurd same (by decide)
  · exact settles_pure isLeft

theorem version_of_lf_mem {text : Bytes} (ends : lf ∈ text.take 8) :
    version text = .error (.fault .version) := by
  have free : ∀ digit, digit ≠ lf → text.take 8 ≠ versionStem ++ [digit] := by
    intro digit other same
    rw [same] at ends
    rcases List.mem_append.mp ends with member | member
    · exact absurd member (by decide)
    · exact other (List.mem_singleton.mp member).symm
  rw [version]
  split
  · rw [if_neg (free 0x30 (by decide)), if_neg (free 0x31 (by decide))]
  · next short =>
    have whole : text.take 7 = text.take 8 := by
      rw [List.take_of_length_le (by omega), List.take_of_length_le (by omega)]
    rw [if_neg]
    intro same
    rw [← whole, same] at ends
    exact absurd (List.mem_of_mem_take ends) (by decide)

/-- The scanner looks at as many bytes as a version has, but a line that ends among them is no
version, so what follows the line does not matter. -/
theorem settles_version (isLine : IsLine line) :
    Settles version line fun _ left => IsLine left := by
  by_cases ends : lf ∈ line.take 8
  · refine .inl ⟨.version, fun tail => version_of_lf_mem ?_⟩
    rw [List.take_append]
    exact List.mem_append_left _ ends
  · have long : 8 < line.length := by
      by_contra short
      rw [List.take_of_length_le (Nat.not_lt.mp short)] at ends
      exact ends isLine.lf_mem
    have isLeft : IsLine (line.drop 8) := by
      refine isLine.of_suffix (List.drop_suffix _ _) ?_
      rw [ne_eq, List.drop_eq_nil_iff]
      omega
    have scanned : ∀ tail, version (line ++ tail) =
        if line.take 8 = versionStem ++ [0x30] then .ok (.one_zero, line.drop 8 ++ tail)
        else if line.take 8 = versionStem ++ [0x31] then .ok (.one_one, line.drop 8 ++ tail)
        else .error (.fault .version) := by
      intro tail
      have enough : 8 ≤ (line ++ tail).length := by
        rw [List.length_append]
        omega
      rw [version, if_pos enough, List.take_append_of_le_length (by omega),
        List.drop_append_of_le_length (by omega)]
    unfold Settles
    simp only [scanned]
    split_ifs
    · exact .inr ⟨.one_zero, line.drop 8, isLeft, fun _ => rfl⟩
    · exact .inr ⟨.one_one, line.drop 8, isLeft, fun _ => rfl⟩
    · exact .inl ⟨.version, fun _ => rfl⟩

/-! ## Field lines -/

theorem settles_fieldName (isLine : IsLine line) (fits : line.length ≤ Fields.nameLimit + 1) :
    Settles fieldName line fun name left => Fields.isName name ∧ IsLine left := by
  refine (settles_next isLine).bind fun first left ⟨split, behind⟩ => ?_
  refine Settles.check fun token => ?_
  have token : Bytes.isToken first := by simpa using token
  rcases behind with ⟨rfl, _⟩ | ⟨_, isLeft⟩
  · exact absurd token (by decide)
  · refine (settles_run isLeft (by decide)).bind fun more left ⟨split', tokens, isLeft⟩ => ?_
    refine (settles_expect isLeft _ _).bind fun _ left ⟨split'', behind⟩ => ?_
    rcases behind with ⟨same, _⟩ | ⟨_, isLeft⟩
    · exact absurd same (by decide)
    · have short : (first :: more).length ≤ Fields.nameLimit := by
        rw [split, split', split''] at fits
        simp only [List.length_cons, List.length_append] at fits ⊢
        omega
      refine settles_pure ⟨?_, isLeft⟩
      simp only [Fields.isName, List.all_cons, token, tokens, decide_eq_true short]
      rfl

theorem settles_fieldValue (isLine : IsLine line) :
    Settles fieldValue line fun value left => Fields.isValue value ∧ left = [] := by
  refine (settles_run isLine (by decide)).bind fun _ left ⟨_, _, isLeft⟩ => ?_
  refine (settles_run isLeft (by decide)).bind fun value left ⟨_, contents, isLeft⟩ => ?_
  refine (settles_lineEnd isLeft _).bind fun _ left ended => ?_
  refine settles_pure ⟨?_, ended⟩
  rw [Fields.isValue, List.all_eq_true]
  intro b member
  exact List.all_eq_true.mp contents b ((Bytes.trimBlankEnd_isPrefix value).subset member)

/-- A name and a value that can be made a field. -/
def IsField (field : Bytes × Bytes) : Prop := Fields.isName field.1 ∧ Fields.isValue field.2

theorem settles_fieldLine (isLine : IsLine line) (fits : line.length ≤ Fields.nameLimit + 1) :
    Settles fieldLine line fun field left => IsField field ∧ left = [] := by
  refine (settles_fieldName isLine fits).bind fun name left ⟨isName, isLeft⟩ => ?_
  refine (settles_fieldValue isLeft).bind fun value left ⟨isValue, ended⟩ => ?_
  exact settles_pure ⟨⟨isName, isValue⟩, ended⟩

theorem settles_fieldLines {lines : List Bytes} {last : Bytes} (room : Nat)
    (headLines : ∀ line ∈ lines, IsHeadLine line) (isEmpty : IsEmptyLine last)
    (fits : ∀ line ∈ lines, line.length ≤ Fields.nameLimit + 1) :
    Settles (fieldLines room) (lines.flatten ++ last)
      fun fields left => (∀ field ∈ fields, IsField field) ∧ left = [] := by
  induction lines generalizing room with
  | nil =>
    have ends : ∀ further : Scan (List (Bytes × Bytes)),
        Settles (do if ← lineEnd? then pure [] else further) last
          fun fields left => (∀ field ∈ fields, IsField field) ∧ left = [] := by
      intro further
      refine (settles_lineEnd?_of_isEmptyLine isEmpty).bind fun _ left ⟨found, ended⟩ => ?_
      rw [if_pos found]
      exact settles_pure ⟨by simp, ended⟩
    cases room with
    | zero => exact ends _
    | succ room => exact ends _
  | cons line lines ih =>
    have headLine := headLines line List.mem_cons_self
    have others : ∀ l ∈ lines, IsHeadLine l := fun l member =>
      headLines l (List.mem_cons_of_mem _ member)
    have fits' : ∀ l ∈ lines, l.length ≤ Fields.nameLimit + 1 := fun l member =>
      fits l (List.mem_cons_of_mem _ member)
    have fieldBehind : Settles fieldLine (line ++ (lines.flatten ++ last))
        fun field left => IsField field ∧ left = lines.flatten ++ last := by
      refine ((settles_fieldLine headLine.1 (fits line List.mem_cons_self)).frame _).mono ?_
      rintro field _ ⟨_, ⟨isField, rfl⟩, rfl⟩
      exact ⟨isField, rfl⟩
    rw [List.flatten_cons, List.append_assoc]
    cases room with
    | zero =>
      refine ((settles_lineEnd?_of_isHeadLine headLine).frame _).bind ?_
      rintro _ _ ⟨_, ⟨rfl, rfl⟩, rfl⟩
      exact fieldBehind.bind fun _ left _ => settles_stop _
    | succ room =>
      refine ((settles_lineEnd?_of_isHeadLine headLine).frame _).bind ?_
      rintro _ _ ⟨_, ⟨rfl, rfl⟩, rfl⟩
      refine fieldBehind.bind ?_
      rintro field _ ⟨isField, rfl⟩
      refine (ih room others fits').bind fun fields left ⟨areFields, ended⟩ => ?_
      exact settles_pure ⟨List.forall_mem_cons.mpr ⟨isField, areFields⟩, ended⟩

/-! ## Whole heads -/

/-- Skips as many empty lines as there can be. -/
def skipAll : Scan Unit := fun b => skipEmptyLines b.length b

theorem head_eq : head = do
    skipAll
    let method ← method
    let target ← target
    let version ← version
    lineEnd .newLine
    let lines ← fieldLines lineLimit
    return ⟨method, target, version, lines⟩ := rfl

theorem settles_skipAll {line : Bytes} (headLine : IsHeadLine line) :
    Settles skipAll line fun _ left => left = line := by
  obtain ⟨b, rest, rfl⟩ := List.exists_cons_of_ne_nil headLine.1.ne_nil
  have once : ∀ tail, skipAll (b :: rest ++ tail) =
      (lineEnd? (b :: rest ++ tail) >>= fun x =>
        (if x.1 = true then skipEmptyLines (rest ++ tail).length else pure ()) x.2) := fun _ => rfl
  rcases settles_lineEnd?_of_isHeadLine headLine with ⟨f, torn⟩ | ⟨_, _, ⟨rfl, rfl⟩, found⟩
  · exact .inl ⟨f, fun tail => by rw [once, torn]; rfl⟩
  · exact .inr ⟨(), b :: rest, rfl, fun tail => by rw [once, found]; rfl⟩

/-- The parts can be given a meaning: the method is a token, and every line is a field. -/
structure Parts.Convertible (parts : Parts) : Prop where
  method : parts.method ≠ [] ∧ parts.method.all Bytes.isToken
  fields : ∀ line ∈ parts.lines, IsField line

/-- **The scanner settles on a head**: it stops at a fault in it, or takes it to the last byte.
A head is so short that no name in it can be too long for a field. -/
theorem settles_head {raw : Bytes} (isHead : IsHead raw) :
    Settles head raw fun parts left => parts.Convertible ∧ left = [] := by
  obtain ⟨lines, last, begun, headLines, isEmpty, rfl, fits⟩ := isHead
  obtain ⟨line, lines, rfl⟩ := List.exists_cons_of_ne_nil begun
  have first := headLines line List.mem_cons_self
  have others : ∀ l ∈ lines, IsHeadLine l := fun l member =>
    headLines l (List.mem_cons_of_mem _ member)
  have fits' : ∀ l ∈ lines, l.length ≤ Fields.nameLimit + 1 := by
    intro l member
    have part := (List.sublist_flatten_of_mem member).length_le
    rw [List.flatten_cons, List.length_append, List.length_append] at fits
    change l.length ≤ headLimit
    omega
  rw [head_eq, List.flatten_cons, List.append_assoc]
  refine ((settles_skipAll first).frame _).bind ?_
  rintro _ _ ⟨_, rfl, rfl⟩
  refine ((settles_method first.1).frame _).bind ?_
  rintro method _ ⟨left, ⟨isMethod, isLine⟩, rfl⟩
  refine ((settles_target isLine).frame _).bind ?_
  rintro target _ ⟨left, isLine, rfl⟩
  refine ((settles_version isLine).frame _).bind ?_
  rintro version _ ⟨left, isLine, rfl⟩
  refine ((settles_lineEnd isLine .newLine).frame _).bind ?_
  rintro _ _ ⟨_, rfl, rfl⟩
  refine (settles_fieldLines lineLimit others isEmpty fits').bind ?_
  rintro fields _ ⟨areFields, rfl⟩
  exact settles_pure ⟨⟨isMethod, areFields⟩, rfl⟩

end HeadSyntax

end Message

end Wiretap
