import Mathlib.Data.List.Basic
import Mathlib.Tactic.Common
import Wiretap.Message.HeadReader

/-!
# Cutting a head out line by line

The head reader takes one byte at a time and keeps the line under way.  The same head is found by a
loop over whole lines: a line is taken up to its line feed, or as far as the limit admits or the
stream goes, and what the line amounts to is decided once it is there.  `found_eq_cutLines` says
that the two agree on every text, in what they find and in what they leave.

The loop shows where a head lies.  A text yields a head exactly when it is some empty lines, then
the head, then what is left (`cutLines_complete_iff`); a head is one line or more that are not empty
and an empty line behind them, within the limit (`IsHead`).
-/

namespace Wiretap.Message

set_option autoImplicit false

open Bytes (lf cr)

/-! ## Lines -/

/-- An empty line: its end alone, with or without a carriage return. -/
def IsEmptyLine (line : Bytes) : Prop := line = [lf] ∨ line = [cr, lf]

instance (line : Bytes) : Decidable (IsEmptyLine line) :=
  inferInstanceAs (Decidable (line = [lf] ∨ line = [cr, lf]))

/-- A line with its end: the line feed is its last byte and no other. -/
def IsLine (line : Bytes) : Prop := ∃ body, lf ∉ body ∧ line = body ++ [lf]

theorem IsEmptyLine.isLine {line : Bytes} (isEmpty : IsEmptyLine line) : IsLine line := by
  rcases isEmpty with rfl | rfl
  · exact ⟨[], by simp, rfl⟩
  · exact ⟨[cr], by decide, rfl⟩

theorem IsLine.ne_nil {line : Bytes} (isLine : IsLine line) : line ≠ [] := by
  obtain ⟨body, _, rfl⟩ := isLine
  simp

/-- The reader tells empty lines from their bytes in reverse. -/
theorem isEmptyLine_reverse (line : Bytes) :
    HeadReader.isEmptyLine line.reverse = decide (IsEmptyLine line) := by
  rw [Bool.eq_iff_iff, decide_eq_true_iff]
  simp only [HeadReader.isEmptyLine, IsEmptyLine, Bool.or_eq_true, beq_iff_eq,
    List.reverse_eq_iff]
  rfl

/-- The first line, with its end if the text goes that far. -/
def firstLine : Bytes → Bytes
  | [] => []
  | b :: rest => if b = lf then [b] else b :: firstLine rest

theorem firstLine_isPrefix (text : Bytes) : firstLine text <+: text := by
  induction text with
  | nil => exact List.prefix_rfl
  | cons b rest ih =>
    rw [firstLine]
    split
    · exact ⟨rest, rfl⟩
    · exact (List.prefix_cons_inj b).mpr ih

/-- A first line that ends with a line feed is a whole line. -/
theorem isLine_firstLine {text : Bytes} (ends : (firstLine text).getLast? = some lf) :
    IsLine (firstLine text) := by
  induction text with
  | nil => simp [firstLine] at ends
  | cons b rest ih =>
    rw [firstLine] at ends ⊢
    split
    · next same => exact ⟨[], by simp, by rw [same]; rfl⟩
    · next other =>
      rw [if_neg other, List.getLast?_cons] at ends
      have inside : (firstLine rest).getLast? = some lf := by
        cases last : (firstLine rest).getLast? with
        | none => simp [last] at ends; exact absurd ends other
        | some c => simpa [last] using ends
      obtain ⟨body, free, split⟩ := ih inside
      refine ⟨b :: body, ?_, by rw [split]; rfl⟩
      simpa using ⟨fun same => other same.symm, free⟩

/-- A whole line is the first line of any text that begins with it. -/
theorem firstLine_append {line : Bytes} (isLine : IsLine line) (rest : Bytes) :
    firstLine (line ++ rest) = line := by
  obtain ⟨body, free, rfl⟩ := isLine
  induction body with
  | nil => simp [firstLine]
  | cons b body ih =>
    have other : b ≠ lf := fun same => free (by simp [same])
    have inside : lf ∉ body := fun member => free (List.mem_cons_of_mem _ member)
    have := ih inside
    simp only [List.cons_append, List.append_assoc, firstLine, if_neg other] at this ⊢
    rw [this]

/-! ## The loop over lines -/

/-- What a line amounts to behind the bytes of the head that have been taken: an end, or the bytes
that have been taken then. -/
def afterLine (taken line : Bytes) : Except HeadEnd Bytes :=
  if line = [] then .error .closed
  else if headLimit < taken.length + line.length then .error .tooLong
  else if IsEmptyLine line then
    if taken = [] then .ok [] else .error (.complete (taken ++ line))
  else if line.getLast? = some lf then .ok (taken ++ line)
  else .error .tooLong

/-- The next line, as far as the limit admits. -/
def nextLine (taken text : Bytes) : Bytes := firstLine (text.take (headLimit + 1 - taken.length))

theorem nextLine_isPrefix (taken text : Bytes) : nextLine taken text <+: text :=
  (firstLine_isPrefix _).trans (List.take_prefix _ _)

theorem isLine_nextLine (taken text : Bytes)
    (ends : (nextLine taken text).getLast? = some lf) : IsLine (nextLine taken text) :=
  isLine_firstLine ends

theorem nextLine_append_drop (taken text : Bytes) :
    nextLine taken text ++ text.drop (nextLine taken text).length = text :=
  (List.prefix_iff_eq_append.mp (nextLine_isPrefix taken text))

theorem afterLine_ok_ne_nil {taken line further : Bytes}
    (goesOn : afterLine taken line = .ok further) : line ≠ [] := by
  rintro rfl
  simp [afterLine] at goesOn

theorem afterLine_ok_length {taken line further : Bytes}
    (goesOn : afterLine taken line = .ok further) : further.length ≤ headLimit := by
  unfold afterLine at goesOn
  split_ifs at goesOn with ended exceeds isEmpty first ends
  · cases goesOn
    exact Nat.zero_le _
  · cases goesOn
    rw [List.length_append]
    omega

theorem afterLine_tooLong {taken line : Bytes} (begun : line ≠ [])
    (exceeds : headLimit < taken.length + line.length) :
    afterLine taken line = .error .tooLong := by
  rw [afterLine, if_neg begun, if_pos exceeds]

/-- The head that a text begins with when some of it has been taken, and what is left behind. -/
def cutLines (taken text : Bytes) : HeadEnd × Bytes :=
  match _ : afterLine taken (nextLine taken text) with
  | .error e => (e, text.drop (nextLine taken text).length)
  | .ok further => cutLines further (text.drop (nextLine taken text).length)
termination_by text.length
decreasing_by
  have positive := List.length_pos_of_ne_nil (afterLine_ok_ne_nil ‹_ = Except.ok further›)
  have fits := (nextLine_isPrefix taken text).length_le
  simp only [List.length_drop]
  omega

/-- What is found when the verdict on a line is known, and the text behind the line. -/
def settle (verdict : Except HeadEnd Bytes) (rest : Bytes) : HeadEnd × Bytes :=
  match verdict with
  | .error e => (e, rest)
  | .ok further => cutLines further rest

theorem cutLines_eq_settle (taken text : Bytes) :
    cutLines taken text =
      settle (afterLine taken (nextLine taken text))
        (text.drop (nextLine taken text).length) := by
  rw [cutLines]
  split
  · next e found => rw [found]; rfl
  · next further found => rw [found]; rfl

/-! ## The next line, byte by byte -/

theorem nextLine_nil (taken : Bytes) : nextLine taken [] = [] := by
  simp [nextLine, firstLine]

theorem nextLine_cons_lf {taken : Bytes} (room : taken.length ≤ headLimit) (text : Bytes) :
    nextLine taken (lf :: text) = [lf] := by
  have left : headLimit + 1 - taken.length = headLimit - taken.length + 1 := by omega
  rw [nextLine, left, List.take_succ_cons, firstLine, if_pos rfl]

theorem nextLine_cons_other {taken : Bytes} (room : taken.length ≤ headLimit) {b : UInt8}
    (other : b ≠ lf) (text : Bytes) :
    nextLine taken (b :: text) = b :: nextLine (taken ++ [b]) text := by
  have left : headLimit + 1 - taken.length = headLimit + 1 - (taken ++ [b]).length + 1 := by
    rw [List.length_append, List.length_singleton]
    omega
  rw [nextLine, left, List.take_succ_cons, firstLine, if_neg other, nextLine]

/-- Behind the limit there is room for one byte, which shows that the head is too long. -/
theorem nextLine_cons_of_full {taken : Bytes} (full : taken.length = headLimit) (b : UInt8)
    (text : Bytes) : nextLine taken (b :: text) = [b] := by
  have left : headLimit + 1 - taken.length = 0 + 1 := by omega
  rw [nextLine, left, List.take_succ_cons, List.take_zero, firstLine]
  split <;> rfl

/-! ## The reader finds what the loop finds -/

namespace HeadReader

/-- What a reader finds when the rest of the stream is known, and what it leaves of it. -/
def found (r : HeadReader) (text : Bytes) : HeadEnd × Bytes :=
  match r.feed text with
  | .error ended => ended
  | .ok further => (further.finish, [])

@[simp] theorem found_nil (r : HeadReader) : r.found [] = (r.finish, []) := rfl

theorem found_cons_of_ok {r further : HeadReader} {b : UInt8} (goesOn : r.step b = .ok further)
    (rest : Bytes) : r.found (b :: rest) = further.found rest := by
  simp [found, feed, goesOn]

theorem found_cons_of_error {r : HeadReader} {b : UInt8} {e : HeadEnd} (ends : r.step b = .error e)
    (rest : Bytes) : r.found (b :: rest) = (e, rest) := by
  simp [found, feed, ends]

/-- The reader inside a line: the bytes of the head in front of the line, and those of the line. -/
def within (taken line : Bytes) : HeadReader :=
  ⟨(taken ++ line).length, (taken ++ line).reverse, line.reverse⟩

theorem within_nil_nil : within [] [] = {} := rfl

theorem step_within_tooLong {taken line : Bytes} (full : headLimit ≤ (taken ++ line).length)
    (b : UInt8) : (within taken line).step b = .error .tooLong := by
  have exceeds : headLimit < (within taken line).taken + 1 := Nat.lt_succ_of_le full
  exact if_pos exceeds

theorem step_within_other {taken line : Bytes} (room : (taken ++ line).length < headLimit)
    {b : UInt8} (other : b ≠ lf) :
    (within taken line).step b = .ok (within taken (line ++ [b])) := by
  have fits : ¬ headLimit < (taken ++ line).length + 1 := by omega
  simp only [step, within, if_neg fits, if_pos other]
  simp [Nat.add_assoc]

/-- The end of a line decides as the loop does. -/
theorem step_within_lf {taken line : Bytes} (room : (taken ++ line).length < headLimit) :
    (within taken line).step lf =
      (afterLine taken (line ++ [lf])).map fun further => within further [] := by
  have fits : ¬ headLimit < (taken ++ line).length + 1 := by omega
  have fits' : ¬ headLimit < taken.length + (line ++ [lf]).length := by
    simp only [List.length_append, List.length_singleton] at fits ⊢
    omega
  have reversed : lf :: line.reverse = (line ++ [lf]).reverse := by simp
  have ends : (line ++ [lf]).getLast? = some lf := by simp
  simp only [step, within, afterLine, if_neg fits, if_neg fits', ne_eq, not_true_eq_false,
    if_false, reversed, isEmptyLine_reverse, if_pos ends, List.append_ne_nil_of_right_ne_nil,
    List.cons_ne_nil, not_false_eq_true]
  by_cases isEmpty : IsEmptyLine (line ++ [lf])
  · by_cases first : taken = []
    · simp [isEmpty, first, Except.map]
    · simp [isEmpty, first, Except.map]
  · simp [isEmpty, Except.map, Nat.add_assoc]

theorem finish_within {taken line : Bytes} (free : lf ∉ line)
    (fits : (taken ++ line).length ≤ headLimit) :
    afterLine taken line = .error (within taken line).finish := by
  have unended : line.getLast? ≠ some lf := fun last => free (List.mem_of_getLast? last)
  have fits' : ¬ headLimit < taken.length + line.length := by
    rw [List.length_append] at fits
    omega
  have full : ¬ IsEmptyLine line := fun isEmpty => by
    obtain ⟨body, _, rfl⟩ := isEmpty.isLine
    simp at free
  by_cases begun : line = []
  · simp [afterLine, within, finish, begun]
  · simp [afterLine, within, finish, begun, fits', full, unended]

/-- A reader inside a line finds what the loop finds once the line is complete. -/
theorem found_within (taken line text : Bytes) (free : lf ∉ line)
    (fits : (taken ++ line).length ≤ headLimit) :
    (within taken line).found text =
      settle (afterLine taken (line ++ nextLine (taken ++ line) text))
        (text.drop (nextLine (taken ++ line) text).length) := by
  induction text generalizing taken line with
  | nil =>
    rw [found_nil, nextLine_nil, List.append_nil, finish_within free fits]
    rfl
  | cons b text ih =>
    rcases Nat.lt_or_ge (taken ++ line).length headLimit with room | full
    · by_cases same : b = lf
      · subst same
        rw [nextLine_cons_lf fits]
        cases verdict : afterLine taken (line ++ [lf]) with
        | error e =>
          rw [found_cons_of_error (by rw [step_within_lf room, verdict]; rfl)]
          rfl
        | ok further =>
          have fits' : (further ++ []).length ≤ headLimit := by
            rw [List.append_nil]
            exact afterLine_ok_length verdict
          rw [found_cons_of_ok (by rw [step_within_lf room, verdict]; rfl),
            ih further [] (by simp) fits', List.append_nil, List.nil_append,
            ← cutLines_eq_settle]
          rfl
      · have longer : (taken ++ (line ++ [b])).length ≤ headLimit := by
          simp only [List.length_append, List.length_singleton] at room ⊢
          omega
        have free' : lf ∉ line ++ [b] := by simpa [free] using fun h => same h.symm
        rw [found_cons_of_ok (step_within_other room same), ih _ _ free' longer,
          nextLine_cons_other fits same]
        simp [List.append_assoc]
    · have exceeds : headLimit < taken.length + (line ++ [b]).length := by
        simp only [List.length_append, List.length_singleton] at full ⊢
        omega
      rw [found_cons_of_error (step_within_tooLong full b), nextLine_cons_of_full (by omega),
        afterLine_tooLong (by simp) exceeds]
      rfl

/-- **The reader finds what the loop over lines finds, and leaves what the loop leaves.** -/
theorem found_eq_cutLines (text : Bytes) : found {} text = cutLines [] text := by
  rw [← within_nil_nil, found_within [] [] text (by simp) (by simp), cutLines_eq_settle]
  rfl

end HeadReader

/-! ## Where a head lies in a text -/

/-- A line that belongs to a head and does not end it. -/
def IsHeadLine (line : Bytes) : Prop := IsLine line ∧ ¬ IsEmptyLine line

/-- A head: one line or more that are not empty, an empty line behind them, all within the limit. -/
def IsHead (raw : Bytes) : Prop :=
  ∃ (lines : List Bytes) (last : Bytes), lines ≠ [] ∧ (∀ line ∈ lines, IsHeadLine line) ∧
    IsEmptyLine last ∧ raw = lines.flatten ++ last ∧ raw.length ≤ headLimit

theorem flatten_headLines_eq_nil_iff {lines : List Bytes}
    (headLines : ∀ line ∈ lines, IsHeadLine line) : lines.flatten = [] ↔ lines = [] := by
  cases lines with
  | nil => simp
  | cons line lines =>
    have := (headLines line (by simp)).1.ne_nil
    simp [this]

/-- What is taken when the loop goes on: nothing yet, or one more line of the head. -/
theorem afterLine_ok_cases {taken line further : Bytes}
    (goesOn : afterLine taken line = .ok further) :
    (IsEmptyLine line ∧ taken = [] ∧ further = []) ∨
      (¬ IsEmptyLine line ∧ line.getLast? = some lf ∧ further = taken ++ line) := by
  unfold afterLine at goesOn
  split_ifs at goesOn with ended exceeds isEmpty first ends
  · cases goesOn
    exact .inl ⟨isEmpty, first, rfl⟩
  · cases goesOn
    exact .inr ⟨isEmpty, ends, rfl⟩

theorem afterLine_complete_cases {taken line raw : Bytes}
    (ends : afterLine taken line = .error (.complete raw)) :
    IsEmptyLine line ∧ taken ≠ [] ∧ raw = taken ++ line ∧ raw.length ≤ headLimit := by
  unfold afterLine at ends
  split_ifs at ends with ended exceeds isEmpty first <;> cases ends
  refine ⟨isEmpty, first, rfl, ?_⟩
  rw [List.length_append]
  omega

/-- What the loop calls complete are the lines that it had, some more of them, and an empty line;
empty lines are skipped only while it has none. -/
theorem cutLines_complete {text raw rest : Bytes} {lines : List Bytes}
    (headLines : ∀ line ∈ lines, IsHeadLine line)
    (found : cutLines lines.flatten text = (.complete raw, rest)) :
    ∃ (skipped more : List Bytes) (last : Bytes),
      (∀ line ∈ skipped, IsEmptyLine line) ∧ (lines ≠ [] → skipped = []) ∧ lines ++ more ≠ [] ∧
      (∀ line ∈ more, IsHeadLine line) ∧ IsEmptyLine last ∧
      text = skipped.flatten ++ more.flatten ++ last ++ rest ∧
      raw = (lines ++ more).flatten ++ last ∧ raw.length ≤ headLimit := by
  induction size : text.length using Nat.strongRecOn generalizing text lines with
  | _ size ih =>
    subst size
    have split := nextLine_append_drop lines.flatten text
    have isPrefix := nextLine_isPrefix lines.flatten text
    have isLine := isLine_nextLine lines.flatten text
    rw [cutLines_eq_settle] at found
    generalize nextLine lines.flatten text = line at *
    cases verdict : afterLine lines.flatten line with
    | error e =>
      rw [verdict] at found
      cases found
      obtain ⟨isEmpty, begun, whole, fits⟩ := afterLine_complete_cases verdict
      refine ⟨[], [], line, by simp, by simp, ?_, by simp, isEmpty, by simp [split], ?_, fits⟩
      · simpa [flatten_headLines_eq_nil_iff headLines] using begun
      · simpa using whole
    | ok further =>
      rw [verdict, settle] at found
      have shorter : (text.drop line.length).length < text.length := by
        have positive := List.length_pos_of_ne_nil (afterLine_ok_ne_nil verdict)
        have fits := isPrefix.length_le
        rw [List.length_drop]
        omega
      rcases afterLine_ok_cases verdict with ⟨isEmpty, first, rfl⟩ | ⟨full, ends, rfl⟩
      · have none_yet := (flatten_headLines_eq_nil_iff headLines).mp first
        have none_begun : ∀ l ∈ ([] : List Bytes), IsHeadLine l := by simp
        obtain ⟨skipped, more, last, areEmpty, _, begun, areHeadLines, isLast, whole, isRaw,
          fits⟩ := ih _ shorter none_begun found rfl
        refine ⟨line :: skipped, more, last, ?_, by simp [none_yet],
          by simpa [none_yet] using begun, areHeadLines, isLast, ?_,
          by simpa [none_yet] using isRaw, fits⟩
        · simpa [isEmpty] using areEmpty
        · rw [← split, whole]
          simp
      · have extended : ∀ l ∈ lines ++ [line], IsHeadLine l := by
          intro l member
          rcases List.mem_append.mp member with before | new
          · exact headLines l before
          · rw [List.mem_singleton.mp new]
            exact ⟨isLine ends, full⟩
        obtain ⟨skipped, more, last, _, none_skipped, _, areHeadLines, isLast, whole, isRaw,
          fits⟩ := ih _ shorter extended (by simpa using found) rfl
        have skippedNone := none_skipped (by simp)
        subst skippedNone
        refine ⟨[], line :: more, last, by simp, by simp, by simp, ?_, isLast, ?_, ?_, fits⟩
        · simpa [IsHeadLine, isLine ends, full] using areHeadLines
        · rw [← split, whole]
          simp
        · simpa using isRaw

/-! ## Texts that begin with a head -/

/-- A whole line within the limit is the next line. -/
theorem nextLine_append {taken line : Bytes} (isLine : IsLine line)
    (fits : taken.length + line.length ≤ headLimit) (rest : Bytes) :
    nextLine taken (line ++ rest) = line := by
  obtain ⟨left, enough⟩ : ∃ left, headLimit + 1 - taken.length = line.length + left :=
    ⟨headLimit + 1 - taken.length - line.length, by omega⟩
  rw [nextLine, enough, List.take_length_add_append]
  exact firstLine_append isLine _

theorem cutLines_append {taken line : Bytes} (isLine : IsLine line)
    (fits : taken.length + line.length ≤ headLimit) (rest : Bytes) :
    cutLines taken (line ++ rest) = settle (afterLine taken line) rest := by
  rw [cutLines_eq_settle, nextLine_append isLine fits, List.drop_left]

theorem cutLines_skip (skipped : List Bytes) (areEmpty : ∀ line ∈ skipped, IsEmptyLine line)
    (text : Bytes) : cutLines [] (skipped.flatten ++ text) = cutLines [] text := by
  induction skipped with
  | nil => rfl
  | cons line skipped ih =>
    have isEmpty := areEmpty line (by simp)
    have fits : ([] : Bytes).length + line.length ≤ headLimit := by
      rcases isEmpty with rfl | rfl <;> decide
    have goesOn : afterLine [] line = .ok [] := by
      rw [afterLine, if_neg isEmpty.isLine.ne_nil, if_neg (Nat.not_lt.mpr fits), if_pos isEmpty,
        if_pos rfl]
    rw [List.flatten_cons, List.append_assoc, cutLines_append isEmpty.isLine fits, goesOn]
    exact ih fun l member => areEmpty l (List.mem_cons_of_mem _ member)

theorem cutLines_headLines (lines : List Bytes) (headLines : ∀ line ∈ lines, IsHeadLine line)
    (taken text : Bytes) (fits : (taken ++ lines.flatten).length ≤ headLimit) :
    cutLines taken (lines.flatten ++ text) = cutLines (taken ++ lines.flatten) text := by
  induction lines generalizing taken with
  | nil => simp
  | cons line lines ih =>
    obtain ⟨isLine, full⟩ := headLines line (by simp)
    have within : taken.length + line.length ≤ headLimit := by
      simp only [List.flatten_cons, List.length_append] at fits
      omega
    have ends : line.getLast? = some lf := by
      obtain ⟨body, _, rfl⟩ := isLine
      simp
    have goesOn : afterLine taken line = .ok (taken ++ line) := by
      rw [afterLine, if_neg isLine.ne_nil, if_neg (Nat.not_lt.mpr within), if_neg full,
        if_pos ends]
    rw [List.flatten_cons, List.append_assoc, cutLines_append isLine within, goesOn, settle,
      ih (fun l member => headLines l (List.mem_cons_of_mem _ member)) _ (by simpa using fits),
      List.append_assoc]

theorem cutLines_head {raw : Bytes} (isHead : IsHead raw) (rest : Bytes) :
    cutLines [] (raw ++ rest) = (.complete raw, rest) := by
  obtain ⟨lines, last, begun, headLines, isEmpty, rfl, fits⟩ := isHead
  have within : ([] ++ lines.flatten).length ≤ headLimit := by
    rw [List.length_append] at fits
    rw [List.nil_append]
    omega
  have taken := mt (flatten_headLines_eq_nil_iff headLines).mp begun
  have ends : afterLine lines.flatten last = .error (.complete (lines.flatten ++ last)) := by
    rw [List.length_append] at fits
    rw [afterLine, if_neg isEmpty.isLine.ne_nil, if_neg (Nat.not_lt.mpr fits), if_pos isEmpty,
      if_neg taken]
  rw [List.append_assoc, cutLines_headLines lines headLines [] _ within, List.nil_append,
    cutLines_append isEmpty.isLine (by rwa [List.length_append] at fits), ends]
  rfl

/-- **A text yields a head exactly when it is empty lines, the head, and what is left.** -/
theorem cutLines_complete_iff {text raw rest : Bytes} :
    cutLines [] text = (.complete raw, rest) ↔
      ∃ skipped : List Bytes, (∀ line ∈ skipped, IsEmptyLine line) ∧ IsHead raw ∧
        text = skipped.flatten ++ raw ++ rest := by
  constructor
  · intro found
    have none_begun : ∀ line ∈ ([] : List Bytes), IsHeadLine line := by simp
    obtain ⟨skipped, lines, last, areEmpty, _, begun, headLines, isLast, whole, isRaw, fits⟩ :=
      cutLines_complete none_begun found
    refine ⟨skipped, areEmpty, ⟨lines, last, begun, headLines, isLast, isRaw, fits⟩, ?_⟩
    rw [whole, isRaw]
    simp
  · rintro ⟨skipped, areEmpty, isHead, rfl⟩
    rw [List.append_assoc, cutLines_skip skipped areEmpty, cutLines_head isHead]

end Wiretap.Message
