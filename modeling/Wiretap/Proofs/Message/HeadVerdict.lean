import Mathlib.Data.List.Basic
import Mathlib.Tactic.Common
import Wiretap.Proofs.Message.HeadDelivery

/-!
# What a text should amount to

What reading a request should come to can be said of its text without any reader.  The text falls
into lines.  Behind the empty lines in front of it, the head goes up to the first empty line, and a
head within the limit is complete.  A text without such a head is too long where it goes beyond the
limit; otherwise its stream was closed inside the head (`verdict`).

Reading agrees with that but for one kind of text, however it is delivered: where the stream is
closed inside a line of a head that keeps to the limit, the head is called too long
(`reads_verdict_iff`).
-/

namespace Wiretap.Message

set_option autoImplicit false

open Bytes (lf cr)
open Transport (Attempt)

/-! ## The lines of a text -/

/-- The lines of a text, each with its end; the last one may have none. -/
def linesOf : Bytes → List Bytes
  | [] => []
  | b :: rest =>
    if b = lf then [b] :: linesOf rest
    else match linesOf rest with
      | [] => [[b]]
      | line :: lines => (b :: line) :: lines

/-- Whole lines, and perhaps a last one that was torn off before its end. -/
inductive AreLines : List Bytes → Prop where
  | nil : AreLines []
  | torn {line : Bytes} (begun : line ≠ []) (free : lf ∉ line) : AreLines [line]
  | cons {line : Bytes} {lines : List Bytes} (isLine : IsLine line) (others : AreLines lines) :
    AreLines (line :: lines)

theorem flatten_linesOf (text : Bytes) : (linesOf text).flatten = text := by
  induction text with
  | nil => rfl
  | cons b rest ih =>
    rw [linesOf]
    split
    · rw [List.flatten_cons, ih]
      rfl
    · split
      · next none => rw [← ih, none]; rfl
      · next line lines found => rw [← ih, found]; rfl

theorem areLines_linesOf (text : Bytes) : AreLines (linesOf text) := by
  induction text with
  | nil => exact .nil
  | cons b rest ih =>
    rw [linesOf]
    split
    · next same => exact .cons ⟨[], List.not_mem_nil, by rw [same]; rfl⟩ ih
    · next other =>
      have joins {line : Bytes} (free : lf ∉ line) : lf ∉ b :: line :=
        List.not_mem_cons_of_ne_of_not_mem (Ne.symm other) free
      split
      · exact .torn (List.cons_ne_nil b []) (joins List.not_mem_nil)
      · next line lines found =>
        rw [found] at ih
        cases ih with
        | torn _ free => exact .torn (List.cons_ne_nil b line) (joins free)
        | cons isLine others =>
          obtain ⟨body, free, rfl⟩ := isLine
          exact .cons ⟨b :: body, joins free, rfl⟩ others

theorem AreLines.dropWhile {lines : List Bytes} (areLines : AreLines lines) (p : Bytes → Bool) :
    AreLines (lines.dropWhile p) := by
  induction areLines with
  | nil => exact .nil
  | torn begun free =>
    rw [List.dropWhile_cons]
    split
    · exact .nil
    · exact .torn begun free
  | cons isLine others ih =>
    rw [List.dropWhile_cons]
    split
    · exact ih
    · exact .cons isLine others

/-! ## What a text should amount to -/

/-- Everything up to the first empty line, if there is one. -/
def headOf? : List Bytes → Option Bytes
  | [] => none
  | line :: lines => if IsEmptyLine line then some line else (headOf? lines).map (line ++ ·)

/-- What lines amount to behind the bytes of a head that have been taken. -/
def verdictBehind (taken : Bytes) (lines : List Bytes) : HeadEnd :=
  match headOf? lines with
  | some raw =>
    if taken.length + raw.length ≤ headLimit then .complete (taken ++ raw) else .tooLong
  | none => if headLimit < taken.length + lines.flatten.length then .tooLong else .closed

/-- What a text amounts to: the lines behind the empty ones in front of it decide. -/
def verdict (text : Bytes) : HeadEnd :=
  verdictBehind [] ((linesOf text).dropWhile fun line => decide (IsEmptyLine line))

/-- The text ends inside a line. -/
def EndsInLine (text : Bytes) : Prop := ∃ b ∈ text.getLast?, b ≠ lf

instance (text : Bytes) : Decidable (EndsInLine text) :=
  inferInstanceAs (Decidable (∃ b ∈ text.getLast?, b ≠ lf))

/-! ## Reading agrees with that -/

/-- No byte of a line but its last one is a line feed. -/
theorem AreLines.free {line : Bytes} {lines : List Bytes} (areLines : AreLines (line :: lines)) :
    line ≠ [] ∧ lf ∉ line.dropLast := by
  cases areLines with
  | torn begun free => exact ⟨begun, fun member => free (List.dropLast_subset line member)⟩
  | cons isLine others =>
    refine ⟨isLine.ne_nil, ?_⟩
    obtain ⟨body, free, rfl⟩ := isLine
    rwa [List.dropLast_concat]

theorem firstLine_of_free {text : Bytes} (free : lf ∉ text.dropLast) : firstLine text = text := by
  induction text with
  | nil => rfl
  | cons b rest ih =>
    rw [firstLine]
    cases rest with
    | nil => split <;> rfl
    | cons c rest =>
      rw [List.dropLast_cons_cons, List.mem_cons, not_or] at free
      rw [if_neg (Ne.symm free.1), ih free.2]

/-- A line that goes beyond the limit is cut off behind it, and shows that the head is too long. -/
theorem cutLines_of_long {taken line : Bytes} (free : lf ∉ line.dropLast)
    (fits : taken.length ≤ headLimit) (exceeds : headLimit < taken.length + line.length)
    (rest : Bytes) : (cutLines taken (line ++ rest)).1 = .tooLong := by
  have within : headLimit + 1 - taken.length ≤ line.length := by omega
  have unbroken : lf ∉ (line.take (headLimit + 1 - taken.length)).dropLast := by
    refine fun member => free ?_
    rw [List.dropLast_eq_take] at member ⊢
    rw [List.take_take] at member
    refine List.take_subset_take_left line ?_ member
    rw [List.length_take]
    omega
  have cut : nextLine taken (line ++ rest) = line.take (headLimit + 1 - taken.length) := by
    rw [nextLine, List.take_append_of_le_length within, firstLine_of_free unbroken]
  have long : headLimit < taken.length + (line.take (headLimit + 1 - taken.length)).length := by
    rw [List.length_take]
    omega
  have begun : line.take (headLimit + 1 - taken.length) ≠ [] := by
    intro none
    rw [none, List.length_nil] at long
    omega
  rw [cutLines_eq_settle, cut, afterLine_tooLong begun long]
  rfl

/-- A last line that was torn off is taken for one that goes beyond the limit. -/
theorem cutLines_of_torn {taken line : Bytes} (begun : line ≠ []) (free : lf ∉ line)
    (full : ¬ IsEmptyLine line) (within : taken.length + line.length ≤ headLimit) :
    (cutLines taken line).1 = .tooLong := by
  have unbroken : lf ∉ line.dropLast := fun member => free (List.dropLast_subset line member)
  have whole : nextLine taken line = line := by
    rw [nextLine, List.take_of_length_le (by omega), firstLine_of_free unbroken]
  rw [cutLines_eq_settle, whole, afterLine, if_neg begun, if_neg (Nat.not_lt.mpr within),
    if_neg full, if_neg fun last => free (List.mem_of_getLast? last)]
  rfl

/-- What goes beyond the limit with its first line amounts to a head that is too long. -/
theorem verdictBehind_of_long {taken line : Bytes} (lines : List Bytes)
    (exceeds : headLimit < taken.length + line.length) :
    verdictBehind taken (line :: lines) = .tooLong := by
  have beyond (more : Bytes) : headLimit < taken.length + (line ++ more).length := by
    rw [List.length_append]
    omega
  rw [verdictBehind, headOf?, List.flatten_cons]
  by_cases isEmpty : IsEmptyLine line
  · rw [if_pos isEmpty]
    exact if_neg (Nat.not_le.mpr exceeds)
  · rw [if_neg isEmpty]
    cases headOf? lines with
    | none => exact if_pos (beyond lines.flatten)
    | some raw => exact if_neg (Nat.not_le.mpr (beyond raw))

/-- A line of the head only moves on what is decided behind it. -/
theorem verdictBehind_cons {taken line : Bytes} (full : ¬ IsEmptyLine line)
    (lines : List Bytes) :
    verdictBehind taken (line :: lines) = verdictBehind (taken ++ line) lines := by
  rw [verdictBehind, verdictBehind, headOf?, if_neg full]
  cases headOf? lines with
  | none => simp [Nat.add_assoc]
  | some raw => simp [Nat.add_assoc]

theorem not_endsInLine_nil : ¬ EndsInLine [] := by
  simp [EndsInLine]

theorem endsInLine_append {line : Bytes} (isLine : IsLine line) (rest : Bytes) :
    EndsInLine (line ++ rest) ↔ EndsInLine rest := by
  obtain ⟨body, _, rfl⟩ := isLine
  rw [EndsInLine, EndsInLine, List.getLast?_append, List.getLast?_concat]
  cases rest.getLast? <;> simp

theorem endsInLine_of_free {line : Bytes} (begun : line ≠ []) (free : lf ∉ line) :
    EndsInLine line :=
  ⟨line.getLast begun, List.getLast?_eq_some_getLast begun, fun same =>
    free (same ▸ List.getLast_mem begun)⟩

/-- **The loop finds what lines amount to, but for a last line that was torn off within the
limit.**  An empty line ends the head, since the first line is none where nothing has been taken. -/
theorem cutLines_areLines {lines : List Bytes} (areLines : AreLines lines) {taken : Bytes}
    (fits : taken.length ≤ headLimit)
    (begins : taken = [] → ∀ line ∈ lines.head?, ¬ IsEmptyLine line) :
    (cutLines taken lines.flatten).1 =
      if verdictBehind taken lines = .closed ∧ EndsInLine lines.flatten then .tooLong
      else verdictBehind taken lines := by
  induction areLines generalizing taken with
  | nil =>
    have closed : verdictBehind taken [] = .closed := if_neg (Nat.not_lt.mpr fits)
    rw [closed, if_neg fun torn => not_endsInLine_nil torn.2, List.flatten_nil,
      cutLines_eq_settle, nextLine_nil]
    rfl
  | @torn line begun free =>
    have full : ¬ IsEmptyLine line := fun isEmpty => by
      obtain ⟨body, _, rfl⟩ := isEmpty.isLine
      simp at free
    rw [List.flatten_singleton]
    rcases Nat.lt_or_ge headLimit (taken.length + line.length) with exceeds | within
    · rw [verdictBehind_of_long [] exceeds, if_neg fun torn => by cases torn.1]
      simpa using cutLines_of_long (AreLines.torn begun free).free.2 fits exceeds []
    · have closed : verdictBehind taken [line] = .closed := by
        rw [verdictBehind_cons full]
        exact if_neg (Nat.not_lt.mpr (by simpa using within))
      rw [if_pos ⟨closed, endsInLine_of_free begun free⟩]
      exact cutLines_of_torn begun free full within
  | @cons line lines isLine others ih =>
    rw [List.flatten_cons]
    rcases Nat.lt_or_ge headLimit (taken.length + line.length) with exceeds | within
    · rw [verdictBehind_of_long lines exceeds, if_neg fun torn => by cases torn.1]
      exact cutLines_of_long (AreLines.cons isLine others).free.2 fits exceeds lines.flatten
    · rw [cutLines_append isLine within, afterLine, if_neg isLine.ne_nil,
        if_neg (Nat.not_lt.mpr within)]
      by_cases isEmpty : IsEmptyLine line
      · have some_taken : taken ≠ [] := fun none => begins none line rfl isEmpty
        have complete : verdictBehind taken (line :: lines) = .complete (taken ++ line) := by
          rw [verdictBehind, headOf?, if_pos isEmpty]
          exact if_pos within
        rw [if_pos isEmpty, if_neg some_taken, complete, if_neg fun torn => by cases torn.1]
        rfl
      · have ends : line.getLast? = some lf := by
          obtain ⟨body, _, rfl⟩ := isLine
          simp
        have further : (taken ++ line).length ≤ headLimit := by
          rw [List.length_append]
          exact within
        rw [if_neg isEmpty, if_pos ends, verdictBehind_cons isEmpty]
        simp only [endsInLine_append isLine]
        exact ih further fun none => absurd (List.append_eq_nil_iff.mp none).2 isLine.ne_nil

/-! ## Texts -/

/-- A text that ends inside a line, short of the limit and of an empty line. -/
def Torn (text : Bytes) : Prop := verdict text = .closed ∧ EndsInLine text

instance (text : Bytes) : Decidable (Torn text) :=
  inferInstanceAs (Decidable (verdict text = .closed ∧ EndsInLine text))

theorem endsInLine_skip {skipped : List Bytes} (areEmpty : ∀ line ∈ skipped, IsEmptyLine line)
    (rest : Bytes) : EndsInLine (skipped.flatten ++ rest) ↔ EndsInLine rest := by
  induction skipped with
  | nil => exact Iff.rfl
  | cons line skipped ih =>
    obtain ⟨isEmpty, others⟩ := List.forall_mem_cons.mp areEmpty
    rw [List.flatten_cons, List.append_assoc, endsInLine_append isEmpty.isLine, ih others]

/-- **The loop finds what a text amounts to, unless the text is torn.** -/
theorem cutLines_eq_verdict (text : Bytes) :
    (cutLines [] text).1 = if Torn text then .tooLong else verdict text := by
  let isEmpty (line : Bytes) : Bool := decide (IsEmptyLine line)
  have split : text =
      ((linesOf text).takeWhile isEmpty).flatten ++ ((linesOf text).dropWhile isEmpty).flatten := by
    rw [← List.flatten_append, List.takeWhile_append_dropWhile, flatten_linesOf]
  have areEmpty : ∀ line ∈ (linesOf text).takeWhile isEmpty, IsEmptyLine line := fun line member =>
    of_decide_eq_true (List.all_eq_true.mp List.all_takeWhile line member)
  have begins : ∀ line ∈ ((linesOf text).dropWhile isEmpty).head?, ¬ IsEmptyLine line := by
    intro line first
    have stops := List.head?_dropWhile_not isEmpty (linesOf text)
    rw [Option.mem_def.mp first] at stops
    exact of_decide_eq_false stops
  have torn : EndsInLine text ↔ EndsInLine ((linesOf text).dropWhile isEmpty).flatten := by
    conv_lhs => rw [split]
    exact endsInLine_skip areEmpty _
  have found := @cutLines_areLines _ ((areLines_linesOf text).dropWhile isEmpty) []
    (Nat.zero_le _) fun _ => begins
  rw [← cutLines_skip _ areEmpty, ← split] at found
  rw [found]
  simp only [Torn, torn]
  rfl

theorem HeadEnd.result_complete_ne_tooLong (raw : Bytes) :
    (HeadEnd.complete raw).result ≠ .error (.headTooLong headLimit) := by
  rw [HeadEnd.result]
  cases RequestHead.parse raw with
  | error f =>
    intro same
    cases same
  | ok h =>
    intro same
    cases same

/-- **Reading a request comes to what its text amounts to exactly where the text is not torn**,
however the text is delivered.  A torn text is called too long, as the texts are that should be. -/
theorem reads_verdict_iff {capacity : Nat} {chunks : List Bytes} (positive : 0 < capacity)
    (nonempty : ∀ chunk ∈ chunks, chunk ≠ []) :
    ((readRequest (delivery capacity chunks)).1 = .done (verdict chunks.flatten).result ↔
      ¬ Torn chunks.flatten) ∧
    ((readRequest (delivery capacity chunks)).1 = .done (.error (.headTooLong headLimit)) ↔
      verdict chunks.flatten = .tooLong ∨ Torn chunks.flatten) := by
  obtain ⟨read, _⟩ := readRequest_of_delivers (delivers_delivery positive nonempty)
  rw [read, cutLines_eq_verdict]
  by_cases torn : Torn chunks.flatten
  · rw [if_pos torn, torn.1]
    have other : (Attempt.done HeadEnd.tooLong.result : Attempt (Except Fault RequestHead)) ≠
        .done HeadEnd.closed.result := nofun
    exact ⟨iff_of_false other (not_not_intro torn), iff_of_true rfl (.inr torn)⟩
  · rw [if_neg torn]
    refine ⟨iff_of_true rfl torn, ⟨fun same => .inl ?_, fun long => ?_⟩⟩
    · cases found : verdict chunks.flatten with
      | complete raw =>
        rw [found] at same
        exact absurd (Attempt.done.inj same) (HeadEnd.result_complete_ne_tooLong raw)
      | tooLong => rfl
      | closed =>
        rw [found] at same
        cases same
    · rw [long.resolve_right torn]
      rfl

/-- A stream that is closed behind a line of its head, which arrives with its line ends cut in
two. -/
theorem reads_verdict_of_closed :
    let chunks := [[cr], lf :: Bytes.ascii "GET / HTTP/1.1" ++ [cr], [lf]]
    0 < 1 ∧ (∀ chunk ∈ chunks, chunk ≠ []) ∧ verdict chunks.flatten = .closed ∧
      (readRequest (delivery 1 chunks)).1 = .done (.error (.badRequest .closedMidHead)) ∧
      (readRequest (delivery 1 chunks)).1 ≠ .done (.error (.headTooLong headLimit)) := by
  intro chunks
  have nonempty : ∀ chunk ∈ chunks, chunk ≠ [] := by simp [chunks]
  have closed : verdict chunks.flatten = .closed := by decide +kernel
  have whole : ¬ Torn chunks.flatten := by decide +kernel
  obtain ⟨reads, tooLong⟩ := @reads_verdict_iff 1 chunks (by decide) nonempty
  have read := reads.mpr whole
  rw [closed] at read
  refine ⟨by decide, nonempty, closed, read, fun long => ?_⟩
  obtain long | torn := tooLong.mp long
  · rw [closed] at long
    cases long
  · exact whole torn

/-- A stream that is closed behind its first byte, of 65536 that a head may have. -/
theorem torn_called_tooLong :
    let chunks := [Bytes.ascii "G"]
    (∀ chunk ∈ chunks, chunk ≠ []) ∧ chunks.flatten.length < headLimit ∧
      verdict chunks.flatten = .closed ∧
      (readRequest (delivery 8 chunks)).1 ≠ .done (verdict chunks.flatten).result ∧
      (readRequest (delivery 8 chunks)).1 = .done (.error (.headTooLong headLimit)) := by
  intro chunks
  have closed : verdict chunks.flatten = .closed := by decide
  have read : (readRequest (delivery 8 chunks)).1 = .done (.error (.headTooLong headLimit)) := rfl
  refine ⟨by decide, by decide, closed, ?_, read⟩
  rw [closed, read]
  nofun

end Wiretap.Message
