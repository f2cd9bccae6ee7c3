import Mathlib.Tactic.SplitIfs
import Wiretap.Address.Ip
import Wiretap.Text.Preview

/-!
# Previews tell payloads apart

The printable form of a byte can be read back in front of whatever follows it
(`unescape?_escapeByte`).  So a run of printable forms can be cut in one way only into the forms of
as many bytes (`escape_append_inj`), which says where the bytes shown end and what is behind them.

A payload that is shown whole has nothing behind its bytes, and one that was cut has shown as many
bytes as a preview can and has its mark behind them.  A payload that spells a mark out spells it in
bytes of its own, and is found to be another one when these are read back
(`preview_is_unambiguous`).
-/

namespace Wiretap.Text

set_option autoImplicit false

/-! ## Printable forms -/

/-- The characters of printable ASCII. -/
def IsPrintable (c : Char) : Prop := ' ' ≤ c ∧ c ≤ '~'

instance (c : Char) : Decidable (IsPrintable c) := inferInstanceAs (Decidable (_ ∧ _))

theorem isPrintable_of_mem_escapeByte (b : UInt8) : ∀ c ∈ escapeByte b, IsPrintable c := by
  have every : ∀ n : Fin 256, (escapeByte ⟨⟨n⟩⟩).all (decide <| IsPrintable ·) := by
    decide +kernel
  intro c member
  exact of_decide_eq_true (List.all_eq_true.mp (every b.toBitVec.toFin) c member)

theorem length_escapeByte (b : UInt8) :
    0 < (escapeByte b).length ∧ (escapeByte b).length ≤ 4 := by
  have every : ∀ n : Fin 256, 0 < (escapeByte ⟨⟨n⟩⟩).length ∧ (escapeByte ⟨⟨n⟩⟩).length ≤ 4 := by
    decide +kernel
  exact every b.toBitVec.toFin

/-- The byte that a letter stands for behind a backslash. -/
def unescapeLetter : Char → UInt8
  | 't' => 0x09
  | 'n' => 0x0a
  | 'r' => 0x0d
  | c => c.toNat.toUInt8

/-- The byte that two hexadecimal digits stand for. -/
def unhex (high low : Char) : UInt8 :=
  let digit c := (Address.Literal.hexValue? c).getD 0
  (digit high * 16 + digit low).toUInt8

/-- Reads one printable form back, and gives what is behind it. -/
def unescape? : List Char → Option (UInt8 × List Char)
  | '\\' :: 'x' :: high :: low :: rest => some (unhex high low, rest)
  | '\\' :: letter :: rest => some (unescapeLetter letter, rest)
  | c :: rest => some (c.toNat.toUInt8, rest)
  | [] => none

theorem unhex_hexPair (b : UInt8) :
    unhex (Bytes.hexDigit (b.toNat / 16)) (Bytes.hexDigit (b.toNat % 16)) = b := by
  have every : ∀ n : Fin 256,
      unhex (Bytes.hexDigit (n.val / 16)) (Bytes.hexDigit (n.val % 16)) = ⟨⟨n⟩⟩ := by
    decide +kernel
  exact every b.toBitVec.toFin

/-- A byte that stands for itself is read back from its character. -/
theorem toUInt8_ofNat_toNat (b : UInt8) : (Char.ofNat b.toNat).toNat.toUInt8 = b := by
  have every : ∀ n : Fin 256, (Char.ofNat n.val).toNat.toUInt8 = ⟨⟨n⟩⟩ := by decide +kernel
  exact every b.toBitVec.toFin

/-- **The printable form of a byte is read back**, whatever is behind it. -/
theorem unescape?_escapeByte (b : UInt8) (rest : List Char) :
    unescape? (escapeByte b ++ rest) = some (b, rest) := by
  unfold escapeByte
  split_ifs with tab lf cr quote tick slash plain
  · rw [tab]; rfl
  · rw [lf]; rfl
  · rw [cr]; rfl
  · rw [quote]; rfl
  · rw [tick]; rfl
  · rw [slash]; rfl
  · have other : Char.ofNat b.toNat ≠ '\\' := by
      intro same
      refine slash ?_
      rw [← toUInt8_ofNat_toNat b, same]
      rfl
    change unescape? (Char.ofNat b.toNat :: rest) = _
    rw [unescape?, toUInt8_ofNat_toNat]
    · intro _ _ _ same
      exact absurd same other
    · intro _ _ same
      exact absurd same other
  · change some (unhex _ _, rest) = _
    rw [unhex_hexPair]

/-! ## Runs of printable forms -/

theorem escape_cons (b : UInt8) (data : Bytes) : escape (b :: data) = escapeByte b ++ escape data :=
  List.flatMap_cons

theorem escape_append (data rest : Bytes) : escape (data ++ rest) = escape data ++ escape rest :=
  List.flatMap_append

theorem isPrintable_of_mem_escape {data : Bytes} {c : Char} (member : c ∈ escape data) :
    IsPrintable c := by
  obtain ⟨b, _, inForm⟩ := List.mem_flatMap.mp member
  exact isPrintable_of_mem_escapeByte b c inForm

/-- Each byte is shown by one to four characters. -/
theorem length_escape (data : Bytes) :
    data.length ≤ (escape data).length ∧ (escape data).length ≤ 4 * data.length := by
  induction data with
  | nil => exact ⟨Nat.le_refl 0, Nat.le_refl 0⟩
  | cons b data ih =>
    have form := length_escapeByte b
    rw [escape_cons, List.length_append, List.length_cons]
    omega

/-- **A run of printable forms is cut in one way** into the forms of as many bytes. -/
theorem escape_append_inj {data other : Bytes} {rest rest' : List Char}
    (same : escape data ++ rest = escape other ++ rest') (long : data.length = other.length) :
    data = other ∧ rest = rest' := by
  induction data generalizing other with
  | nil =>
    cases List.length_eq_zero_iff.mp long.symm
    exact ⟨rfl, same⟩
  | cons b data ih =>
    obtain _ | ⟨b', other⟩ := other
    · cases long
    rw [escape_cons, escape_cons, List.append_assoc, List.append_assoc] at same
    have read := congrArg unescape? same
    rw [unescape?_escapeByte, unescape?_escapeByte, Option.some.injEq, Prod.mk.injEq] at read
    obtain ⟨rfl, behind⟩ := read
    obtain ⟨rfl, rest⟩ := ih behind (Nat.succ.inj long)
    exact ⟨rfl, rest⟩

/-- What begins with the forms of more bytes than are shown goes on behind the ones that are. -/
theorem rest_ne_nil_of_length_lt {data other : Bytes} {rest rest' : List Char}
    (same : escape data ++ rest = escape other ++ rest') (more : data.length < other.length) :
    rest ≠ [] := by
  rintro rfl
  have cut : other = other.take data.length ++ other.drop data.length :=
    (List.take_append_drop _ _).symm
  rw [cut, escape_append, List.append_assoc] at same
  have long : data.length = (other.take data.length).length :=
    (List.length_take_of_le (Nat.le_of_lt more)).symm
  have behind := (escape_append_inj same long).2
  have shown := (length_escape (other.drop data.length)).1
  rw [(List.append_eq_nil_iff.mp behind.symm).1, List.length_drop, List.length_nil] at shown
  omega

/-! ## Previews -/

/-- What stands behind the bytes that a preview shows. -/
def markOf (data : Bytes) : List Char :=
  if previewLimit < data.length then previewMark data.length else []

theorem markOf_of_lt {data : Bytes} (long : previewLimit < data.length) :
    markOf data = previewMark data.length := if_pos long

theorem markOf_of_le {data : Bytes} (short : data.length ≤ previewLimit) : markOf data = [] :=
  if_neg (Nat.not_lt_of_le short)

theorem toList_preview (data : Bytes) :
    (preview data).toList = escape (data.take previewLimit) ++ markOf data :=
  String.toList_ofList

theorem previewMark_ne_nil (n : Nat) : previewMark n ≠ [] :=
  List.cons_ne_nil _ _

/-- A mark says how long the payload is. -/
theorem previewMark_injective : Function.Injective previewMark := by
  intro m n same
  rw [previewMark, previewMark, List.append_assoc, List.append_assoc] at same
  have digits := List.append_cancel_right (List.append_cancel_left same)
  rw [Nat.repr, Nat.repr, String.toList_ofList, String.toList_ofList] at digits
  have value (k : Nat) : Nat.ofDigitChars 10 (Nat.toDigits 10 k) 0 = k :=
    Nat.ofDigitChars_toDigits (by decide) (by decide)
  rw [← value m, digits, value]

theorem isPrintable_of_mem_previewMark {n : Nat} {c : Char} (member : c ∈ previewMark n) :
    IsPrintable c := by
  rw [previewMark, List.mem_append, List.mem_append] at member
  obtain (opens | digit) | closes := member
  · have every : "... (".toList.all (decide <| IsPrintable ·) := by decide
    exact of_decide_eq_true (List.all_eq_true.mp every c opens)
  · rw [Nat.repr, String.toList_ofList] at digit
    obtain ⟨low, high⟩ :=
      Bool.and_eq_true_iff.mp (Nat.isDigit_of_mem_toDigits (by decide) (by decide) digit)
    exact ⟨Char.le_trans (by decide) (of_decide_eq_true low),
      Char.le_trans (of_decide_eq_true high) (by decide)⟩
  · have every : " bytes total)".toList.all (decide <| IsPrintable ·) := by decide
    exact of_decide_eq_true (List.all_eq_true.mp every c closes)

/-- Payloads look the same if they are the same, or if both are cut, are as long, and begin with the
same bytes. -/
inductive LooksLike : Bytes → Bytes → Prop where
  | same (data : Bytes) : LooksLike data data
  | cut {data other : Bytes} (long : previewLimit < data.length)
    (length : data.length = other.length)
    (begins : data.take previewLimit = other.take previewLimit) : LooksLike data other

theorem LooksLike.preview_eq {data other : Bytes} (looks : LooksLike data other) :
    preview data = preview other := by
  cases looks with
  | same => rfl
  | cut long length begins =>
    refine String.toList_inj.mp ?_
    rw [toList_preview, toList_preview, begins, markOf_of_lt long, length,
      markOf_of_lt (length ▸ long)]

/-- Payloads with one preview show as many bytes, since one that shows fewer than a preview can was
not cut. -/
theorem length_shown_le {data other : Bytes} (same : preview data = preview other) :
    (other.take previewLimit).length ≤ (data.take previewLimit).length := by
  refine Nat.le_of_not_lt fun more => ?_
  have chars := congrArg String.toList same
  rw [toList_preview, toList_preview] at chars
  have short : data.length ≤ previewLimit := by
    rw [List.length_take, List.length_take] at more
    omega
  exact rest_ne_nil_of_length_lt chars more (markOf_of_le short)

/-- **Payloads with one preview look the same.** -/
theorem looksLike_of_preview_eq {data other : Bytes} (same : preview data = preview other) :
    LooksLike data other := by
  have chars := congrArg String.toList same
  rw [toList_preview, toList_preview] at chars
  obtain ⟨begins, marks⟩ := escape_append_inj chars
    (Nat.le_antisymm (length_shown_le same.symm) (length_shown_le same))
  obtain long | short := Nat.lt_or_ge previewLimit data.length
  · obtain long' | short' := Nat.lt_or_ge previewLimit other.length
    · rw [markOf_of_lt long, markOf_of_lt long'] at marks
      exact .cut long (previewMark_injective marks) begins
    · rw [markOf_of_lt long, markOf_of_le short'] at marks
      exact absurd marks (previewMark_ne_nil _)
  · obtain long' | short' := Nat.lt_or_ge previewLimit other.length
    · rw [markOf_of_le short, markOf_of_lt long'] at marks
      exact absurd marks.symm (previewMark_ne_nil _)
    · rw [List.take_of_length_le short, List.take_of_length_le short'] at begins
      exact begins ▸ .same data

/-- A text previews a payload. -/
structure Previews (data : Bytes) (text : String) : Prop where
  printable : ∀ c ∈ text.toList, IsPrintable c
  /-- Each byte shown takes four characters at most, and behind them is the mark with the length of
  the payload if it is longer than what is shown, and nothing otherwise. -/
  bounded : ∃ shown mark, text.toList = shown ++ mark ∧ shown.length ≤ 4 * previewLimit ∧
    (previewLimit < data.length ∧ mark = previewMark data.length ∨
      data.length ≤ previewLimit ∧ mark = [])
  /-- The payloads that have this preview are the ones that look the same. -/
  tells : ∀ other, preview other = text ↔ LooksLike data other
  /-- A payload that is not cut shares its preview with no other. -/
  whole : data.length ≤ previewLimit → ∀ other, preview other = text → other = data

/-- **Previews are bounded and tell payloads apart.** -/
theorem preview_is_unambiguous (data : Bytes) : Previews data (preview data) where
  printable c member := by
    rw [toList_preview, List.mem_append] at member
    obtain shown | mark := member
    · exact isPrintable_of_mem_escape shown
    · obtain long | short := Nat.lt_or_ge previewLimit data.length
      · rw [markOf_of_lt long] at mark
        exact isPrintable_of_mem_previewMark mark
      · rw [markOf_of_le short] at mark
        cases mark
  bounded := by
    refine ⟨_, _, toList_preview data, ?_, ?_⟩
    · have taken : (data.take previewLimit).length ≤ previewLimit := List.length_take_le _ _
      exact Nat.le_trans (length_escape _).2 (Nat.mul_le_mul_left 4 taken)
    · obtain long | short := Nat.lt_or_ge previewLimit data.length
      · exact .inl ⟨long, markOf_of_lt long⟩
      · exact .inr ⟨short, markOf_of_le short⟩
  tells other := ⟨fun same => looksLike_of_preview_eq same.symm, fun looks => looks.preview_eq.symm⟩
  whole short other same := by
    cases looksLike_of_preview_eq same.symm with
    | same => rfl
    | cut long => exact absurd long (Nat.not_lt_of_le short)

end Wiretap.Text
