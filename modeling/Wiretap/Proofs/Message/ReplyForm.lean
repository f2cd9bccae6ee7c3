import Wiretap.Message.Fields
import Wiretap.Message.Reply
import Wiretap.Proofs.Message.FieldGroups
import Wiretap.WebSocket.Handshake

/-!
# The form of a reply

A complete response is a line with the status, lines of fields, an empty line, and as many bytes as
its only `Content-Length` says (`IsResponse`).  The replies of the proxy are such responses
(`isResponse_plainText`), and so is every response that it relays, whatever fields the other host
gave it, as long as they are fields at all (`isResponse_head`).
-/

namespace Wiretap.Message

set_option autoImplicit false

open Fields (isName isValue valuesOf)

/-! ## What a response is made of -/

/-- A line with the status: the version, a code of three digits and a phrase. -/
def IsStatusLine (line : Bytes) : Prop :=
  ∃ (code : Nat) (phrase : Bytes), (100 ≤ code ∧ code ≤ 999) ∧ isValue phrase ∧
    line = Bytes.ascii "HTTP/1.1 " ++ Reply.decimal code ++ [Bytes.space] ++ phrase ++ Bytes.crlf

/-- Names and values that lines of fields can hold. -/
def AreFieldLines (lines : List (Bytes × Bytes)) : Prop :=
  ∀ line ∈ lines, isName line.1 ∧ isValue line.2

/-- The lines of some fields. -/
def fieldLines (lines : List (Bytes × Bytes)) : Bytes :=
  lines.flatMap fun line => Reply.fieldLine line.1 line.2

/-- A complete response. -/
def IsResponse (b : Bytes) : Prop :=
  ∃ (status : Bytes) (lines : List (Bytes × Bytes)) (body : Bytes), IsStatusLine status ∧
    AreFieldLines lines ∧ valuesOf lines Name.contentLength = [Reply.decimal body.length] ∧
    b = status ++ fieldLines lines ++ Bytes.crlf ++ body

/-- A head that opens a tunnel: it says that the tunnel is there, or that the protocol is
switched. -/
def IsTunnelHead (b : Bytes) : Prop :=
  b = Reply.tunnelOpen ∨ ∃ lines : List (Bytes × Bytes), AreFieldLines lines ∧
    b = Bytes.ascii "HTTP/1.1 101 Switching Protocols\r\n" ++ fieldLines lines ++ Bytes.crlf

/-! ## Texts that lines can hold -/

theorem isFieldContent_of_isVisible {b : UInt8} (visible : Bytes.isVisible b) :
    Bytes.isFieldContent b := by
  have every : ∀ n : Fin 256, Bytes.isVisible ⟨⟨n⟩⟩ → Bytes.isFieldContent ⟨⟨n⟩⟩ := by
    decide +kernel
  exact every b.toBitVec.toFin visible

theorem isValue_of_isVisible {b : Bytes} (visible : b.all Bytes.isVisible) : isValue b :=
  List.all_eq_true.mpr fun x member =>
    isFieldContent_of_isVisible (List.all_eq_true.mp visible x member)

theorem decimal_eq_map (n : Nat) :
    Reply.decimal n = (Nat.toDigits 10 n).map fun c => c.toNat.toUInt8 := by
  rw [Reply.decimal, Bytes.ascii, Nat.repr, String.toList_ofList]

/-- The characters of a number are digits. -/
theorem toNat_of_mem_toDigits {n : Nat} {c : Char} (digit : c ∈ Nat.toDigits 10 n) :
    48 ≤ c.toNat ∧ c.toNat ≤ 57 := by
  obtain ⟨low, high⟩ :=
    Bool.and_eq_true_iff.mp (Nat.isDigit_of_mem_toDigits (by decide) (by decide) digit)
  exact ⟨UInt32.le_iff_toNat_le.mp (of_decide_eq_true low),
    UInt32.le_iff_toNat_le.mp (of_decide_eq_true high)⟩

theorem mem_decimal {n : Nat} {b : UInt8} (member : b ∈ Reply.decimal n) :
    ∃ k : Fin 58, 48 ≤ k.val ∧ b = k.val.toUInt8 := by
  rw [decimal_eq_map, List.mem_map] at member
  obtain ⟨c, digit, rfl⟩ := member
  obtain ⟨low, high⟩ := toNat_of_mem_toDigits digit
  exact ⟨⟨c.toNat, Nat.lt_succ_of_le high⟩, low, rfl⟩

theorem isValue_decimal (n : Nat) : isValue (Reply.decimal n) := by
  have digits : ∀ k : Fin 58, 48 ≤ k.val → Bytes.isFieldContent k.val.toUInt8 := by decide
  refine List.all_eq_true.mpr fun b member => ?_
  obtain ⟨k, low, rfl⟩ := mem_decimal member
  exact digits k low

theorem mem_quad {n : Nat} {c : Char} (member : c ∈ Text.Base64.quad n) :
    ∃ k : Fin 64, c = Text.Base64.digit k := by
  simp only [Text.Base64.quad, List.mem_cons, List.not_mem_nil, or_false] at member
  have digit (m : Nat) : ∃ k : Fin 64, Text.Base64.digit (m % 64) = Text.Base64.digit k :=
    ⟨⟨m % 64, Nat.mod_lt _ (by decide)⟩, rfl⟩
  obtain rfl | rfl | rfl | rfl := member <;> exact digit _

/-- Base 64 is written with digits and equals signs. -/
theorem mem_encode {b : Bytes} {c : Char} (member : c ∈ Text.Base64.encode b) :
    c = '=' ∨ ∃ k : Fin 64, c = Text.Base64.digit k := by
  induction b using Text.Base64.encode.induct with
  | case1 => cases member
  | case2 a =>
    obtain digit | mark := List.mem_append.mp member
    · exact .inr (mem_quad (List.mem_of_mem_take digit))
    · exact .inl (by simpa using mark)
  | case3 a b =>
    obtain digit | mark := List.mem_append.mp member
    · exact .inr (mem_quad (List.mem_of_mem_take digit))
    · exact .inl (by simpa using mark)
  | case4 a b c rest ih =>
    obtain digit | further := List.mem_append.mp member
    · exact .inr (mem_quad digit)
    · exact ih further

theorem isValue_encode (b : Bytes) :
    isValue (Bytes.ascii (String.ofList (Text.Base64.encode b))) := by
  have digits : ∀ k : Fin 64, Bytes.isFieldContent (Text.Base64.digit k).toNat.toUInt8 := by decide
  refine List.all_eq_true.mpr fun x member => ?_
  rw [Bytes.ascii, String.toList_ofList, List.mem_map] at member
  obtain ⟨c, written, rfl⟩ := member
  obtain rfl | ⟨k, rfl⟩ := mem_encode written
  · rfl
  · exact digits k

/-- The phrases that are registered fit on a line. -/
theorem isValue_phrase (s : Status) : isValue (Bytes.ascii s.phrase) := by
  have registered : ∀ p ∈ Status.phrases, isValue (Bytes.ascii p.2) := by decide +kernel
  rw [Status.phrase]
  cases found : Status.phrases.lookup s.code with
  | none => rfl
  | some phrase =>
    obtain ⟨before, after, split, _⟩ := List.lookup_eq_some_iff.mp found
    refine registered (s.code, phrase) ?_
    rw [split]
    exact List.mem_append_right _ List.mem_cons_self

theorem isStatusLine_statusLine (s : Status) : IsStatusLine (Reply.statusLine s) :=
  ⟨s.code, _, s.three_digits, isValue_phrase s, rfl⟩

/-! ## Replies -/

/-- **A reply of the proxy is a complete response.** -/
theorem isResponse_plainText (s : Status) (body : Bytes) :
    IsResponse (Reply.plainText s body) := by
  have type : isName (Bytes.ascii "Content-Type") ∧ isValue (Bytes.ascii "text/plain") := by decide
  have length : isName (Bytes.ascii "Content-Length") := by decide
  refine ⟨_, [(Bytes.ascii "Content-Type", Bytes.ascii "text/plain"),
    (Bytes.ascii "Content-Length", Reply.decimal body.length)], body, isStatusLine_statusLine s,
    ?_, rfl, ?_⟩
  · exact List.forall_mem_cons.mpr ⟨type, List.forall_mem_singleton.mpr ⟨length, isValue_decimal _⟩⟩
  · simp [Reply.plainText, fieldLines]

namespace Fields

/-- Whether the names of some fields are names in lower case, and their values are values. -/
def areFields (f : Fields) : Bool :=
  f.groups.all fun g => isName g.name && g.name.fold == g.name && g.values.all isValue

/-- A name of some fields is a name in lower case, and its values are values. -/
theorem of_areFields {f : Fields} (proper : f.areFields) {g : FieldGroup} (member : g ∈ f.groups) :
    isName g.name ∧ g.name.fold = g.name ∧ ∀ v ∈ g.values, isValue v := by
  have all := List.all_eq_true.mp proper g member
  rw [Bool.and_eq_true, Bool.and_eq_true, beq_iff_eq, List.all_eq_true] at all
  exact ⟨all.1.1, all.1.2, all.2⟩

/-- The fields that are kept are those whose names are, in their order. -/
theorem toList_keep (f : Fields) (p : Bytes → Bool) :
    (f.keep p).toList = f.toList.filter fun line => p line.1 := by
  rw [keep, toList, toList]
  induction f.groups with
  | nil => rfl
  | cons g groups ih =>
    have together : (g.values.map fun v => (g.name, v)).filter (fun line => p line.1) =
        if p g.name then g.values.map fun v => (g.name, v) else [] := by
      split <;> simp [*]
    rw [List.flatMap_cons, List.filter_append, ← ih, together, List.filter_cons]
    split <;> simp

theorem areFields_keep {f : Fields} (proper : f.areFields) (p : Bytes → Bool) :
    (f.keep p).areFields :=
  List.all_eq_true.mpr fun g member =>
    List.all_eq_true.mp proper g (List.mem_of_mem_filter member)

theorem areFieldLines_toList {f : Fields} (proper : f.areFields) : AreFieldLines f.toList := by
  intro line member
  obtain ⟨g, inGroups, inGroup⟩ := List.mem_flatMap.mp member
  obtain ⟨v, value, rfl⟩ := List.mem_map.mp inGroup
  obtain ⟨name, _, values⟩ := of_areFields proper inGroups
  exact ⟨name, values v value⟩

/-- A name that is not kept has no values among those that are. -/
theorem valuesOf_keep {f : Fields} (proper : f.areFields) {p : Bytes → Bool} {name : Bytes}
    (dropped : p name = false) : valuesOf (f.keep p).toList name = [] := by
  rw [valuesOf, List.map_eq_nil_iff, List.filter_eq_nil_iff]
  intro line member same
  obtain ⟨g, inGroups, inGroup⟩ := List.mem_flatMap.mp member
  obtain ⟨v, _, rfl⟩ := List.mem_map.mp inGroup
  obtain ⟨inFields, kept⟩ := List.mem_filter.mp inGroups
  have folded : g.name = name := (of_areFields proper inFields).2.1.symm.trans (eq_of_beq same)
  rw [folded, dropped] at kept
  cases kept

end Fields

/-- **A response that is relayed is complete**, whatever fields it came with. -/
theorem isResponse_head {fields : Fields} (proper : fields.areFields) (s : Status)
    (body : Bytes) : IsResponse (Reply.head s fields body.length ++ body) := by
  have length : isName (Bytes.ascii "Content-Length") := by decide
  have connection : isName (Bytes.ascii "Connection") ∧ isValue (Bytes.ascii "close") := by decide
  refine ⟨_, (fields.keep Reply.isKept).toList ++
    [(Bytes.ascii "Content-Length", Reply.decimal body.length),
      (Bytes.ascii "Connection", Bytes.ascii "close")], body, isStatusLine_statusLine s, ?_, ?_, ?_⟩
  · exact List.forall_mem_append.mpr ⟨Fields.areFieldLines_toList (Fields.areFields_keep proper _),
      List.forall_mem_cons.mpr ⟨⟨length, isValue_decimal _⟩,
        List.forall_mem_singleton.mpr connection⟩⟩
  · rw [valuesOf, List.filter_append, List.map_append]
    exact congrArg (· ++ _) (Fields.valuesOf_keep proper rfl)
  · simp [Reply.head, fieldLines]

end Wiretap.Message
