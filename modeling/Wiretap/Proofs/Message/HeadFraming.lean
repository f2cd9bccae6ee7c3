import Mathlib.Tactic.Common
import Wiretap.Proofs.Message.HeadDelivery
import Wiretap.Proofs.Message.HeadScanning
import Wiretap.Transport.Pipe

/-!
# Reader and scanner agree where a head ends

The end of a head is found twice: the reader cuts lines out of the stream up to an empty one, and the
scanner goes through the grammar byte by byte.  Were they to disagree, bytes of one request would be
taken for another.  They agree on every head that is ever cut out of a stream, however the stream
behaves and however often reading it is interrupted (`scanned_as_cut`): the scanner never misses a
byte of it and leaves none, and whatever it finds in the head becomes a method and fields.
-/

namespace Wiretap.Message

set_option autoImplicit false

open Transport (Attempt BufferedSource ByteSource Duplex)

/-! ## Heads that are cut out -/

/-- A reader that has taken some bytes, and finds a head in more of them. -/
theorem isHead_of_feed {r : HeadReader} {taken more raw rest : Bytes}
    (stands : HeadReader.feed {} taken = .ok r)
    (found : r.feed more = .error (.complete raw, rest)) : IsHead raw := by
  have whole : HeadReader.found {} (taken ++ more) = (.complete raw, rest) := by
    rw [HeadReader.found_append_of_ok stands, HeadReader.found, found]
  rw [HeadReader.found_eq_cutLines] at whole
  obtain ⟨_, _, isHead, _⟩ := cutLines_complete_iff.mp whole
  exact isHead

section Attempts

variable {σ : Type} [ByteSource σ]

/-- Behind an attempt to read, the reader has taken more bytes; what it calls complete is a head. -/
theorem headFrom_keeps {fuel : Nat} {r : HeadReader} {s : BufferedSource σ} {taken : Bytes}
    (stands : HeadReader.feed {} taken = .ok r) :
    (∃ more, HeadReader.feed {} (taken ++ more) = .ok (headFrom fuel r s).reader) ∧
      ∀ raw, (headFrom fuel r s).outcome = .done (.complete raw) → IsHead raw := by
  induction fuel generalizing r s taken with
  | zero =>
    exact ⟨⟨[], by rw [List.append_nil]; exact stands⟩, fun _ complete => by cases complete⟩
  | succ fuel ih =>
    have stays : ∃ more, HeadReader.feed {} (taken ++ more) = .ok r :=
      ⟨[], by rw [List.append_nil]; exact stands⟩
    rw [headFrom]
    split
    · exact ⟨stays, fun _ complete => by cases complete⟩
    · exact ⟨stays, fun _ complete => by cases complete⟩
    · next filled _ =>
      split
      · refine ⟨stays, fun raw ended => ?_⟩
        have finished := Attempt.done.inj ended
        rw [HeadReader.finish] at finished
        split at finished <;> cases finished
      · split
        · next found rest fed =>
          refine ⟨stays, fun raw complete => ?_⟩
          rw [Attempt.done.inj complete] at fed
          exact isHead_of_feed stands fed
        · next further fed =>
          have onward : HeadReader.feed {} (taken ++ filled.held) = .ok further := by
            rw [HeadReader.feed_append, stands]
            exact fed
          obtain ⟨⟨more, later⟩, complete⟩ := ih onward
          exact ⟨⟨filled.held ++ more, by rw [← List.append_assoc]; exact later⟩, complete⟩

theorem readHead_keeps {r : HeadReader} {taken : Bytes} (stands : HeadReader.feed {} taken = .ok r)
    (s : BufferedSource σ) :
    (∃ more, HeadReader.feed {} (taken ++ more) = .ok (readHead r s).reader) ∧
      ∀ raw, (readHead r s).outcome = .done (.complete raw) → IsHead raw :=
  headFrom_keeps stands

/-- A reader as an attempt to read a head can have it: a fresh one, or the one that an attempt
before has left, whatever has happened to the stream since. -/
inductive Resumed (σ : Type) [ByteSource σ] : HeadReader → Prop
  | fresh : Resumed σ {}
  | further {r : HeadReader} (s : BufferedSource σ) : Resumed σ r → Resumed σ (readHead r s).reader

theorem Resumed.stands {r : HeadReader} (resumed : Resumed σ r) :
    ∃ taken, HeadReader.feed {} taken = .ok r := by
  induction resumed with
  | fresh => exact ⟨[], rfl⟩
  | further s _ ih =>
    obtain ⟨taken, stands⟩ := ih
    obtain ⟨⟨more, later⟩, _⟩ := readHead_keeps stands s
    exact ⟨taken ++ more, later⟩

end Attempts

/-! ## Heads that are given a meaning -/

theorem collect_of_isField {lines : List (Bytes × Bytes)}
    (areFields : ∀ line ∈ lines, HeadSyntax.IsField line) :
    RequestHead.collect lines = .ok (Fields.ofList lines) := by
  rw [RequestHead.collect, Fields.ofList]
  generalize Fields.empty = before
  induction lines generalizing before with
  | nil => rfl
  | cons line lines ih =>
    obtain ⟨⟨isName, isValue⟩, others⟩ := List.forall_mem_cons.mp areFields
    rw [List.foldlM_cons, isName, isValue]
    exact ih others _

theorem resolve_error {method target : Bytes} {fields : Fields} {why : MalformedHead}
    (failed : RequestHead.resolve method target fields = .error why) : why = .missingHost := by
  unfold RequestHead.resolve at failed
  split at failed
  · cases failed
  · split at failed
    · cases failed
    · split at failed
      · cases failed
      · cases failed
        rfl

/-- Parts that can be converted make a head, unless no host can be read off them. -/
theorem parse_of_convertible {raw rest : Bytes} {parts : HeadSyntax.Parts} {why : MalformedHead}
    (scanned : HeadSyntax.head raw = .ok (parts, rest)) (convertible : parts.Convertible)
    (failed : RequestHead.parse raw = .error why) : why = .missingHost := by
  obtain ⟨⟨some_method, tokens⟩, areFields⟩ := convertible
  have isMethod : (parts.method.isEmpty || !parts.method.all Bytes.isToken) = false := by
    simp [tokens, some_method]
  rw [RequestHead.parse, scanned] at failed
  simp only [isMethod, collect_of_isField areFields, bind, Except.bind] at failed
  cases resolved : RequestHead.resolve parts.method parts.target (Fields.ofList parts.lines) with
  | ok addressed =>
    rw [resolved] at failed
    cases failed
  | error why' =>
    rw [resolved] at failed
    cases failed
    exact resolve_error resolved

/-- **Reader and scanner frame alike.**  Of every head that reading cuts out of a stream the scanner
misses no byte and leaves none, whatever follows the head; and a head is refused for a fault in its
syntax or for want of a host, never for a method, a name or a value in it. -/
theorem scanned_as_cut {σ : Type} [ByteSource σ] {r : HeadReader} {s : BufferedSource σ}
    {raw : Bytes} (resumed : Resumed σ r)
    (found : (readHead r s).outcome = .done (.complete raw)) :
    HeadSyntax.head raw ≠ .error .short ∧
    (∀ parts rest, HeadSyntax.head raw = .ok (parts, rest) → rest = []) ∧
    (∀ more, HeadSyntax.head (raw ++ more) =
      (HeadSyntax.head raw).map fun scanned => (scanned.1, more)) ∧
    (∀ why, RequestHead.parse raw = .error why → (∃ f, why = .syntactic f) ∨ why = .missingHost) := by
  obtain ⟨taken, stands⟩ := resumed.stands
  have isHead : IsHead raw := (readHead_keeps stands s).2 raw found
  rcases HeadSyntax.settles_head isHead with ⟨f, faulty⟩ | ⟨parts, _, ⟨convertible, rfl⟩, scanned⟩
  · have alone : HeadSyntax.head raw = .error (.fault f) := by simpa using faulty []
    refine ⟨by rw [alone]; nofun, by rw [alone]; nofun, fun more => ?_, fun why failed => ?_⟩
    · rw [faulty, alone]
      rfl
    · rw [RequestHead.parse, alone] at failed
      cases failed
      exact .inl ⟨f, rfl⟩
  · have alone : HeadSyntax.head raw = .ok (parts, []) := by simpa using scanned []
    refine ⟨by rw [alone]; nofun, fun parts' rest same => ?_, fun more => ?_, fun why failed => ?_⟩
    · rw [alone] at same
      cases same
      rfl
    · rw [scanned, alone]
      rfl
    · exact .inr (parse_of_convertible alone convertible failed)

/-- A stream at whose end somebody still writes, with these bytes on the way. -/
def arriving (bytes : Bytes) : BufferedSource Duplex :=
  ⟨{ capacity := 8192 }, ⟨{ capacity := 8192, held := bytes }, { capacity := 8192 }⟩⟩

/-- A head of which the first bytes come alone, so that reading it has to be resumed, is framed
alike, with bytes of another request behind it. -/
theorem scanned_as_cut_of_resumed :
    let first := readHead {} (arriving (Bytes.ascii "\r\nGET / HT"))
    let second := readHead first.reader (arriving (Bytes.ascii "TP/1.1\r\nHost: h\r\n\r\nGET"))
    let raw := Bytes.ascii "GET / HTTP/1.1\r\nHost: h\r\n\r\n"
    first.outcome = .blocked ∧ second.outcome = .done (.complete raw) ∧
      HeadSyntax.head raw ≠ .error .short ∧
      ∀ parts rest, HeadSyntax.head raw = .ok (parts, rest) → rest = [] := by
  intro first second raw
  have resumed : Resumed Duplex first.reader := .further _ .fresh
  have found : second.outcome = .done (.complete raw) := by decide +kernel
  obtain ⟨enough, whole, _⟩ := scanned_as_cut resumed found
  exact ⟨by decide +kernel, found, enough, whole⟩

end Wiretap.Message
