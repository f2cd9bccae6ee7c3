import Mathlib.Data.List.Basic
import Mathlib.Tactic.Common
import Wiretap.Message.HeadStream
import Wiretap.Proofs.Message.HeadLines
import Wiretap.Transport.Chunks

/-!
# Heads do not depend on how a stream is delivered

A stream is delivered in chunks and read through a buffer of some capacity.  What is still to be
read is what the buffer holds and then the chunks; only that text decides what reading a request
gives and what it leaves (`readRequest_of_delivers`).  The bytes in front of a head that is found
are empty lines, and the bytes behind it are left, so heads that stand one behind the other are read
one after the other (`readRequests_heads`).
-/

namespace Wiretap.Message

set_option autoImplicit false

open Transport (Attempt BufferedSource ByteSource Chunks)

/-! ## Deliveries -/

/-- What is still to be read. -/
def unread (s : BufferedSource Chunks) : Bytes := s.held ++ s.source.bytes

/-- A buffer that can hold something, in front of a stream whose chunks all hold something, so that
nothing but the end of the stream reads as its end. -/
structure Delivers (s : BufferedSource Chunks) (text : Bytes) : Prop where
  positive : 0 < s.buffer.capacity
  nonempty : ∀ chunk ∈ s.source.chunks, chunk ≠ []
  whole : unread s = text

/-- A stream of which nothing has been read. -/
def delivery (capacity : Nat) (chunks : List Bytes) : BufferedSource Chunks :=
  ⟨⟨capacity, []⟩, ⟨chunks⟩⟩

theorem delivers_delivery {capacity : Nat} {chunks : List Bytes} (positive : 0 < capacity)
    (nonempty : ∀ chunk ∈ chunks, chunk ≠ []) :
    Delivers (delivery capacity chunks) chunks.flatten :=
  ⟨positive, nonempty, rfl⟩

/-- One attempt to read takes some of the bytes that are still to arrive, in order, and takes none
only when none are left. -/
theorem read_chunks {n : Nat} (positive : 0 < n) (c : Chunks)
    (nonempty : ∀ chunk ∈ c.chunks, chunk ≠ []) :
    ∃ piece left, ByteSource.read n c = (.done piece, left) ∧ piece ++ left.bytes = c.bytes ∧
      (∀ chunk ∈ left.chunks, chunk ≠ []) ∧ (piece = [] → c.bytes = []) := by
  obtain ⟨chunks⟩ := c
  cases chunks with
  | nil => exact ⟨[], ⟨[]⟩, rfl, rfl, nonempty, fun _ => rfl⟩
  | cons chunk chunks =>
    have some_bytes : chunk ≠ [] := nonempty chunk (by simp)
    have others : ∀ c ∈ chunks, c ≠ [] := fun c member => nonempty c (List.mem_cons_of_mem _ member)
    by_cases fits : chunk.length ≤ n
    · refine ⟨chunk, ⟨chunks⟩, if_pos fits, rfl, others, fun none => absurd none some_bytes⟩
    · refine ⟨chunk.take n, ⟨chunk.drop n :: chunks⟩, if_neg fits, ?_, ?_, fun none => ?_⟩
      · simp only [Chunks.bytes, List.flatten_cons]
        rw [← List.append_assoc, List.take_append_drop]
      · intro c member
        rcases List.mem_cons.mp member with rfl | further
        · intro none
          exact fits (List.drop_eq_nil_iff.mp none)
        · exact others c further
      · rcases List.take_eq_nil_iff.mp none with zero | none
        · omega
        · exact absurd none some_bytes

/-- Filling the buffer moves bytes to it, and leaves it empty only when none are left. -/
theorem fill_of_delivers {s : BufferedSource Chunks} {text : Bytes} (delivers : Delivers s text) :
    ∃ filled, s.fill = (.done (), filled) ∧ Delivers filled text ∧
      (filled.held = [] → text = []) := by
  obtain ⟨positive, nonempty, whole⟩ := delivers
  by_cases none_held : s.held = []
  · obtain ⟨piece, left, read, split, others, ended⟩ :=
      read_chunks positive s.source nonempty
    have arriving : s.source.bytes = text := by simpa [unread, none_held] using whole
    refine ⟨({ s with source := left } : BufferedSource Chunks).hold piece, ?_,
      ⟨positive, others, split.trans arriving⟩, fun none => arriving ▸ ended none⟩
    simp [BufferedSource.fill, none_held, read]
  · refine ⟨s, ?_, ⟨positive, nonempty, whole⟩, fun none => absurd none none_held⟩
    simp [BufferedSource.fill, none_held]

/-! ## Reading a head -/

namespace HeadReader

theorem feed_append (r : HeadReader) (first second : Bytes) :
    r.feed (first ++ second) =
      match r.feed first with
      | .error (e, rest) => .error (e, rest ++ second)
      | .ok further => further.feed second := by
  induction first generalizing r with
  | nil => rfl
  | cons b first ih =>
    rw [List.cons_append, feed, feed]
    cases r.step b with
    | error e => rfl
    | ok further => exact ih further

/-- The bytes that a reader leaves stand behind those that it has taken. -/
theorem feed_error_split {r : HeadReader} {text rest : Bytes} {e : HeadEnd}
    (fed : r.feed text = .error (e, rest)) : ∃ taken, text = taken ++ rest := by
  induction text generalizing r with
  | nil => cases fed
  | cons b text ih =>
    rw [feed] at fed
    split at fed
    · obtain ⟨taken, split⟩ := ih fed
      exact ⟨b :: taken, congrArg (b :: ·) split⟩
    · cases fed
      exact ⟨[b], rfl⟩

theorem found_append_of_ok {r further : HeadReader} {first : Bytes}
    (goesOn : r.feed first = .ok further) (second : Bytes) :
    r.found (first ++ second) = further.found second := by
  rw [found, feed_append, goesOn]
  rfl

theorem found_append_of_error {r : HeadReader} {first rest : Bytes} {e : HeadEnd}
    (ends : r.feed first = .error (e, rest)) (second : Bytes) :
    r.found (first ++ second) = (e, rest ++ second) := by
  rw [found, feed_append, ends]

end HeadReader

/-- **Reading from where a reader stands finds what the reader finds in the text that is still to be
read, and leaves what it leaves.**  Every round takes what the buffer holds, so as many rounds as
bytes and one more are enough. -/
theorem headFrom_of_delivers {fuel : Nat} {r : HeadReader} {s : BufferedSource Chunks}
    {text : Bytes} (delivers : Delivers s text) (enough : text.length < fuel) :
    (headFrom fuel r s).outcome = .done (r.found text).1 ∧
      Delivers (headFrom fuel r s).source (r.found text).2 := by
  induction fuel generalizing r s text with
  | zero => exact absurd enough (Nat.not_lt_zero _)
  | succ fuel ih =>
    obtain ⟨filled, fill, delivered, ended⟩ := fill_of_delivers delivers
    obtain ⟨positive, nonempty, whole⟩ := delivered
    rw [headFrom, fill]
    dsimp only
    by_cases none_held : filled.held = []
    · obtain rfl := ended none_held
      rw [if_pos (by rw [none_held]; rfl)]
      exact ⟨rfl, positive, nonempty, whole⟩
    · rw [if_neg (by simpa using none_held)]
      have split : filled.held ++ filled.source.bytes = text := whole
      cases fed : r.feed filled.held with
      | error ended =>
        obtain ⟨e, rest⟩ := ended
        rw [← split, HeadReader.found_append_of_error fed]
        exact ⟨rfl, positive, nonempty, rfl⟩
      | ok further =>
        have shorter : filled.source.bytes.length < fuel := by
          have taken := List.length_pos_of_ne_nil none_held
          rw [← split, List.length_append] at enough
          omega
        have emptied : Delivers (filled.hold []) filled.source.bytes := ⟨positive, nonempty, rfl⟩
        rw [← split, HeadReader.found_append_of_ok fed]
        exact ih emptied shorter

/-- How many bytes are left is known before they are read, so the rounds are enough. -/
theorem readHead_of_delivers {s : BufferedSource Chunks} {text : Bytes}
    (delivers : Delivers s text) :
    (readHead {} s).outcome = .done (cutLines [] text).1 ∧
      Delivers (readHead {} s).source (cutLines [] text).2 := by
  have enough : text.length < ByteSource.ready s + 2 := by
    obtain ⟨_, _, rfl⟩ := delivers
    simp only [unread, List.length_append, ByteSource.ready]
    omega
  rw [← HeadReader.found_eq_cutLines]
  exact headFrom_of_delivers delivers enough

/-! ## Reading requests -/

/-- **What a request read from a stream is, and what is left behind it, depends on the text
alone.** -/
theorem readRequest_of_delivers {s : BufferedSource Chunks} {text : Bytes}
    (delivers : Delivers s text) :
    (readRequest s).1 = .done (cutLines [] text).1.result ∧
      Delivers (readRequest s).2 (cutLines [] text).2 := by
  obtain ⟨outcome, source⟩ := readHead_of_delivers delivers
  exact ⟨by rw [readRequest, outcome]; rfl, source⟩

/-- The requests that a text gives, one behind the other, and what is left behind them. -/
def requestsOf : Nat → Bytes → List (Except Fault RequestHead) × Bytes
  | 0, text => ([], text)
  | n + 1, text =>
    let (found, rest) := cutLines [] text
    let (others, rest) := requestsOf n rest
    (found.result :: others, rest)

theorem readRequests_of_delivers (n : Nat) {s : BufferedSource Chunks} {text : Bytes}
    (delivers : Delivers s text) :
    (readRequests n s).1 = (requestsOf n text).1.map .done ∧
      Delivers (readRequests n s).2 (requestsOf n text).2 := by
  induction n generalizing s text with
  | zero => exact ⟨rfl, delivers⟩
  | succ n ih =>
    obtain ⟨first, delivers⟩ := readRequest_of_delivers delivers
    obtain ⟨others, delivers⟩ := ih delivers
    refine ⟨?_, delivers⟩
    rw [readRequests, requestsOf]
    simp only [List.map_cons]
    rw [← others, ← first]

/-- What a head that could be read is made of. -/
theorem RequestHead.parse_ok_cases {raw : Bytes} {head : RequestHead}
    (parsed : RequestHead.parse raw = .ok head) :
    ∃ (parts : HeadSyntax.Parts) (rest : Bytes) (fields : Fields) (host path : Bytes),
      HeadSyntax.head raw = .ok (parts, rest) ∧
      (parts.method.isEmpty || !parts.method.all Bytes.isToken) = false ∧
      RequestHead.collect parts.lines = .ok fields ∧
      RequestHead.resolve parts.method parts.target fields = .ok (host, path) ∧
      head = ⟨parts.method, parts.target, host, path, fields, raw⟩ := by
  unfold RequestHead.parse at parsed
  split at parsed
  · cases parsed
  · cases parsed
  · next parts rest syntactic =>
    simp only [bind, Except.bind] at parsed
    split at parsed
    · cases parsed
    · next token =>
      split at parsed
      · cases parsed
      · next fields collected =>
        split at parsed
        · cases parsed
        · next addressed resolved =>
          cases parsed
          exact ⟨parts, rest, fields, addressed.1, addressed.2, syntactic,
            Bool.eq_false_iff.mpr token, collected, resolved, rfl⟩

/-- A head that could be read holds the bytes it was read from. -/
theorem RequestHead.raw_of_parse {raw : Bytes} {head : RequestHead}
    (parsed : RequestHead.parse raw = .ok head) : head.raw = raw := by
  obtain ⟨_, _, _, _, _, _, _, _, _, rfl⟩ := RequestHead.parse_ok_cases parsed
  rfl

theorem HeadEnd.result_eq_ok_iff {e : HeadEnd} {head : RequestHead} :
    e.result = .ok head ↔ e = .complete head.raw ∧ RequestHead.parse head.raw = .ok head := by
  constructor
  · intro result
    cases e with
    | tooLong => cases result
    | closed => cases result
    | complete raw =>
      cases parsed : RequestHead.parse raw with
      | error why => rw [HeadEnd.result, parsed] at result; cases result
      | ok found =>
        rw [HeadEnd.result, parsed] at result
        cases result
        rw [RequestHead.raw_of_parse parsed]
        exact ⟨rfl, parsed⟩
  · rintro ⟨rfl, parsed⟩
    rw [HeadEnd.result, parsed]
    rfl

/-- Heads one behind the other are found one after the other. -/
theorem requestsOf_heads (heads : List RequestHead)
    (areHeads : ∀ head ∈ heads, IsHead head.raw ∧ RequestHead.parse head.raw = .ok head)
    (rest : Bytes) :
    requestsOf heads.length ((heads.map (·.raw)).flatten ++ rest) = (heads.map .ok, rest) := by
  induction heads with
  | nil => rfl
  | cons head heads ih =>
    obtain ⟨isHead, parsed⟩ := areHeads head (by simp)
    have others := ih fun h member => areHeads h (List.mem_cons_of_mem _ member)
    rw [List.map_cons, List.flatten_cons, List.append_assoc, List.length_cons, requestsOf,
      cutLines_head isHead]
    simp only [others, HeadEnd.result_eq_ok_iff.mpr ⟨rfl, parsed⟩, List.map_cons]

/-- **Reading a request does not depend on the delivery.**  However a text is cut into chunks, and
whatever the buffer can hold, the request is read with the same result and the same bytes left.  A
head that is read stands behind empty lines and in front of what is left, and the heads that a text
is made of are read in order. -/
theorem readRequest_of_every_delivery (text : Bytes) (capacity : Nat) (chunks : List Bytes)
    (positive : 0 < capacity) (nonempty : ∀ chunk ∈ chunks, chunk ≠ [])
    (whole : chunks.flatten = text) :
    (∀ (capacity' : Nat) (chunks' : List Bytes), 0 < capacity' → (∀ chunk ∈ chunks', chunk ≠ []) →
      chunks'.flatten = text →
        (readRequest (delivery capacity chunks)).1 = (readRequest (delivery capacity' chunks')).1 ∧
          unread (readRequest (delivery capacity chunks)).2 =
            unread (readRequest (delivery capacity' chunks')).2) ∧
    (∃ result, (readRequest (delivery capacity chunks)).1 = .done result ∧
      ∀ head, result = .ok head → ∃ skipped : List Bytes,
        (∀ line ∈ skipped, IsEmptyLine line) ∧ IsHead head.raw ∧
        text = skipped.flatten ++ head.raw ++ unread (readRequest (delivery capacity chunks)).2) ∧
    (∀ (heads : List RequestHead) (rest : Bytes),
      (∀ head ∈ heads, IsHead head.raw ∧ RequestHead.parse head.raw = .ok head) →
      text = (heads.map (·.raw)).flatten ++ rest →
        (readRequests heads.length (delivery capacity chunks)).1 =
            heads.map (fun head => .done (.ok head)) ∧
          unread (readRequests heads.length (delivery capacity chunks)).2 = rest) := by
  subst whole
  have delivers := delivers_delivery positive nonempty
  obtain ⟨result, left⟩ := readRequest_of_delivers delivers
  refine ⟨?_, ⟨_, result, fun head read => ?_⟩, ?_⟩
  · intro capacity' chunks' positive' nonempty' same
    have delivers' := delivers_delivery positive' nonempty'
    rw [same] at delivers'
    obtain ⟨result', left'⟩ := readRequest_of_delivers delivers'
    exact ⟨result.trans result'.symm, left.whole.trans left'.whole.symm⟩
  · obtain ⟨complete, _⟩ := HeadEnd.result_eq_ok_iff.mp read
    rw [left.whole]
    exact cutLines_complete_iff.mp (Prod.ext complete rfl)
  · intro heads rest areHeads made
    obtain ⟨results, left⟩ := readRequests_of_delivers heads.length delivers
    rw [made, requestsOf_heads heads areHeads rest] at results left
    exact ⟨by rw [results, List.map_map]; rfl, left.whole⟩

/-- A head whose line ends are cut in two, behind an empty line that is, read byte by byte. -/
theorem readRequest_across_line_ends :
    let chunks := [[Bytes.cr], Bytes.lf :: Bytes.ascii "GET / HTTP/1.1\r\nHost: h\r",
      Bytes.lf :: Bytes.ascii "\r\nbody"]
    (0 < 1 ∧ (∀ chunk ∈ chunks, chunk ≠ [])) ∧
      (readRequest (delivery 1 chunks)).1 = (readRequest (delivery 64 [chunks.flatten])).1 ∧
      unread (readRequest (delivery 1 chunks)).2 =
        unread (readRequest (delivery 64 [chunks.flatten])).2 := by
  intro chunks
  have nonempty : ∀ chunk ∈ chunks, chunk ≠ [] := by simp [chunks]
  have one : ∀ chunk ∈ [chunks.flatten], chunk ≠ [] := by simp [chunks]
  exact ⟨⟨by decide, nonempty⟩,
    (readRequest_of_every_delivery chunks.flatten 1 chunks (by decide) nonempty rfl).1 64
      [chunks.flatten] (by decide) one (by simp)⟩

end Wiretap.Message
