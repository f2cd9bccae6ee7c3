import Wiretap.Proofs.Session.Lengths

/-!
# Bodies that come in chunks

A body in chunks is not taken: the client is told so before anything is read or passed on.  Whether a
body comes in chunks is said by a field that may stand in a head several times (`AnnouncesChunks`).

Only its first value is looked at, and only if it can be read as text (`ShowsChunks`).  Where that
value names the chunks, the refusal is all that happens (`refusesChunks_iff`).  Where another value
names them, or the first one holds a byte that is no text, the request is planned like any other: its
body is as long as another field says or empty, and it is passed on without a word of chunks
(`forward_refuses_chunks_iff`, `announced_chunks_passed_on`).
-/

namespace Wiretap

set_option autoImplicit false

/-- Looking for a pattern finds out whether it occurs. -/
theorem Bytes.containsSlice_iff {pattern b : Bytes} :
    Bytes.containsSlice pattern b ↔ pattern <:+: b := by
  induction b with
  | nil => simp [Bytes.containsSlice]
  | cons x rest ih =>
    rw [Bytes.containsSlice, Bool.or_eq_true, ih, List.isPrefixOf_iff_prefix, List.infix_cons_iff]

namespace Session

open Message (RequestHead decode? endToEnd)
open Transport (ByteStream LawfulStream Peered traffic)

/-! ## What a head says of chunks -/

/-- All that a head says about how its body is transferred. -/
def transferValues (h : RequestHead) : List Bytes :=
  h.fields.getAll Message.Name.transferEncoding

/-- A value names the chunks, in whatever case and with whatever around it. -/
def NamesChunks (value : Bytes) : Prop := Bytes.ascii "chunked" <:+: value.fold

instance (value : Bytes) : Decidable (NamesChunks value) :=
  inferInstanceAs (Decidable (_ <:+: _))

/-- Some value names the chunks, wherever it stands. -/
def AnnouncesChunks (h : RequestHead) : Prop := ∃ v ∈ transferValues h, NamesChunks v

instance (h : RequestHead) : Decidable (AnnouncesChunks h) :=
  inferInstanceAs (Decidable (∃ v ∈ transferValues h, NamesChunks v))

/-- The first value can be read as text and names the chunks. -/
def ShowsChunks (h : RequestHead) : Prop :=
  ∃ v ∈ (transferValues h).head?, v.all Bytes.isVisible ∧ NamesChunks v

instance (h : RequestHead) : Decidable (ShowsChunks h) :=
  inferInstanceAs (Decidable (∃ v ∈ (transferValues h).head?, _))

theorem announcesChunks_of_shows {h : RequestHead} (shown : ShowsChunks h) :
    AnnouncesChunks h := by
  obtain ⟨v, first, _, named⟩ := shown
  exact ⟨v, List.mem_of_mem_head? first, named⟩

/-- The one look that is taken sees what the first value shows. -/
theorem isChunked_iff {h : RequestHead} : isChunked h ↔ ShowsChunks h := by
  change ((transferValues h).head?.filter (·.all Bytes.isVisible)).any _ = true ↔ _
  rw [Option.any_eq_true]
  constructor
  · rintro ⟨v, text, found⟩
    obtain ⟨first, visible⟩ := Option.filter_eq_some_iff.mp text
    exact ⟨v, first, visible, Bytes.containsSlice_iff.mp found⟩
  · rintro ⟨v, first, visible, named⟩
    exact ⟨v, Option.filter_eq_some_iff.mpr ⟨first, visible⟩, Bytes.containsSlice_iff.mpr named⟩

/-! ## What is done about it -/

variable {σ τ : Type} [ByteStream σ] [ByteStream τ] [LawfulStream σ] [LawfulStream τ]
  {bufferSize : Nat} {stream : σ} {c : Context} {h : RequestHead} {moves : List (Move σ τ)}
  {s : Standing σ τ (Except Fault Unit)}

/-- The client is given one answer, and nothing else happens: its body is not read, no host is asked
for anything, and observers are shown nothing. -/
structure OnlyAnswered (s : Standing σ τ (Except Fault Unit)) (wire : Bytes) : Prop where
  asked : Comes s.rest.turn s.past (.reply wire)
  only : ∀ q, Comes s.rest.turn s.past q → q = .reply wire
  unshown : s.shown = []
  delivered : ⟨.reply wire, .got ()⟩ ∈ s.past →
    s.rest.turn = .ended ∧ s.post.ledger.written = wire

/-- The client is told that this is not implemented, and nothing else happens. -/
def RefusesChunks (s : Standing σ τ (Except Fault Unit)) : Prop :=
  ∃ wire, (decode? wire).map (·.code) = some 501 ∧ OnlyAnswered s wire

theorem onlyAnswered_of_run {r : Refused} (refused : plan h = .error r)
    (fresh : (traffic stream).given = [])
    (ran : (Standing.start bufferSize stream (forward c h).run).run moves = some s) :
    OnlyAnswered s (Message.Reply.plainText r.status r.body) := by
  obtain ⟨l, stands, turns⟩ := turned_of_run refused fresh ran
  refine ⟨turns.asked, turns.only, turns.unshown, fun delivered => ?_⟩
  obtain ⟨ended, written⟩ := turns.delivered delivered
  exact ⟨ended, (stands.rests_of_ended ended).written.trans (by simpa using written)⟩

/-- A request that is turned away for anything but its chunks is blamed on the client. -/
theorem plan_error_of_not_chunked {r : Refused} (whole : isChunked h = false)
    (refused : plan h = .error r) : r.status.code ≠ 501 := by
  cases length : bodyLength h with
  | error r' =>
    cases refused.symm.trans (plan_of_badLength whole length)
    rcases bodyLength_error_cases length with code | code <;> simp [code]
  | ok n =>
    cases target : forwardTarget h with
    | error r' =>
      cases refused.symm.trans (plan_of_badTarget whole length target)
      simp [forwardTarget_error target]
    | ok uri => cases refused.symm.trans (plan_of_ok whole length target)

/-- **Chunks that the first value shows are refused, and nothing else is refused for them.** -/
theorem refusesChunks_iff (fresh : (traffic stream).given = [])
    (ran : (Standing.start bufferSize stream (forward c h).run).run moves = some s) :
    RefusesChunks s ↔ ShowsChunks h := by
  rw [← isChunked_iff]
  constructor
  · rintro ⟨wire, code, answered⟩
    by_contra whole
    have whole : isChunked h = false := Bool.eq_false_iff.mpr whole
    cases planned : plan h with
    | ok p =>
      obtain ⟨_, _, entrusts⟩ := handed_of_run planned ran
      cases answered.only _ entrusts.asked
    | error r =>
      have told := (onlyAnswered_of_run planned fresh ran).asked
      obtain rfl : Message.Reply.plainText r.status r.body = wire :=
        Question.reply.inj (answered.only _ told)
      rw [Message.code_decode?_plainText] at code
      exact plan_error_of_not_chunked whole planned (Option.some.inj code)
  · intro chunked
    refine ⟨_, ?_, onlyAnswered_of_run (plan_of_chunked chunked) fresh ran⟩
    exact Message.code_decode?_plainText _ _

/-- What a host is handed says nothing of how its body was transferred. -/
theorem handed_without_transfer (fresh : (traffic stream).given = [])
    (ran : (Standing.start bufferSize stream (forward c h).run).run moves = some s) {f : Forwarded}
    (comes : Comes s.rest.turn s.past (.exchange f)) :
    f.fields.getAll Message.Name.transferEncoding = [] := by
  cases planned : plan h with
  | error r => cases (onlyAnswered_of_run planned fresh ran).only _ comes
  | ok p =>
    obtain ⟨_, _, entrusts⟩ := handed_of_run planned ran
    rw [(entrusts.handed f comes).1]
    exact Message.Fields.getAll_keep_of_not (by decide)

/-- **Announced chunks are refused exactly where they are shown.**  In any run, a request that names
the chunks in some value is answered with 501, its body is not read, no host is asked and observers
are shown nothing, if its first value can be read as text and names them, and not otherwise.  Nothing
else is refused for chunks, and a request that is passed on says nothing of any. -/
theorem forward_refuses_chunks_iff (fresh : (traffic stream).given = [])
    (ran : (Standing.start bufferSize stream (forward c h).run).run moves = some s) :
    (AnnouncesChunks h → (RefusesChunks s ↔ ShowsChunks h)) ∧
      (RefusesChunks s → AnnouncesChunks h) ∧
      ∀ f, Comes s.rest.turn s.past (.exchange f) →
        f.fields.getAll Message.Name.transferEncoding = [] := by
  have same := refusesChunks_iff fresh ran
  exact ⟨fun _ => same, fun refused => announcesChunks_of_shows (same.mp refused),
    fun f comes => handed_without_transfer fresh ran comes⟩

/-- Chunks in a list of other codings, in another case, in front of a second value: the answer is
written, and nothing of the body is read. -/
theorem forward_refuses_chunks_in_list :
    let fields : Message.Fields := ⟨[⟨Bytes.ascii "host", [Bytes.ascii "h"]⟩,
      ⟨Bytes.ascii "transfer-encoding", [Bytes.ascii "gzip, CHUNKED;x=1", Bytes.ascii "br"]⟩]⟩
    let h : RequestHead :=
      ⟨Bytes.ascii "POST", Bytes.ascii "/", Bytes.ascii "h", Bytes.ascii "/", fields, []⟩
    let client := Peered.fresh 128 (Bytes.ascii "0\r\n\r\n")
    let moves : List (Move Peered Peered) := [.client (client.sends 5), .go]
    let c : Context := ⟨{}, ⟨1, "127.0.0.1:50000"⟩⟩
    let wire := Message.Reply.plainText .notImplemented Refused.chunked.body
    ∃ s, (Standing.start 8 client (forward c h).run).run moves = some s ∧
      (traffic client).given = [] ∧ AnnouncesChunks h ∧ s.past = [⟨.reply wire, .got ()⟩] ∧
      (traffic client).coming = s.post.ledger.unread ∧ RefusesChunks s := by
  intro fields h client moves c wire
  have goes : ((Standing.start 8 client (forward c h).run).run moves).any fun s =>
      decide (s.past = [⟨.reply wire, .got ()⟩] ∧
        (traffic client).coming = s.post.ledger.unread) := by
    decide +kernel
  obtain ⟨s, ran, reached⟩ := (Option.any_eq_true _ _).mp goes
  obtain ⟨past, unread⟩ := of_decide_eq_true reached
  have announced : AnnouncesChunks h := by decide +kernel
  have shown : ShowsChunks h := by decide +kernel
  exact ⟨s, ran, rfl, announced, past, unread,
    ((forward_refuses_chunks_iff rfl ran).1 announced).mpr shown⟩

/-- Chunks that a second value names are gone by: observers are shown the head alone, and it is
passed on without a body. -/
theorem announced_chunks_passed_on :
    let raw := Bytes.ascii
      "POST / HTTP/1.1\r\nHost: h\r\nTransfer-Encoding: gzip\r\nTransfer-Encoding: chunked\r\n\r\n"
    let fields : Message.Fields := ⟨[⟨Bytes.ascii "host", [Bytes.ascii "h"]⟩,
      ⟨Bytes.ascii "transfer-encoding", [Bytes.ascii "gzip", Bytes.ascii "chunked"]⟩]⟩
    let h : RequestHead :=
      ⟨Bytes.ascii "POST", Bytes.ascii "/", Bytes.ascii "h", Bytes.ascii "/", fields, raw⟩
    let uri : Message.Uri := ⟨some Message.Uri.http, Bytes.ascii "h", Bytes.ascii "/"⟩
    let client := Peered.fresh 64 (Bytes.ascii "0\r\n\r\n")
    let f := forwarded h uri []
    let moves : List (Move Peered Peered) :=
      [.client (client.sends 5), .go, .go, .go, .go, .answer ⟨.exchange f, .expired⟩]
    let c : Context := ⟨{}, ⟨1, "127.0.0.1:50000"⟩⟩
    RequestHead.parse raw = .ok h ∧ h.isTunnel = false ∧ (traffic client).given = [] ∧
      AnnouncesChunks h ∧ ∃ s, (Standing.start 8 client (forward c h).run).run moves = some s ∧
        s.past = [⟨.exchange f, .expired⟩, ⟨.body 0, .got []⟩] ∧
        s.shown = [(.outbound, raw)] ∧ ¬ RefusesChunks s := by
  intro raw fields h uri client f moves c
  have goes : ((Standing.start 8 client (forward c h).run).run moves).any fun s =>
      decide (s.past = [⟨.exchange f, .expired⟩, ⟨.body 0, .got []⟩] ∧
        s.shown = [(.outbound, raw)]) := by
    decide +kernel
  obtain ⟨s, ran, reached⟩ := (Option.any_eq_true _ _).mp goes
  obtain ⟨past, shown⟩ := of_decide_eq_true reached
  have announced : AnnouncesChunks h := by decide +kernel
  have hidden : ¬ ShowsChunks h := by decide +kernel
  exact ⟨by decide +kernel, by decide, rfl, announced, s, ran, past, shown,
    fun refused => hidden ((refusesChunks_iff rfl ran).mp refused)⟩

end Session

end Wiretap
