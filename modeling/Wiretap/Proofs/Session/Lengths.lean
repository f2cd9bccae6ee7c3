import Wiretap.Proofs.Message.FieldChanges
import Wiretap.Proofs.Message.ReplyReading
import Wiretap.Proofs.Session.Forwarding
import Wiretap.Proofs.Transport.Peered

/-!
# How long a body is

A request says how long its body is in a field that it may hold several times, and all its values
are passed on.  The host that reads them and the proxy that has read one of them agree only if every
value is the same plain number (`IsAmbiguous`).

What a host is handed has the body that was read, as long as the plan said, and the fields of the
head less those of one hop (`handed_of_run`).  A request without a plan is turned away before
anything is read (`turned_of_run`).  So each length that a host is told is the right one, and no
ambiguous head comes that far, exactly where the one value that is looked at gives the ambiguity
away (`forward_unambiguous_iff`).  It does not always: a second value is never looked at, a first
one that is not text counts as none, and a sign may stand before the number.
-/

namespace Wiretap.Session

set_option autoImplicit false

open Message (RequestHead decode? endToEnd hopNames)
open Transport (ByteStream LawfulStream Peered traffic)

/-! ## What a head says of its body -/

/-- The number that a value states, if it is a plain decimal number. -/
def statedLength? (value : Bytes) : Option Nat := Text.Decimal.natural? (Bytes.toChars value)

/-- All lengths that a head states. -/
def lengthValues (h : RequestHead) : List Bytes := h.fields.getAll Message.Name.contentLength

/-- Some value states no length, or two of them state different ones. -/
def IsAmbiguous (h : RequestHead) : Prop :=
  (∃ v ∈ lengthValues h, statedLength? v = none) ∨
    ∃ v ∈ lengthValues h, ∃ w ∈ lengthValues h, statedLength? v ≠ statedLength? w

instance (h : RequestHead) : Decidable (IsAmbiguous h) := inferInstanceAs (Decidable (_ ∨ _))

/-- No chunks are announced, and the length that is looked at, if one can be read as text, is no
number within the limit, or else the target is none. -/
def GivesAway (h : RequestHead) : Prop :=
  isChunked h = false ∧
    ((∃ v, h.text? Message.Name.contentLength = some v ∧
        ∀ n ≤ bodyLimit, Text.Decimal.size? (Bytes.toChars v) ≠ some n) ∨
      ∀ uri, forwardTarget h ≠ .ok uri)

theorem exists_of_not_isAmbiguous {h : RequestHead} (plain : ¬ IsAmbiguous h) :
    ∃ n, ∀ v ∈ lengthValues h, statedLength? v = some n := by
  obtain ⟨stated, same⟩ := not_or.mp plain
  cases values : lengthValues h with
  | nil => exact ⟨0, nofun⟩
  | cons first rest =>
    have inside : first ∈ lengthValues h := values ▸ List.mem_cons_self
    obtain ⟨n, first_states⟩ := Option.ne_none_iff_exists'.mp fun none =>
      stated ⟨first, inside, none⟩
    refine ⟨n, fun v member => ?_⟩
    rw [← first_states]
    by_contra different
    exact same ⟨v, values ▸ member, first, inside, different⟩

/-! ## What a plan is made of -/

theorem plan_of_chunked {h : RequestHead} (chunked : isChunked h) : plan h = .error .chunked := by
  rw [plan, if_pos chunked]
  rfl

theorem plan_of_badLength {h : RequestHead} {r : Refused} (whole : isChunked h = false)
    (refused : bodyLength h = .error r) : plan h = .error r := by
  rw [plan, whole, refused]
  rfl

theorem plan_of_badTarget {h : RequestHead} {n : Nat} {r : Refused} (whole : isChunked h = false)
    (length : bodyLength h = .ok n) (refused : forwardTarget h = .error r) :
    plan h = .error r := by
  rw [plan, whole, length, refused]
  rfl

theorem plan_of_ok {h : RequestHead} {n : Nat} {uri : Message.Uri} (whole : isChunked h = false)
    (length : bodyLength h = .ok n) (target : forwardTarget h = .ok uri) :
    plan h = .ok ⟨uri, n⟩ := by
  rw [plan, whole, length, target]
  rfl

theorem plan_ok_cases {h : RequestHead} {p : Plan} (planned : plan h = .ok p) :
    isChunked h = false ∧ bodyLength h = .ok p.length ∧ forwardTarget h = .ok p.uri := by
  have whole : isChunked h = false := by
    rw [Bool.eq_false_iff]
    intro chunked
    rw [plan_of_chunked chunked] at planned
    cases planned
  refine ⟨whole, ?_⟩
  cases length : bodyLength h with
  | error r =>
    rw [plan_of_badLength whole length] at planned
    cases planned
  | ok n =>
    cases target : forwardTarget h with
    | error r =>
      rw [plan_of_badTarget whole length target] at planned
      cases planned
    | ok uri =>
      rw [plan_of_ok whole length target] at planned
      cases planned
      exact ⟨rfl, rfl⟩

/-! ## What a host is handed -/

section

variable {h : RequestHead} {p : Plan} {ch : Chronicle}

/-- The body is asked for, and what a host is asked for has the body that was read. -/
structure Entrusts (h : RequestHead) (p : Plan) (turn : Turn) (ch : Chronicle) : Prop where
  asked : Comes turn ch.past (.body p.length)
  handed : ∀ f, Comes turn ch.past (.exchange f) → f = forwarded h p.uri f.body ∧
    f.body.length = p.length ∧ ⟨.body p.length, .got f.body⟩ ∈ ch.past

/-- Whether a host that is asked for something is asked for this. -/
def Question.isEntrusting (one : Forwarded) : Question → Bool
  | .exchange f => f = one
  | _ => true

/-- The body has been read, and nothing is asked of a host but the request with this body. -/
structure BodyRead (h : RequestHead) (p : Plan) (body : Bytes) (ch : Chronicle) : Prop where
  got : ⟨.body p.length, .got body⟩ ∈ ch.past
  whole : body.length = p.length
  only : Answered.Only (Question.isEntrusting (forwarded h p.uri body)) ch.past

theorem BodyRead.entrusts {body : Bytes} {turn : Turn} (read : BodyRead h p body ch)
    (asks : ∀ q, turn = .asking q → q.isEntrusting (forwarded h p.uri body)) :
    Entrusts h p turn ch where
  asked := .inr (List.mem_map.mpr ⟨_, read.got, rfl⟩)
  handed f comes := by
    have entrusting : Question.isEntrusting (forwarded h p.uri body) (.exchange f) := by
      obtain asking | past := comes
      · exact asks _ asking
      · obtain ⟨x, member, same⟩ := List.mem_map.mp past
        exact same ▸ read.only x member
    obtain rfl : f = forwarded h p.uri body := of_decide_eq_true entrusting
    exact ⟨rfl, read.whole, read.got⟩

theorem BodyRead.ended {body : Bytes} (read : BodyRead h p body ch) : Entrusts h p .ended ch := by
  apply read.entrusts
  rintro _ ⟨⟩

theorem covers_entrusting (h : RequestHead) (p : Plan) (body : Bytes) :
    Covers (Entrusts h p) (Question.isEntrusting (forwarded h p.uri body)) (BodyRead h p body) where
  telling _ read := read.entrusts nofun
  asking _ _ entrusting read := read.entrusts fun _ same => Turn.asking.inj same ▸ entrusting
  tells _ _ read := ⟨read.got, read.whole, read.only⟩
  answers _ _ _ _ entrusting read _ :=
    ⟨List.mem_cons_of_mem _ read.got, read.whole, Answered.only_cons entrusting read.only⟩

/-- **A request that has a plan is handed on by it, with the body that was read.** -/
theorem upholds_forward (c : Context) (planned : plan h = .ok p) (fresh : ch.past = []) :
    Task.Holds (upholding (Entrusts h p))
      (fun _ => Entrusts h p .ended) (fun _ => Entrusts h p .ended)
      (forward c h) ch := by
  rw [forward, planned]
  dsimp only
  rw [Task.holds_bind, Task.upholds_ask]
  refine ⟨⟨.inl rfl, ?_⟩, fun a l settles => ?_⟩
  · rintro f (⟨⟨⟩⟩ | member)
    simp [fresh] at member
  rw [Task.holds_bind, Task.holds_get]
  cases a with
  | failed | expired =>
    refine ⟨.inr List.mem_cons_self, ?_⟩
    rintro f (⟨⟨⟩⟩ | member)
    simp [Chronicle.answer, fresh] at member
  | got body =>
    have before : Answered.Only (Question.isEntrusting (forwarded h p.uri body)) ch.past := by
      rw [fresh]
      intro x member
      cases member
    have read : BodyRead h p body (ch.answer ⟨.body p.length, .got body⟩ l) :=
      ⟨List.mem_cons_self, settles.1, Answered.only_cons rfl before⟩
    refine (Task.upholds_of_asks ?_ (covers_entrusting h p body) read).mono
      (fun _ _ read => read.ended) fun _ _ read => read.ended
    exact asks_passOn c h (fun _ => rfl) rfl (decide_eq_true rfl)

/-! ## What is turned away -/

/-- Nothing is asked but to write an answer, and observers are shown nothing. -/
structure Turns (wire : Bytes) (turn : Turn) (ch : Chronicle) : Prop where
  asked : Comes turn ch.past (.reply wire)
  only : ∀ q, Comes turn ch.past q → q = .reply wire
  unshown : ch.shown = []
  delivered : ⟨.reply wire, .got ()⟩ ∈ ch.past → turn = .ended ∧ ch.ledger.written = wire

/-- **A request that has no plan is answered, and nothing else is done about it.** -/
theorem upholds_refusal (c : Context) {r : Refused} (refused : plan h = .error r)
    (past : ch.past = []) (shown : ch.shown = []) (written : ch.ledger.written = []) :
    Task.Holds (upholding (Turns (Message.Reply.plainText r.status r.body)))
      (fun _ => Turns (Message.Reply.plainText r.status r.body) .ended)
      (fun _ => Turns (Message.Reply.plainText r.status r.body) .ended) (forward c h) ch := by
  rw [forward, refused]
  dsimp only
  rw [replyText, reply, Task.holds_bind, Task.upholds_ask]
  refine ⟨⟨.inl rfl, ?_, shown, by simp [past]⟩, fun a l settles => ?_⟩
  · rintro q (⟨⟨⟩⟩ | member)
    · rfl
    · simp [past] at member
  have ended : Turns (Message.Reply.plainText r.status r.body) .ended
      (ch.answer ⟨.reply (Message.Reply.plainText r.status r.body), a⟩ l) := by
    refine ⟨.inr List.mem_cons_self, ?_, shown, fun member => ⟨rfl, ?_⟩⟩
    · rintro q (⟨⟨⟩⟩ | member)
      simpa [Chronicle.answer, past] using member
    · obtain _ | ⟨_, earlier⟩ := member
      · exact settles.1.written.trans (by rw [written]; rfl)
      · rw [past] at earlier
        cases earlier
  rw [Task.holds_get]
  cases a <;> exact ended

end

/-! ## Throughout a run -/

variable {σ τ : Type} [ByteStream σ] [ByteStream τ] [LawfulStream σ] [LawfulStream τ]
  {bufferSize : Nat} {stream : σ} {c : Context} {h : RequestHead} {moves : List (Move σ τ)}
  {s : Standing σ τ (Except Fault Unit)}

theorem handed_of_run {p : Plan} (planned : plan h = .ok p)
    (ran : (Standing.start bufferSize stream (forward c h).run).run moves = some s) :
    ∃ l, s.Stands l ∧ Entrusts h p s.rest.turn ⟨l, s.past, s.shown⟩ :=
  Standing.holds_of_run (upholds_forward c planned rfl) ran

theorem turned_of_run {r : Refused} (refused : plan h = .error r)
    (fresh : (traffic stream).given = [])
    (ran : (Standing.start bufferSize stream (forward c h).run).run moves = some s) :
    ∃ l, s.Stands l ∧
      Turns (Message.Reply.plainText r.status r.body) s.rest.turn ⟨l, s.past, s.shown⟩ :=
  Standing.holds_of_run (upholds_refusal c refused rfl rfl fresh) ran

/-- Some bytes are read as a response that blames the client. -/
def BlamesClient (wire : Bytes) : Prop :=
  ∃ code, (decode? wire).map (·.code) = some code ∧ 400 ≤ code ∧ code < 500

theorem blamesClient_iff {status : Message.Status} {body : Bytes} :
    BlamesClient (Message.Reply.plainText status body) ↔
      400 ≤ status.code ∧ status.code < 500 := by
  rw [BlamesClient, Message.code_decode?_plainText]
  exact ⟨fun ⟨_, same, blames⟩ => Option.some.inj same ▸ blames, fun blames => ⟨_, rfl, blames⟩⟩

/-- The client is given an answer that blames it, and nothing else happens: its body is not read,
no host is asked for anything, and observers are shown nothing. -/
structure TurnedAway (s : Standing σ τ (Except Fault Unit)) (wire : Bytes) : Prop where
  blames : BlamesClient wire
  asked : Comes s.rest.turn s.past (.reply wire)
  only : ∀ q, Comes s.rest.turn s.past q → q = .reply wire
  unshown : s.shown = []
  delivered : ⟨.reply wire, .got ()⟩ ∈ s.past → s.post.ledger.written = wire

/-! ## Which requests are turned away -/

theorem bodyLength_ok_iff {n : Nat} :
    bodyLength h = .ok n ↔ match h.text? Message.Name.contentLength with
      | none => n = 0
      | some v => n ≤ bodyLimit ∧ Text.Decimal.size? (Bytes.toChars v) = some n := by
  rw [bodyLength]
  cases h.text? Message.Name.contentLength with
  | none => exact ⟨fun same => (Except.ok.inj same).symm, fun same => same ▸ rfl⟩
  | some v =>
    dsimp only
    cases Text.Decimal.size? (Bytes.toChars v) with
    | none => simp
    | some m =>
      dsimp only
      split
      · next fits =>
        refine ⟨fun same => ?_, fun ⟨_, same⟩ => congrArg _ (Option.some.inj same)⟩
        cases same
        exact ⟨fits, rfl⟩
      · next exceeds =>
        refine ⟨nofun, fun ⟨fits, same⟩ => ?_⟩
        cases same
        exact absurd fits exceeds

theorem bodyLength_error_cases {r : Refused} (refused : bodyLength h = .error r) :
    r.status.code = 400 ∨ r.status.code = 413 := by
  rw [bodyLength] at refused
  split at refused
  · cases refused
  · split at refused
    · cases refused
      exact .inl rfl
    · split at refused
      · cases refused
      · cases refused
        exact .inr rfl

theorem forwardTarget_error {r : Refused} (refused : forwardTarget h = .error r) :
    r.status.code = 400 := by
  rw [forwardTarget] at refused
  cases parsed : Message.Uri.parse (Message.Uri.http ++ Message.Uri.schemeMark ++ h.host ++ h.path)
    with
  | ok uri =>
    rw [parsed] at refused
    cases refused
  | error e =>
    rw [parsed] at refused
    cases refused
    rfl

/-- The length that is looked at is refused exactly where it is no number within the limit. -/
theorem bodyLength_ne_ok_iff : (∀ n, bodyLength h ≠ .ok n) ↔
    ∃ v, h.text? Message.Name.contentLength = some v ∧
      ∀ n ≤ bodyLimit, Text.Decimal.size? (Bytes.toChars v) ≠ some n := by
  simp only [ne_eq, bodyLength_ok_iff]
  cases h.text? Message.Name.contentLength with
  | none => simp
  | some v => simp

theorem plan_of_givesAway (gives : GivesAway h) :
    ∃ r, plan h = .error r ∧ 400 ≤ r.status.code ∧ r.status.code < 500 := by
  obtain ⟨whole, noLength | noTarget⟩ := gives
  · cases length : bodyLength h with
    | ok n => exact absurd length (bodyLength_ne_ok_iff.mpr noLength n)
    | error r =>
      refine ⟨r, plan_of_badLength whole length, ?_⟩
      have code := bodyLength_error_cases length
      omega
  · cases length : bodyLength h with
    | error r =>
      refine ⟨r, plan_of_badLength whole length, ?_⟩
      have code := bodyLength_error_cases length
      omega
    | ok n =>
      cases target : forwardTarget h with
      | ok uri => exact absurd target (noTarget uri)
      | error r =>
        refine ⟨r, plan_of_badTarget whole length target, ?_⟩
        have code := forwardTarget_error target
        omega

theorem givesAway_of_plan {r : Refused} (refused : plan h = .error r)
    (blames : r.status.code < 500) : GivesAway h := by
  have whole : isChunked h = false := by
    rw [Bool.eq_false_iff]
    intro chunked
    rw [plan_of_chunked chunked] at refused
    cases refused
    exact absurd blames (by decide)
  refine ⟨whole, ?_⟩
  rw [← bodyLength_ne_ok_iff]
  by_contra! both
  obtain ⟨⟨n, length⟩, uri, target⟩ := both
  rw [plan_of_ok whole length target] at refused
  cases refused

/-! ## What a host is told -/

/-- A digit is a visible byte and no sign. -/
theorem of_isDigit {b : UInt8} (digit : Text.Decimal.isDigit (Char.ofNat b.toNat)) :
    Bytes.isVisible b ∧ Char.ofNat b.toNat ≠ '+' := by
  have every : ∀ n : Fin 256, Text.Decimal.isDigit (Char.ofNat (UInt8.ofNat n).toNat) →
      Bytes.isVisible (UInt8.ofNat n) ∧ Char.ofNat (UInt8.ofNat n).toNat ≠ '+' := by
    decide +kernel
  have same : UInt8.ofNat b.toNat = b := UInt8.ofNat_toNat
  have one := every ⟨b.toNat, b.toNat_lt⟩
  rw [same] at one
  exact one digit

theorem digits_of_statedLength? {v : Bytes} {n : Nat} (states : statedLength? v = some n) :
    ∀ b ∈ v, Text.Decimal.isDigit (Char.ofNat b.toNat) := by
  rw [statedLength?, Text.Decimal.natural?] at states
  split at states
  · next digits =>
    intro b member
    refine List.all_eq_true.mp (Bool.and_eq_true_iff.mp digits).2 _ ?_
    exact List.mem_map_of_mem member
  · cases states

/-- A plain number can be read as text. -/
theorem isVisible_of_statedLength? {v : Bytes} {n : Nat} (states : statedLength? v = some n) :
    v.all Bytes.isVisible := by
  apply List.all_eq_true.mpr
  intro b member
  exact (of_isDigit (digits_of_statedLength? states b member)).1

/-- A plain number is read as what it is, since no sign stands before it. -/
theorem size?_of_statedLength? {v : Bytes} {n : Nat} (states : statedLength? v = some n) :
    Text.Decimal.size? (Bytes.toChars v) = (some n).filter (· ≤ Text.Decimal.mostSize) := by
  have unsigned : ∀ rest, Bytes.toChars v ≠ '+' :: rest := by
    intro rest same
    cases v with
    | nil => cases same
    | cons b others =>
      exact (of_isDigit (digits_of_statedLength? states b List.mem_cons_self)).2
        (List.cons.inj same).1
  rw [Text.Decimal.size?, Text.Decimal.unsigned?]
  · exact congrArg _ states
  · exact unsigned

/-- The length that is read is the one that all values state. -/
theorem bodyLength_of_stated {n m : Nat} (stated : ∀ v ∈ lengthValues h, statedLength? v = some n)
    (length : bodyLength h = .ok m) : ∀ v ∈ lengthValues h, statedLength? v = some m := by
  cases values : lengthValues h with
  | nil => nofun
  | cons first rest =>
    have states : statedLength? first = some n :=
      stated first (values ▸ List.mem_cons_self)
    have text : h.text? Message.Name.contentLength = some first := by
      have found : h.fields.get? Message.Name.contentLength = some first := by
        change (lengthValues h).head? = some first
        rw [values]
        rfl
      rw [RequestHead.text?, Message.Fields.text?, found]
      exact Option.filter_some_pos (isVisible_of_statedLength? states)
    rw [bodyLength_ok_iff, text] at length
    obtain ⟨_, read⟩ := length
    rw [size?_of_statedLength? states] at read
    obtain rfl : n = m := Option.some.inj (Option.filter_eq_some_iff.mp read).1
    rwa [← values]

/-! ## Agreement -/

/-- What a host is handed states no length but that of its body, which has been read whole, and an
ambiguous request is turned away. -/
structure Unambiguous (h : RequestHead) (s : Standing σ τ (Except Fault Unit)) : Prop where
  stated : ∀ f, Comes s.rest.turn s.past (.exchange f) →
    ⟨.body f.body.length, .got f.body⟩ ∈ s.past ∧
      ∀ v ∈ f.fields.getAll Message.Name.contentLength, statedLength? v = some f.body.length
  refused : IsAmbiguous h → ∃ wire, TurnedAway s wire

theorem getAll_endToEnd {f : Message.Fields} {name : Bytes} (kept : name.fold ∉ hopNames) :
    (endToEnd f).getAll name = f.getAll name := by
  apply Message.Fields.getAll_keep
  simpa using kept

/-- **The lengths of a request agree unless the first of them hides that they do not.**  In any run,
what a host is handed states the length of the body that was read and nothing else, and an ambiguous
request is turned away, exactly if an ambiguous head always gives itself away to the one look that
is taken at it. -/
theorem forward_unambiguous_iff (fresh : (traffic stream).given = [])
    (ran : (Standing.start bufferSize stream (forward c h).run).run moves = some s) :
    Unambiguous h s ↔ (IsAmbiguous h → GivesAway h) := by
  constructor
  · intro agrees ambiguous
    obtain ⟨wire, turned⟩ := agrees.refused ambiguous
    cases planned : plan h with
    | ok p =>
      obtain ⟨_, _, entrusts⟩ := handed_of_run planned ran
      cases turned.only _ entrusts.asked
    | error r =>
      obtain ⟨_, _, turns⟩ := turned_of_run planned fresh ran
      obtain rfl : Message.Reply.plainText r.status r.body = wire :=
        Question.reply.inj (turned.only _ turns.asked)
      exact givesAway_of_plan planned (blamesClient_iff.mp turned.blames).2
  · intro gives
    refine ⟨fun f comes => ?_, fun ambiguous => ?_⟩
    · cases planned : plan h with
      | error r =>
        obtain ⟨_, _, turns⟩ := turned_of_run planned fresh ran
        cases turns.only _ comes
      | ok p =>
        obtain ⟨_, _, entrusts⟩ := handed_of_run planned ran
        obtain ⟨made, whole, got⟩ := entrusts.handed f comes
        have plain : ¬ IsAmbiguous h := by
          intro ambiguous
          obtain ⟨r, refused, _⟩ := plan_of_givesAway (gives ambiguous)
          cases planned.symm.trans refused
        obtain ⟨n, stated⟩ := exists_of_not_isAmbiguous plain
        refine ⟨whole ▸ got, ?_⟩
        have values : f.fields.getAll Message.Name.contentLength = lengthValues h := by
          rw [made]
          exact getAll_endToEnd (by decide)
        rw [values, whole]
        exact bodyLength_of_stated stated (plan_ok_cases planned).2.1
    · obtain ⟨r, refused, blames⟩ := plan_of_givesAway (gives ambiguous)
      obtain ⟨l, stands, turns⟩ := turned_of_run refused fresh ran
      refine ⟨_, blamesClient_iff.mpr blames, turns.asked, turns.only, turns.unshown, ?_⟩
      intro delivered
      obtain ⟨ended, written⟩ := turns.delivered delivered
      exact (stands.rests_of_ended ended).written.trans (by simpa using written)

/-- Two values that state one length, and more text than that behind the head. -/
theorem forward_unambiguous_twice :
    let fields : Message.Fields := ⟨[⟨Bytes.ascii "host", [Bytes.ascii "h"]⟩,
      ⟨Bytes.ascii "content-length", [Bytes.ascii "3", Bytes.ascii "03"]⟩]⟩
    let raw := Bytes.ascii
      "POST / HTTP/1.1\r\nHost: h\r\nContent-Length: 3\r\nContent-Length: 03\r\n\r\n"
    let h : RequestHead :=
      ⟨Bytes.ascii "POST", Bytes.ascii "/", Bytes.ascii "h", Bytes.ascii "/", fields, raw⟩
    let uri : Message.Uri := ⟨some Message.Uri.http, Bytes.ascii "h", Bytes.ascii "/"⟩
    let client := Peered.fresh 64 (Bytes.ascii "abcde")
    let f := forwarded h uri (Bytes.ascii "abc")
    let moves : List (Move Peered Peered) :=
      [.client (client.sends 5), .go, .go, .go, .go, .answer ⟨.exchange f, .expired⟩]
    let c : Context := ⟨{}, ⟨1, "127.0.0.1:50000"⟩⟩
    ∃ s, (Standing.start 8 client (forward c h).run).run moves = some s ∧
      (traffic client).given = [] ∧ ¬ IsAmbiguous h ∧
      Comes s.rest.turn s.past (.exchange f) ∧ Unambiguous h s := by
  intro fields raw h uri client f moves c
  have goes : ((Standing.start 8 client (forward c h).run).run moves).any fun s =>
      decide (s.past = [⟨.exchange f, .expired⟩, ⟨.body 3, .got (Bytes.ascii "abc")⟩]) := by
    decide +kernel
  obtain ⟨s, ran, past⟩ := (Option.any_eq_true _ _).mp goes
  have past := of_decide_eq_true past
  have plain : ¬ IsAmbiguous h := by decide +kernel
  refine ⟨s, ran, rfl, plain, .inr ?_, ?_⟩
  · rw [past]
    exact List.mem_cons_self
  · exact (forward_unambiguous_iff rfl ran).mpr fun ambiguous => absurd ambiguous plain

/-- Of two values that state different lengths the first is gone by, and both are passed on. -/
theorem ambiguous_lengths_passed_on :
    let raw := Bytes.ascii
      "POST / HTTP/1.1\r\nHost: h\r\nContent-Length: 3\r\nContent-Length: 5\r\n\r\n"
    let fields : Message.Fields := ⟨[⟨Bytes.ascii "host", [Bytes.ascii "h"]⟩,
      ⟨Bytes.ascii "content-length", [Bytes.ascii "3", Bytes.ascii "5"]⟩]⟩
    let h : RequestHead :=
      ⟨Bytes.ascii "POST", Bytes.ascii "/", Bytes.ascii "h", Bytes.ascii "/", fields, raw⟩
    let uri : Message.Uri := ⟨some Message.Uri.http, Bytes.ascii "h", Bytes.ascii "/"⟩
    let client := Peered.fresh 64 (Bytes.ascii "abcde")
    let f := forwarded h uri (Bytes.ascii "abc")
    let moves : List (Move Peered Peered) :=
      [.client (client.sends 5), .go, .go, .go, .go, .answer ⟨.exchange f, .expired⟩]
    let c : Context := ⟨{}, ⟨1, "127.0.0.1:50000"⟩⟩
    RequestHead.parse raw = .ok h ∧ h.isTunnel = false ∧ (traffic client).given = [] ∧
      IsAmbiguous h ∧ ∃ s, (Standing.start 8 client (forward c h).run).run moves = some s ∧
        s.past = [⟨.exchange f, .expired⟩, ⟨.body 3, .got (Bytes.ascii "abc")⟩] ∧
        f.fields.getAll Message.Name.contentLength = [Bytes.ascii "3", Bytes.ascii "5"] ∧
        s.shown = [(.outbound, raw ++ Bytes.ascii "abc")] ∧ ¬ Unambiguous h s := by
  intro raw fields h uri client f moves c
  have goes : ((Standing.start 8 client (forward c h).run).run moves).any fun s =>
      decide (s.past = [⟨.exchange f, .expired⟩, ⟨.body 3, .got (Bytes.ascii "abc")⟩] ∧
        s.shown = [(.outbound, raw ++ Bytes.ascii "abc")]) := by
    decide +kernel
  obtain ⟨s, ran, reached⟩ := (Option.any_eq_true _ _).mp goes
  obtain ⟨past, shown⟩ := of_decide_eq_true reached
  have values : f.fields.getAll Message.Name.contentLength =
      [Bytes.ascii "3", Bytes.ascii "5"] := by decide +kernel
  have ambiguous : IsAmbiguous h := by decide +kernel
  refine ⟨by decide +kernel, by decide, rfl, ambiguous, s, ran, past, values, shown, ?_⟩
  intro agrees
  have comes : Comes s.rest.turn s.past (.exchange f) := by
    apply Or.inr
    rw [past]
    exact List.mem_cons_self
  have stated := (agrees.stated f comes).2 (Bytes.ascii "5") (by rw [values]; decide)
  exact absurd stated (by decide +kernel)

end Wiretap.Session
