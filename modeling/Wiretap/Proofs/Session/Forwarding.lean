import Wiretap.Proofs.Message.ReplyForm
import Wiretap.Proofs.Session.Chronicle

/-!
# Requests are passed on as they came

Three copies of a request leave the proxy: observers are shown the bytes that came, the host is sent
the request with its fields and its body, and the body is read from behind the head.  They stay in
step: where the host has been asked, it has been asked for what the client sent, and observers have
been shown that and nothing else (`Sent`, `Going`).  The response goes back the same way: observers
are shown the bytes that the client is written, and only those are written (`Returns`).

A request comes to this by stages: its head has been read (`Arrived`), its body has been
(`Loaded`), the host has answered (`Responded`), and the whole response has come (`Answering`).
Serving it keeps to them, whatever is answered (`Arrived.forwards_forward`).
-/

namespace Wiretap.Session

set_option autoImplicit false

open Message (RequestHead endToEnd hopNames)
open Transport (ByteStream LawfulStream traffic)

/-! ## What is passed on -/

/-- What a host is asked for: what its client asked for, with the fields that are not about one
hop, and with the first bytes of the text behind the head as the body. -/
structure Faithful (h : RequestHead) (text : Bytes) (length : Nat) (f : Forwarded) : Prop where
  method : f.method = h.method
  /-- Order and repeated values are kept. -/
  fields : f.fields.toList = h.fields.toList.filter fun line => line.1 ∉ hopNames
  body : f.body = text.take length
  whole : f.body.length = length

theorem faithful_forwarded (h : RequestHead) (uri : Message.Uri) {text : Bytes} {length : Nat}
    (enough : length ≤ text.length) :
    Faithful h text length (forwarded h uri (text.take length)) where
  method := rfl
  fields := by
    rw [forwarded, endToEnd, Message.Fields.toList_keep]
    simp
  body := rfl
  whole := List.length_take_of_le enough

/-- A response as it is passed back. -/
def passedBack (response : ResponseHead) (body : Bytes) : Bytes :=
  Message.Reply.head response.status (endToEnd response.fields) body.length ++ body

/-! ## How far a request has come -/

/-- The question waits for its answer, or has been answered. -/
def Comes (turn : Turn) (past : List Answered) (q : Question) : Prop :=
  turn = .asking q ∨ q ∈ past.map (·.question)

namespace Question

/-- Whether a question is for the host that a request is passed on to. -/
def isForwarding : Question → Bool
  | exchange _ => true
  | responseBody => true
  | _ => false

/-- Whether a question is asked to find out what a client wants. -/
def isOpening : Question → Bool
  | firstByte => true
  | head => true
  | _ => false

/-- Whether a question is asked where nothing has been passed on. -/
def isAside : Question → Bool
  | body _ => false
  | exchange _ => false
  | responseBody => false
  | _ => true

/-- Whether a question is asked about a request that is passed on; none of these reads from the
client. -/
def isFollowing : Question → Bool
  | exchange _ => true
  | responseBody => true
  | reply _ => true
  | _ => false

end Question

variable {l l' : Ledger}

theorem unread_of_underway {q : Question} {e : Effort} (follows : q.isFollowing)
    (underway : Underway q e l l') : l.unread = l'.unread := by
  cases q with
  | exchange | responseBody =>
    obtain ⟨_, rfl, moves⟩ := underway
    exact moves.unread
  | reply =>
    obtain ⟨_, ⟨_, _, rfl⟩, moves⟩ := underway
    exact moves.unread
  | _ => cases follows

theorem unread_of_settles {q : Question} {a : q.Answer} (follows : q.isFollowing)
    (settles : Settles q a l l') : l.unread = l'.unread := by
  cases q with
  | exchange | responseBody => exact settles.unread
  | reply =>
    cases a with
    | got => exact settles.1.unread
    | failed | expired =>
      obtain ⟨_, _, moves⟩ := settles
      exact moves.unread
  | _ => cases follows

/-- The request as it is passed on, where the text behind its head is known. -/
def passedOn (h : RequestHead) (text : Bytes) (p : Plan) : Forwarded :=
  forwarded h p.uri (text.take p.length)

/-- Nothing has been passed on, and no body waits to be. -/
structure Unsent (turn : Turn) (ch : Chronicle) : Prop where
  past : ∀ x ∈ ch.past, x.question.isForwarding = false
  asks : ∀ q, turn = .asking q → q.isForwarding = false
  waits : turn ≠ .telling → ∀ n body, ⟨.body n, .got body⟩ ∉ ch.past

/-- A request, whose body is at the beginning of a text, has been shown and is passed on. -/
structure Sent (h : RequestHead) (text : Bytes) (p : Plan) (ch : Chronicle) : Prop where
  enough : p.length ≤ text.length
  unread : ch.ledger.unread = text.drop p.length
  outbound : payloads .outbound ch.shown = [h.raw ++ text.take p.length]
  body : ∀ n body, ⟨.body n, .got body⟩ ∈ ch.past → body = text.take p.length
  once : ∀ f a, ⟨.exchange f, a⟩ ∈ ch.past → f = passedOn h text p

/-- How far the bytes have come that the client is given for a response. -/
structure Returns (wire : Bytes) (turn : Turn) (ch : Chronicle) : Prop where
  written : ch.ledger.written <+: wire
  shown : ∀ w, Comes turn ch.past (.reply w) → w = wire ∧ payloads .inbound ch.shown = [wire]
  unwritten : ∀ w, turn = .asking (.reply w) → ch.ledger.written = []
  delivered : ∀ w, ⟨.reply w, .got ()⟩ ∈ ch.past →
    ch.ledger.written = wire ∧ wire <+: ch.ledger.passed

/-- What is known at a turn where a request has been passed on. -/
structure Going (h : RequestHead) (text : Bytes) (p : Plan) (turn : Turn) (ch : Chronicle) : Prop
    extends Sent h text p ch where
  comes : Comes turn ch.past (.exchange (passedOn h text p))
  asks : ∀ q, turn = .asking q → q.isFollowing ∧ ∀ f, q = .exchange f → f = passedOn h text p
  returns : ∀ f response body, ⟨.exchange f, .got response⟩ ∈ ch.past →
    ⟨.responseBody, .got body⟩ ∈ ch.past → Returns (passedBack response body) turn ch

/-- Nothing has been passed on, or the request has been as it came. -/
def forwarding (h : RequestHead) (text : Bytes) : Law := fun turn ch =>
  Unsent turn ch ∨ ∃ p, plan h = .ok p ∧ Going h text p turn ch

/-! ## Before a request is passed on -/

/-- Only such questions have been answered. -/
def Answered.Only (may : Question → Bool) (past : List Answered) : Prop :=
  ∀ x ∈ past, may x.question

theorem Answered.only_cons {may : Question → Bool} {past : List Answered} {q : Question}
    {a : q.Answer} (one : may q) (only : Answered.Only may past) :
    Answered.Only may (⟨q, a⟩ :: past) :=
  List.forall_mem_cons.mpr ⟨one, only⟩

theorem Question.isForwarding_of_isAside {q : Question} (aside : q.isAside) :
    q.isForwarding = false := by
  cases q with
  | exchange | responseBody => cases aside
  | _ => rfl

/-- Where no body has arrived nothing has been passed on. -/
theorem unsent_of_only {turn : Turn} {ch : Chronicle}
    (only : Answered.Only Question.isAside ch.past)
    (asks : ∀ q, turn = .asking q → q.isForwarding = false) : Unsent turn ch where
  past x member := Question.isForwarding_of_isAside (only x member)
  asks := asks
  waits _ n body member := by cases only _ member

theorem covers_aside (h : RequestHead) (text : Bytes) :
    Covers (forwarding h text) Question.isAside fun ch =>
      Answered.Only Question.isAside ch.past where
  telling ch only := .inl (unsent_of_only only nofun)
  asking q ch aside only := by
    refine .inl (unsent_of_only only ?_)
    rintro _ ⟨⟩
    exact Question.isForwarding_of_isAside aside
  tells n ch only := only
  answers q a l ch aside only _ := Answered.only_cons aside only

variable {h : RequestHead} {text : Bytes} {p : Plan} {ch : Chronicle}

/-- What is known at the end where nothing has been passed on. -/
theorem forwarding_ended (only : Answered.Only Question.isAside ch.past) :
    forwarding h text .ended ch := .inl (unsent_of_only only nofun)

/-- Where nothing is passed on, nothing has to be known of what is. -/
theorem upholds_of_asks_aside {α : Type} {t : Task α} (asks : Task.Asks Question.isAside t)
    (only : Answered.Only Question.isAside ch.past) :
    Task.Holds (upholding (forwarding h text)) (fun _ => forwarding h text .ended)
      (fun _ => forwarding h text .ended) t ch :=
  (Task.upholds_of_asks asks (covers_aside h text) only).mono (fun _ _ => forwarding_ended)
    fun _ _ => forwarding_ended

theorem asks_tunnelConnected (c : Context) (target : Bytes) :
    Task.Asks Question.isAside (tunnelConnected c target) := by
  refine .bind (asks_reply rfl) fun _ => .bind (Task.within_ask rfl) fun _ =>
    .bind (Task.within_get _) fun ahead => ?_
  dsimp only
  split
  · exact .bind (Task.asks_report ..) fun _ => .bind (Task.within_ask rfl) fun _ =>
      asks_tunnelEnded ..
  · exact .bind (Task.within_ask rfl) fun _ => .bind (Task.within_get _) fun _ =>
      .bind (Task.asks_report ..) fun _ => .bind (Task.within_ask rfl) fun _ => asks_tunnelEnded ..

/-- For a tunnel nothing is passed on. -/
theorem asks_tunnel (c : Context) (h : RequestHead) :
    Task.Asks Question.isAside (tunnel c h) := by
  refine .bind (Task.within_ask rfl) fun a => ?_
  split
  · exact asks_tunnelConnected c h.host
  · exact asks_tunnelFailed c h.host _ fun _ => rfl

/-- The head of a request has been read and nothing else, so that the text behind it is next. -/
structure Arrived (text : Bytes) (ch : Chronicle) : Prop where
  past : Answered.Only Question.isOpening ch.past
  unread : ch.ledger.unread = text
  written : ch.ledger.written = []
  shown : ch.shown = []

/-- The body of a request has been read behind its head. -/
structure Loaded (text : Bytes) (length : Nat) (ch : Chronicle) : Prop where
  enough : length ≤ text.length
  past : ∃ opened, ch.past = ⟨.body length, .got (text.take length)⟩ :: opened ∧
    Answered.Only Question.isOpening opened
  unread : ch.ledger.unread = text.drop length
  written : ch.ledger.written = []

theorem Question.isAside_of_isOpening {q : Question} (opening : q.isOpening) : q.isAside := by
  cases q with
  | firstByte | head => rfl
  | _ => cases opening

theorem Arrived.aside (arrived : Arrived text ch) :
    Answered.Only Question.isAside ch.past := fun x member =>
  Question.isAside_of_isOpening (arrived.past x member)

/-- The body that arrives is the first bytes of the text. -/
theorem Arrived.loaded {n : Nat} {body : Bytes} {l : Ledger} (arrived : Arrived text ch)
    (settles : Settles (.body n) (.got body) ch.ledger l) :
    body = text.take n ∧ Loaded text n (ch.answer ⟨.body n, .got body⟩ l) := by
  obtain ⟨whole, moves⟩ := settles
  have split : text = body ++ l.unread := arrived.unread.symm.trans moves.unread
  have first : body = text.take n := by rw [split, ← whole, List.take_left]
  refine ⟨first, ?_, ⟨ch.past, by rw [← first]; rfl, arrived.past⟩, ?_, ?_⟩
  · rw [split, List.length_append]
    omega
  · rw [split, ← whole, List.drop_left]
    rfl
  · exact moves.written.trans (by rw [arrived.written]; rfl)

/-- A body that has not arrived is not passed on. -/
theorem Arrived.unsent {n : Nat} {a : Reading Bytes} {l : Ledger} (arrived : Arrived text ch)
    (none : ∀ body, a ≠ .got body) : Unsent .ended (ch.answer ⟨.body n, a⟩ l) where
  past := List.forall_mem_cons.mpr
    ⟨rfl, fun x member => Question.isForwarding_of_isAside (arrived.aside x member)⟩
  asks := nofun
  waits _ m body member := by
    obtain _ | ⟨_, member⟩ := member
    · exact none body rfl
    · cases arrived.aside _ member

theorem Loaded.unsent {n : Nat} (loaded : Loaded text n ch) : Unsent .telling ch where
  past x member := by
    obtain ⟨opened, past, only⟩ := loaded.past
    rw [past] at member
    obtain _ | ⟨_, member⟩ := member
    · rfl
    · exact Question.isForwarding_of_isAside (Question.isAside_of_isOpening (only x member))
  asks := nofun
  waits telling := absurd rfl telling

/-! ## While a request is passed on -/

theorem Sent.answer {q : Question} {a : q.Answer} {l : Ledger} (sent : Sent h text p ch)
    (follows : q.isFollowing) (once : ∀ f, q = .exchange f → f = passedOn h text p)
    (settles : Settles q a ch.ledger l) : Sent h text p (ch.answer ⟨q, a⟩ l) where
  enough := sent.enough
  unread := (unread_of_settles follows settles).symm.trans sent.unread
  outbound := sent.outbound
  body n body member := by
    obtain _ | ⟨_, member⟩ := member
    · cases follows
    · exact sent.body n body member
  once f a member := by
    obtain _ | ⟨_, member⟩ := member
    · exact once f rfl
    · exact sent.once f a member

/-- Where the host has been asked, the request has been passed on. -/
theorem Sent.going {turn : Turn} (sent : Sent h text p ch)
    (asked : .exchange (passedOn h text p) ∈ ch.past.map (·.question))
    (asks : ∀ q, turn = .asking q → q.isFollowing ∧ ∀ f, q ≠ .exchange f)
    (returns : ∀ f response body, ⟨.exchange f, .got response⟩ ∈ ch.past →
      ⟨.responseBody, .got body⟩ ∈ ch.past → Returns (passedBack response body) turn ch) :
    Going h text p turn ch where
  toSent := sent
  comes := .inr asked
  asks q asking := by
    obtain ⟨follows, other⟩ := asks q asking
    exact ⟨follows, fun f same => absurd same (other f)⟩
  returns := returns

theorem Loaded.going (loaded : Loaded text p.length ch)
    (outbound : payloads .outbound ch.shown = [h.raw ++ text.take p.length]) :
    Going h text p (.asking (.exchange (passedOn h text p))) ch := by
  have unasked : ∀ f a, ⟨.exchange f, a⟩ ∉ ch.past := fun f a member => by
    cases loaded.unsent.past _ member
  refine ⟨⟨loaded.enough, loaded.unread, outbound, fun n body member => ?_, fun f a member =>
    absurd member (unasked f a)⟩, .inl rfl, ?_, fun f response _ member =>
    absurd member (unasked f _)⟩
  · obtain ⟨opened, past, only⟩ := loaded.past
    rw [past] at member
    obtain _ | ⟨_, member⟩ := member
    · rfl
    · cases only _ member
  · rintro _ ⟨⟩
    refine ⟨rfl, ?_⟩
    rintro _ ⟨⟩
    rfl

/-- The host has answered, and the client has been given and shown nothing. -/
structure Responded (h : RequestHead) (text : Bytes) (p : Plan) (answer : Received ResponseHead)
    (ch : Chronicle) : Prop extends Sent h text p ch where
  asked : .exchange (passedOn h text p) ∈ ch.past.map (·.question)
  answered : ∀ f a, ⟨.exchange f, a⟩ ∈ ch.past → a = answer
  unreplied : ∀ w a, ⟨.reply w, a⟩ ∉ ch.past
  written : ch.ledger.written = []
  inbound : payloads .inbound ch.shown = []

theorem Loaded.responded {a : Received ResponseHead} {l : Ledger}
    (loaded : Loaded text p.length ch)
    (outbound : payloads .outbound ch.shown = [h.raw ++ text.take p.length])
    (inbound : payloads .inbound ch.shown = [])
    (settles : Settles (.exchange (passedOn h text p)) a ch.ledger l) :
    Responded h text p a (ch.answer ⟨.exchange (passedOn h text p), a⟩ l) := by
  refine ⟨(loaded.going outbound).toSent.answer rfl ?_ settles, List.mem_cons_self, ?_, ?_, ?_,
    inbound⟩
  · rintro _ ⟨⟩
    rfl
  · intro f a member
    obtain _ | ⟨_, member⟩ := member
    · rfl
    · cases loaded.unsent.past _ member
  · intro w a member
    obtain _ | ⟨_, member⟩ := member
    obtain ⟨opened, past, only⟩ := loaded.past
    rw [past] at member
    obtain _ | ⟨_, member⟩ := member
    cases only _ member
  · exact settles.written.trans (by rw [loaded.written]; rfl)

/-- The body of the response has been asked for, and the client has been given nothing still. -/
theorem Responded.answer {answer : Received ResponseHead} {a : Received Bytes} {l : Ledger}
    (responded : Responded h text p answer ch) (settles : Settles .responseBody a ch.ledger l) :
    Responded h text p answer (ch.answer ⟨.responseBody, a⟩ l) where
  toSent := responded.toSent.answer rfl nofun settles
  asked := List.mem_cons_of_mem _ responded.asked
  answered f a member := by
    obtain _ | ⟨_, member⟩ := member
    exact responded.answered f a member
  unreplied w a member := by
    obtain _ | ⟨_, member⟩ := member
    exact responded.unreplied w a member
  written := settles.written.trans (by rw [responded.written]; rfl)
  inbound := responded.inbound

/-- A task in the course of which a request is passed on as it came. -/
abbrev Forwards (h : RequestHead) (text : Bytes) (t : Task Unit) (ch : Chronicle) : Prop :=
  Task.Holds (upholding (forwarding h text)) (fun _ => forwarding h text .ended)
    (fun _ => forwarding h text .ended) t ch

/-- No response has arrived whole. -/
def Unanswered (past : List Answered) : Prop := ∀ body, ⟨.responseBody, .got body⟩ ∉ past

section

variable {answer : Received ResponseHead} (planned : plan h = .ok p)
  (responded : Responded h text p answer ch) (unanswered : Unanswered ch.past)

include planned responded unanswered

theorem Responded.telling : forwarding h text .telling ch :=
  .inr ⟨p, planned, responded.toSent.going responded.asked nofun fun _ _ body _ member =>
    absurd member (unanswered body)⟩

/-- A client whose request failed is told so. -/
theorem Responded.forwards_reply (response : Bytes) : Forwards h text (reply response) ch := by
  have law {turn : Turn} {ch : Chronicle} (sent : Sent h text p ch)
      (asked : .exchange (passedOn h text p) ∈ ch.past.map (·.question))
      (asks : ∀ q, turn = .asking q → q.isFollowing ∧ ∀ f, q ≠ .exchange f)
      (unanswered : Unanswered ch.past) : forwarding h text turn ch :=
    .inr ⟨p, planned, sent.going asked asks fun _ _ body _ member =>
      absurd member (unanswered body)⟩
  rw [Forwards, reply, Task.holds_bind, Task.upholds_ask]
  refine ⟨law responded.toSent responded.asked ?_ unanswered, fun a l settles => ?_⟩
  · rintro _ ⟨⟩
    exact ⟨rfl, nofun⟩
  · have ended : forwarding h text .ended (ch.answer ⟨.reply response, a⟩ l) := by
      refine law (responded.toSent.answer rfl nofun settles)
        (List.mem_cons_of_mem _ responded.asked) nofun fun body member => ?_
      obtain _ | ⟨_, member⟩ := member
      exact unanswered body member
    rw [Task.holds_get]
    cases a <;> exact ended

theorem Responded.forwards_forwardExpired : Forwards h text forwardExpired ch := by
  rw [Forwards, forwardExpired, Task.holds_bind, Task.upholds_tell]
  exact ⟨responded.telling planned unanswered,
    responded.forwards_reply planned unanswered _⟩

theorem Responded.forwards_forwardFailed (c : Context) (message : String) :
    Forwards h text (forwardFailed c message) ch := by
  rw [Forwards, forwardFailed, Task.holds_bind]
  refine Task.upholds_report (responded.telling planned unanswered) ?_
  rw [Task.holds_bind, Task.upholds_tell]
  exact ⟨responded.telling planned unanswered, responded.forwards_reply planned unanswered _⟩

end

/-- A response has arrived whole, and comes to the bytes that the client is to be given. -/
structure Answering (h : RequestHead) (text : Bytes) (p : Plan) (wire : Bytes) (ch : Chronicle) :
    Prop extends Sent h text p ch where
  asked : .exchange (passedOn h text p) ∈ ch.past.map (·.question)
  wire : ∀ f response body, ⟨.exchange f, .got response⟩ ∈ ch.past →
    ⟨.responseBody, .got body⟩ ∈ ch.past → passedBack response body = wire

variable {wire : Bytes}

theorem Answering.law {turn : Turn} (planned : plan h = .ok p)
    (answering : Answering h text p wire ch)
    (asks : ∀ q, turn = .asking q → q.isFollowing ∧ ∀ f, q ≠ .exchange f)
    (returns : Returns wire turn ch) : forwarding h text turn ch := by
  refine .inr ⟨p, planned, answering.toSent.going answering.asked asks ?_⟩
  intro f response body exchanged arrived
  rw [answering.wire f response body exchanged arrived]
  exact returns

/-- Showing observers what the client is to be given changes nothing else. -/
theorem Answering.show (answering : Answering h text p wire ch) (data : Bytes) :
    Answering h text p wire (ch.tell (.hook (.packet .inbound data))) := by
  obtain ⟨⟨enough, unread, outbound, body, once⟩, asked, same⟩ := answering
  exact ⟨⟨enough, unread, outbound, body, once⟩, asked, same⟩

theorem Answering.answer {response : Bytes} {a : Reading Unit} {l : Ledger}
    (answering : Answering h text p wire ch) (settles : Settles (.reply response) a ch.ledger l) :
    Answering h text p wire (ch.answer ⟨.reply response, a⟩ l) where
  toSent := answering.toSent.answer rfl nofun settles
  asked := List.mem_cons_of_mem _ answering.asked
  wire f response body exchanged arrived := by
    obtain _ | ⟨_, exchanged⟩ := exchanged
    obtain _ | ⟨_, arrived⟩ := arrived
    exact answering.wire f response body exchanged arrived

/-- Before the client is given anything, nothing needs to have been shown. -/
theorem returns_unreplied (unreplied : ∀ w a, ⟨.reply w, a⟩ ∉ ch.past)
    (written : ch.ledger.written = []) : Returns wire .telling ch where
  written := written ▸ List.nil_prefix
  shown w comes := by
    obtain asking | past := comes
    · cases asking
    · obtain ⟨⟨_, a⟩, member, rfl⟩ := List.mem_map.mp past
      exact absurd member (unreplied w a)
  unwritten := nofun
  delivered w member := absurd member (unreplied w _)

/-- Once the client has been given an answer, that is what has been shown. -/
theorem returns_replied {turn : Turn} {a : Reading Unit} {l : Ledger}
    (quiet : ∀ w, turn ≠ .asking (.reply w)) (unreplied : ∀ w a, ⟨.reply w, a⟩ ∉ ch.past)
    (shown : payloads .inbound ch.shown = [wire]) (written : ch.ledger.written = [])
    (settles : Settles (.reply wire) a ch.ledger l) :
    Returns wire turn (ch.answer ⟨.reply wire, a⟩ l) where
  written := by
    cases a with
    | got =>
      have whole : l.written = wire := by rw [settles.1.written, written, List.nil_append]
      exact whole ▸ List.prefix_refl _
    | failed | expired =>
      obtain ⟨given, begins, moves⟩ := settles
      have part : l.written = given := by rw [moves.written, written, List.nil_append]
      exact part ▸ begins
  shown w comes := by
    obtain asking | past := comes
    · exact absurd asking (quiet w)
    · obtain ⟨⟨_, a⟩, member, rfl⟩ := List.mem_map.mp past
      obtain _ | ⟨_, member⟩ := member
      · exact ⟨rfl, shown⟩
      · exact absurd member (unreplied w a)
  unwritten w asking := absurd asking (quiet w)
  delivered w member := by
    obtain _ | ⟨_, member⟩ := member
    · obtain ⟨moves, flushed⟩ := settles
      have whole : l.written = wire := by rw [moves.written, written, List.nil_append]
      exact ⟨whole, (flushed.trans whole) ▸ List.prefix_refl _⟩
    · exact absurd member (unreplied w _)

theorem Responded.forwards_passBack {response : ResponseHead} {body : Bytes} (c : Context)
    (planned : plan h = .ok p) (responded : Responded h text p (.got response) ch)
    (arrived : ∀ other, ⟨.responseBody, .got other⟩ ∈ ch.past → other = body) :
    Forwards h text (passBack c h response body) ch := by
  have answering : Answering h text p (passedBack response body) ch := by
    refine ⟨responded.toSent, responded.asked, fun f r b exchanged whole => ?_⟩
    cases responded.answered f _ exchanged
    rw [arrived b whole]
  rw [Forwards, passBack, Task.holds_bind, Task.upholds_tell]
  refine ⟨answering.law planned nofun (returns_unreplied responded.unreplied responded.written), ?_⟩
  have shown := answering.show (passedBack response body)
  have inbound : payloads .inbound
      (ch.tell (.hook (.packet .inbound (passedBack response body)))).shown =
        [passedBack response body] := congrArg (passedBack response body :: ·) responded.inbound
  rw [Task.holds_bind, Task.upholds_tell]
  refine ⟨shown.law planned nofun (returns_unreplied responded.unreplied responded.written), ?_⟩
  rw [Task.holds_bind, reply, Task.holds_bind, Task.upholds_ask]
  refine ⟨shown.law planned ?_ ⟨?_, ?_, fun _ _ => responded.written, ?_⟩, fun a l settles => ?_⟩
  · rintro _ ⟨⟩
    exact ⟨rfl, nofun⟩
  · exact (returns_unreplied responded.unreplied responded.written).written
  · intro w comes
    obtain ⟨⟨⟩⟩ | past := comes
    · exact ⟨rfl, inbound⟩
    · obtain ⟨⟨_, a⟩, member, rfl⟩ := List.mem_map.mp past
      exact absurd member (responded.unreplied w a)
  · exact fun w member => absurd member (responded.unreplied w _)
  · have replied {turn : Turn} (quiet : ∀ q, turn ≠ .asking q) : forwarding h text turn
        ((ch.tell (.hook (.packet .inbound (passedBack response body)))).answer
          ⟨.reply (passedBack response body), a⟩ l) :=
      (shown.answer settles).law planned (fun q asking => absurd asking (quiet q))
        (returns_replied (fun w => quiet _) responded.unreplied inbound responded.written settles)
    rw [Task.holds_get]
    cases a with
    | got => exact Task.upholds_report (replied nofun) (replied nofun)
    | failed | expired => exact replied nofun

theorem Responded.forwards_receive {response : ResponseHead} (c : Context)
    (planned : plan h = .ok p) (responded : Responded h text p (.got response) ch)
    (unanswered : Unanswered ch.past) : Forwards h text (receive c h response) ch := by
  rw [Forwards, receive, Task.holds_bind, Task.upholds_ask]
  refine ⟨?_, fun a l settles => ?_⟩
  · refine .inr ⟨p, planned, responded.toSent.going responded.asked ?_ fun _ _ body _ member =>
      absurd member (unanswered body)⟩
    rintro _ ⟨⟩
    exact ⟨rfl, nofun⟩
  have next := responded.answer settles
  cases a with
  | got body =>
    refine next.forwards_passBack c planned fun other member => ?_
    obtain _ | ⟨_, member⟩ := member
    · rfl
    · exact absurd member (unanswered other)
  | failed why =>
    refine next.forwards_forwardFailed planned (fun body member => ?_) c _
    obtain _ | ⟨_, member⟩ := member
    exact unanswered body member
  | expired =>
    refine next.forwards_forwardExpired planned fun body member => ?_
    obtain _ | ⟨_, member⟩ := member
    exact unanswered body member

theorem Loaded.forwards_passOn (c : Context) (planned : plan h = .ok p)
    (loaded : Loaded text p.length ch) (shown : ch.shown = []) :
    Forwards h text (passOn c h p.uri (text.take p.length)) ch := by
  rw [Forwards, passOn, Task.holds_bind, Task.upholds_tell]
  refine ⟨.inl loaded.unsent, ?_⟩
  have reported : Loaded text p.length
      (ch.tell (.hook (.packet .outbound (h.raw ++ text.take p.length)))) :=
    ⟨loaded.enough, loaded.past, loaded.unread, loaded.written⟩
  have outbound : payloads .outbound
      (ch.tell (.hook (.packet .outbound (h.raw ++ text.take p.length)))).shown =
        [h.raw ++ text.take p.length] := by
    rw [Chronicle.tell, shown]
    rfl
  rw [Task.holds_bind, Task.upholds_tell]
  refine ⟨.inl reported.unsent, ?_⟩
  rw [Task.holds_bind]
  refine Task.upholds_report (.inl reported.unsent) ?_
  rw [Task.holds_bind, Task.upholds_ask]
  refine ⟨.inr ⟨p, planned, reported.going outbound⟩, fun a l settles => ?_⟩
  have responded : Responded h text p a _ := reported.responded outbound (by
    rw [Chronicle.tell, shown]
    rfl) settles
  have unanswered : Unanswered (⟨.exchange (passedOn h text p), a⟩ :: ch.past) := by
    intro body member
    obtain _ | ⟨_, member⟩ := member
    cases loaded.unsent.past _ member
  cases a with
  | got response => exact responded.forwards_receive c planned unanswered
  | failed why => exact responded.forwards_forwardFailed planned unanswered c _
  | expired =>
    rw [Task.holds_bind]
    exact Task.upholds_report (responded.telling planned unanswered)
      (responded.forwards_forwardExpired planned unanswered)

/-- **A request is passed on as it came, and its response is passed back as it is shown.** -/
theorem Arrived.forwards_forward (c : Context) (h : RequestHead) (arrived : Arrived text ch) :
    Forwards h text (forward c h) ch := by
  rw [Forwards, forward]
  cases planned : plan h with
  | error refused =>
    exact upholds_of_asks_aside (asks_reply rfl) arrived.aside
  | ok p =>
    rw [Task.holds_bind, Task.upholds_ask]
    refine ⟨.inl (unsent_of_only arrived.aside ?_), fun a l settles => ?_⟩
    · rintro _ ⟨⟩
      rfl
    rw [Task.holds_bind, Task.holds_get]
    cases a with
    | failed | expired => exact .inl (arrived.unsent (by rintro _ ⟨⟩))
    | got body =>
      obtain ⟨rfl, loaded⟩ := arrived.loaded settles
      exact loaded.forwards_passOn c planned arrived.shown

/-! ## Questions that come -/

/-- Nothing comes but such questions. -/
def coming (may : Question → Bool) : Law := fun turn ch => ∀ q, Comes turn ch.past q → may q

theorem coming_of_only {may : Question → Bool} {turn : Turn}
    (only : Answered.Only may ch.past) (asks : ∀ q, turn = .asking q → may q) :
    coming may turn ch := by
  intro q comes
  obtain now | past := comes
  · exact asks q now
  · obtain ⟨x, member, rfl⟩ := List.mem_map.mp past
    exact only x member

theorem covers_coming (may : Question → Bool) :
    Covers (coming may) may fun ch => Answered.Only may ch.past where
  telling _ only := coming_of_only only nofun
  asking _ _ one only := coming_of_only only fun _ same => Turn.asking.inj same ▸ one
  tells _ _ only := only
  answers _ _ _ _ one only _ := Answered.only_cons one only

/-- Questions that a task does not ask do not come. -/
theorem comes_of_asks {σ τ α : Type} [ByteStream σ] [ByteStream τ] [LawfulStream σ]
    [LawfulStream τ] {bufferSize : Nat} {stream : σ} {may : Question → Bool} {t : Task α}
    {moves : List (Move σ τ)} {s : Standing σ τ (Except Fault α)} {q : Question}
    (asks : Task.Asks may t)
    (ran : (Standing.start bufferSize stream t.run).run moves = some s)
    (comes : Comes s.rest.turn s.past q) : may q := by
  have none : Answered.Only may ([] : List Answered) := nofun
  have upholds : Task.Holds (upholding (coming may)) (fun _ => coming may .ended)
      (fun _ => coming may .ended) t { ledger := .opening bufferSize (traffic stream) } :=
    (Task.upholds_of_asks asks (covers_coming may) none).mono
      (fun _ _ only => coming_of_only only nofun) fun _ _ only => coming_of_only only nofun
  obtain ⟨_, _, holds⟩ := Standing.holds_of_run upholds ran
  exact holds q comes

/-! ## Between two turns -/

variable {σ τ α : Type} [ByteStream σ] [ByteStream τ]

/-- At a turn where nothing but a request that is passed on is asked about, the streams stand as the
chronicle says but for what the client is being given. -/
theorem Going.unread_of_stands {s : Standing σ τ α} {l : Ledger}
    (going : Going h text p s.rest.turn ⟨l, s.past, s.shown⟩) (stands : s.Stands l) :
    s.post.ledger.unread = text.drop p.length := by
  have unread : l.unread = text.drop p.length := going.unread
  rw [Standing.Stands] at stands
  split at stands
  · next q next asked =>
    have follows := (going.asks q (by rw [asked]; rfl)).1
    rw [← unread_of_underway follows stands.1, unread]
  · rw [← unread]
    exact stands.unread.symm

/-- What the client is given for a response is given to it from the first byte on. -/
theorem Going.returned_of_stands {s : Standing σ τ α} {l : Ledger}
    (going : Going h text p s.rest.turn ⟨l, s.past, s.shown⟩)
    (returns : Returns wire s.rest.turn ⟨l, s.past, s.shown⟩) (some : wire ≠ [])
    (stands : s.Stands l) :
    s.post.ledger.written <+: wire ∧ ∀ w, ⟨.reply w, .got ()⟩ ∈ s.past →
      s.post.ledger.written = wire ∧ wire <+: s.post.ledger.passed := by
  have still (rests : l.Rests s.post.ledger) :
      s.post.ledger.written <+: wire ∧ ∀ w, ⟨.reply w, .got ()⟩ ∈ s.past →
        s.post.ledger.written = wire ∧ wire <+: s.post.ledger.passed := by
    have same : s.post.ledger.written = l.written := rests.written.trans (List.append_nil _)
    rw [same]
    refine ⟨returns.written, fun w member => ?_⟩
    obtain ⟨whole, passed⟩ := returns.delivered w member
    exact ⟨whole, passed.trans rests.passed⟩
  rw [Standing.Stands] at stands
  split at stands
  · next q next asked =>
    have turn : s.rest.turn = .asking q := by rw [asked]; rfl
    have follows := (going.asks q turn).1
    cases q with
    | exchange | responseBody =>
      obtain ⟨⟨_, rfl, moves⟩, _⟩ := stands
      exact still moves
    | reply w =>
      obtain ⟨⟨_, ⟨given, split, rfl⟩, moves⟩, _⟩ := stands
      obtain ⟨rfl, _⟩ := returns.shown w (.inl turn)
      have none : l.written = [] := returns.unwritten w turn
      refine ⟨?_, fun w member => ?_⟩
      · rw [moves.written, none, split]
        exact List.prefix_append _ _
      · exact absurd ((returns.delivered w member).1.symm.trans none) some
    | _ => cases follows
  · exact still stands

end Wiretap.Session
