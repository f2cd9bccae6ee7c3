import Wiretap.Proofs.Message.HeadDelivery
import Wiretap.Proofs.Message.ReplyReading
import Wiretap.Proofs.Session.Forwarding
import Wiretap.Proofs.Transport.Peered

/-!
# Requests and responses are relayed

However the text of a client is cut on its way, and whatever empty lines stand in front of its head,
a request that is passed on is passed on as it came, and observers see what the host and the client
get (`dispatch_passes_on`).  Requests for a tunnel or an upgrade are served without passing anything
on (`Arrived.forwards_serveRequest`).  The client can read the response that it is given, since that
says in one way only where it ends, in however many ways the other host's did
(`forward_delimits`).
-/

namespace Wiretap.Session

set_option autoImplicit false

open Message (IsEmptyLine IsHead RequestHead cutLines cutLines_complete_iff decode?
  decode?_relayed relayedLines valuesOf_relayedLines)
open Message.Fields (valuesOf)
open Transport (ByteStream LawfulStream Peered traffic)

variable {h : RequestHead} {text : Bytes} {p : Plan} {ch : Chronicle}

/-! ## From the first byte on -/

/-- The request with the text behind it has been found, or nothing is passed on. -/
def Found (h : RequestHead) (text : Bytes) : Opening → Chronicle → Prop
  | .request found, ch => found = h ∧ Arrived text ch
  | _, ch => Answered.Only Question.isAside ch.past

/-- Reading a head takes the head, and the empty lines in front of it. -/
theorem Arrived.head {client raw : Bytes} {found : Message.HeadEnd} {l : Ledger}
    (arrived : Arrived client ch) (cut : cutLines [] client = (.complete raw, text))
    (room : 0 < ch.ledger.room) (settles : Settles .head (.got found) ch.ledger l) :
    found = .complete raw ∧ Arrived text (ch.answer ⟨.head, .got found⟩ l) := by
  obtain ⟨behind, taken, moves⟩ := settles
  have here := (behind room).symm.trans (arrived.unread ▸ cut)
  refine ⟨congrArg Prod.fst here, Answered.only_cons rfl arrived.past, congrArg Prod.snd here, ?_,
    arrived.shown⟩
  exact moves.written.trans (by rw [arrived.written]; rfl)

theorem Arrived.upholds_sniff {client raw : Bytes} (arrived : Arrived client ch)
    (cut : cutLines [] client = (.complete raw, text)) (reads : RequestHead.parse raw = .ok h)
    (room : 0 < ch.ledger.room) :
    Task.Holds (upholding (forwarding h text)) (Found h text)
      (fun _ ch => Answered.Only Question.isAside ch.past) sniff ch := by
  have quiet := covers_aside h text
  rw [sniff, Task.holds_bind, Task.upholds_ask]
  refine ⟨quiet.asking _ _ rfl arrived.aside, fun first l settles => ?_⟩
  rw [Task.holds_bind, Task.holds_get]
  cases first with
  | failed | expired => exact Answered.only_cons rfl arrived.aside
  | got first =>
    obtain ⟨_, rests⟩ := settles
    have looked : Arrived client (ch.answer ⟨.firstByte, .got first⟩ l) :=
      ⟨Answered.only_cons rfl arrived.past, rests.unread.symm.trans arrived.unread,
        rests.written.trans (by rw [arrived.written]; rfl), arrived.shown⟩
    cases first with
    | none => exact Task.holds_pure.mpr looked.aside
    | some b =>
      dsimp only [Reading.result]
      split
      · exact Task.holds_pure.mpr looked.aside
      · rw [Task.holds_bind, Task.upholds_ask]
        refine ⟨quiet.asking _ _ rfl looked.aside, fun found l' settles => ?_⟩
        rw [Task.holds_bind, Task.holds_get]
        cases found with
        | failed | expired => exact Answered.only_cons rfl looked.aside
        | got found =>
          obtain ⟨rfl, read⟩ := looked.head cut (rests.room ▸ room) settles
          dsimp only [Reading.result]
          rw [Task.holds_bind, Task.holds_get, Message.HeadEnd.result, reads]
          exact Task.holds_pure.mpr ⟨rfl, read⟩

/-- Only what is neither for an upgrade nor for a tunnel is passed on. -/
theorem Arrived.forwards_serveRequest (c : Context) (h : RequestHead) (arrived : Arrived text ch) :
    Forwards h text (serveRequest c h) ch := by
  rw [serveRequest]
  split
  · exact upholds_of_asks_aside
      (asks_upgrade c (fun _ => rfl) rfl (fun _ => rfl) rfl (fun _ => rfl) (fun _ => rfl) h)
      arrived.aside
  · split
    · exact upholds_of_asks_aside (asks_tunnel c h) arrived.aside
    · exact arrived.forwards_forward c h

theorem Found.aside {o : Opening} (found : Found h text o ch) :
    Answered.Only Question.isAside ch.past := by
  cases o with
  | nothing | greeting => exact found
  | request => exact found.2.aside

theorem Found.upholds_serve (c : Context) {o : Opening} (found : Found h text o ch) :
    Forwards h text (serve c o) ch := by
  cases o with
  | nothing => exact Task.holds_pure.mpr (forwarding_ended found)
  | greeting => exact upholds_of_asks_aside (asks_refuseGreeting c rfl rfl) found
  | request found' =>
    obtain ⟨rfl, arrived⟩ := found
    exact arrived.forwards_serveRequest c found'

theorem Found.upholds_serveOpening (c : Context) {o : Opening} (found : Found h text o ch) :
    (serveOpening c o).Holds (upholding (forwarding h text))
      (fun _ => forwarding h text .ended) ch := by
  rw [serveOpening]
  split
  · rw [Dialogue.holds_bind, Dialogue.upholds_note, Dialogue.holds_pure]
    exact ⟨.inl (unsent_of_only found.aside nofun), forwarding_ended found.aside⟩
  · rw [Dialogue.holds_bind]
    refine Context.upholds_announce (.inl (unsent_of_only found.aside nofun)) ?_
    rw [Dialogue.holds_bind, Task.holds_run]
    exact found.upholds_serve c

theorem Arrived.upholds_dispatch {client raw : Bytes} (c : Context) (arrived : Arrived client ch)
    (cut : cutLines [] client = (.complete raw, text)) (reads : RequestHead.parse raw = .ok h)
    (room : 0 < ch.ledger.room) :
    (dispatch c).Holds (upholding (forwarding h text)) (fun _ => forwarding h text .ended) ch := by
  rw [dispatch, Dialogue.holds_bind, Task.holds_run]
  refine (arrived.upholds_sniff cut reads room).mono
    (fun o ch found => found.upholds_serveOpening c) fun f ch only => ?_
  dsimp only
  split
  · rw [Dialogue.holds_bind, Task.holds_run]
    exact upholds_of_asks_aside (asks_rejectUnreadable rfl) only
  · exact forwarding_ended only

/-! ## Throughout a run -/

/-- What is known of a request, with a text behind its head, while its client is served. -/
structure PassesOn {σ τ : Type} [ByteStream σ] [ByteStream τ] (h : RequestHead) (text : Bytes)
    (p : Plan) (s : Standing σ τ Outcome) : Prop where
  /-- A body that has arrived is passed on next, if it has not been. -/
  goes : ∀ body, ⟨.body p.length, .got body⟩ ∈ s.past →
    Comes s.rest.next s.past (.exchange (forwarded h p.uri body))
  /-- The host is asked for what the client asked for, the bytes behind the body are not touched,
  and an executor of hooks has been called once for the request. -/
  whole : ∀ f, Comes s.rest.turn s.past (.exchange f) →
    Faithful h text p.length f ∧ s.post.ledger.unread = text.drop p.length ∧
      ∀ executor peer, (s.record executor peer).payloads .outbound = [h.raw ++ f.body]
  /-- Once a response has been passed back, it has been called once for what the client got. -/
  back : ∀ f response body wire, ⟨.exchange f, .got response⟩ ∈ s.past →
    ⟨.responseBody, .got body⟩ ∈ s.past → ⟨.reply wire, .got ()⟩ ∈ s.past →
      s.post.ledger.written <+: s.post.ledger.passed ∧
        ∀ executor peer, (s.record executor peer).payloads .inbound = [s.post.ledger.written]

variable {σ τ : Type}

theorem passedBack_ne_nil (response : ResponseHead) (body : Bytes) :
    passedBack response body ≠ [] := by
  simp [passedBack, Message.Reply.head, Bytes.crlf]

theorem raw_ne_nil {raw : Bytes} (isHead : IsHead raw) : raw ≠ [] := by
  obtain ⟨lines, last, _, _, isEmpty, rfl, _⟩ := isHead
  exact fun none => isEmpty.isLine.ne_nil (List.append_eq_nil_iff.mp none).2

/-- **A request is passed on as it came.**  Whatever is asked of the host has the method and the
fields of the head that the client sent, less those of one hop, and as its body exactly the bytes
behind the head; observers are shown the head and the body as they came, and what the client gets
for the response. -/
theorem dispatch_passes_on [ByteStream σ] [ByteStream τ] [LawfulStream σ] [LawfulStream τ]
    {bufferSize : Nat} (room : 0 < bufferSize) {stream : σ} {skipped : List Bytes}
    {raw text : Bytes} (areEmpty : ∀ line ∈ skipped, IsEmptyLine line) (isHead : IsHead raw)
    (sends : (traffic stream).coming = skipped.flatten ++ raw ++ text)
    (fresh : (traffic stream).given = []) {h : RequestHead} (reads : RequestHead.parse raw = .ok h)
    {p : Plan} (planned : plan h = .ok p) {c : Context} {moves : List (Move σ τ)}
    {s : Standing σ τ Outcome}
    (ran : (Standing.start bufferSize stream (dispatch c)).run moves = some s) :
    PassesOn h text p s := by
  have cut : cutLines [] (traffic stream).coming = (.complete raw, text) :=
    cutLines_complete_iff.mpr ⟨skipped, areEmpty, isHead, sends⟩
  have arrived : Arrived (traffic stream).coming
      { ledger := .opening bufferSize (traffic stream) } := ⟨nofun, rfl, fresh, rfl⟩
  obtain ⟨l, stands, upholds⟩ :=
    Standing.upholds_of_run (arrived.upholds_dispatch c cut reads room) ran
  have holds := upholds.law_turn
  refine ⟨fun body arrives => ?_, fun f comes => ?_, fun f response body wire exchanged whole
    delivered => ?_⟩
  · obtain ⟨shown, unsent | ⟨p', planned', going⟩⟩ := upholds.law_next
    · exact absurd arrives (unsent.waits (Dialogue.next_ne_telling _) _ _)
    · cases planned.symm.trans planned'
      cases going.body _ _ arrives
      exact going.comes
  · obtain unsent | ⟨p', planned', going⟩ := holds
    · obtain asking | past := comes
      · cases unsent.asks _ asking
      · obtain ⟨x, member, same⟩ := List.mem_map.mp past
        have quiet := unsent.past x member
        rw [same] at quiet
        cases quiet
    · cases planned.symm.trans planned'
      obtain rfl : f = passedOn h text p := by
        obtain asking | past := comes
        · exact (going.asks _ asking).2 f rfl
        · obtain ⟨⟨_, a⟩, member, rfl⟩ := List.mem_map.mp past
          exact going.once f a member
      refine ⟨faithful_forwarded h p.uri going.enough, going.unread_of_stands stands, ?_⟩
      refine Standing.payloads_record_singleton going.outbound fun none => raw_ne_nil isHead ?_
      rw [← RequestHead.raw_of_parse reads]
      exact (List.append_eq_nil_iff.mp none).1
  · obtain unsent | ⟨p', planned', going⟩ := holds
    · cases unsent.past _ exchanged
    · have returns := going.returns f response body exchanged whole
      have some := passedBack_ne_nil response body
      obtain ⟨written, passed⟩ :=
        (going.returned_of_stands returns some stands).2 wire delivered
      rw [written]
      have shown := (returns.shown wire (.inr (List.mem_map.mpr ⟨_, delivered, rfl⟩))).2
      exact ⟨passed, Standing.payloads_record_singleton shown some⟩

/-- A request that arrives in three pieces, with more behind it, and is answered. -/
theorem dispatch_passes_on_in_three :
    let raw := Bytes.ascii "POST /a HTTP/1.1\r\nHost: h\r\nTE: x\r\nContent-Length: 3\r\n\r\n"
    let text := Bytes.ascii "abcde"
    let fields : Message.Fields := ⟨[⟨Bytes.ascii "host", [Bytes.ascii "h"]⟩,
      ⟨Bytes.ascii "te", [Bytes.ascii "x"]⟩, ⟨Bytes.ascii "content-length", [Bytes.ascii "3"]⟩]⟩
    let h : RequestHead :=
      ⟨Bytes.ascii "POST", Bytes.ascii "/a", Bytes.ascii "h", Bytes.ascii "/a", fields, raw⟩
    let p : Plan := ⟨⟨some Message.Uri.http, Bytes.ascii "h", Bytes.ascii "/a"⟩, 3⟩
    let client := Peered.fresh 128 (Bytes.crlf ++ raw ++ text)
    let begun : Peered := { Peered.fresh 128 ((raw ++ text).drop 18) with
      taken := Bytes.crlf ++ raw.take 18 }
    let loaded : Peered := { Peered.fresh 128 (text.drop 1) with
      taken := Bytes.crlf ++ raw ++ text.take 1 }
    let head : ResponseHead := ⟨⟨200, by decide⟩, ⟨[⟨Bytes.ascii "age", [Bytes.ascii "1"]⟩]⟩⟩
    let moves : List (Move Peered Peered) :=
      [.client (client.sends 20), .go, .go, .client (begun.sends 38), .go, .go, .go,
        .client (loaded.sends 64), .go, .go, .go, .go,
        .answer ⟨.exchange (passedOn h text p), .got head⟩,
        .answer ⟨.responseBody, .got (Bytes.ascii "hello")⟩, .go, .go, .go]
    let c : Context := ⟨{}, ⟨1, "127.0.0.1:50000"⟩⟩
    ∃ s, (Standing.start 10 client (dispatch c)).run moves = some s ∧ 0 < 10 ∧
      (∀ line ∈ [Bytes.crlf], IsEmptyLine line) ∧ IsHead raw ∧
      (traffic client).coming = [Bytes.crlf].flatten ++ raw ++ text ∧
      (traffic client).given = [] ∧ RequestHead.parse raw = .ok h ∧ plan h = .ok p ∧
      PassesOn h text p s ∧ s.post.ledger.unread = Bytes.ascii "de" ∧
      ∀ executor peer,
        (s.record executor peer).payloads .outbound = [raw ++ Bytes.ascii "abc"] ∧
        (s.record executor peer).payloads .inbound = [s.post.ledger.written] := by
  intro raw text fields h p client begun loaded head moves c
  have goes : ((Standing.start 10 client (dispatch c)).run moves).any fun s =>
      decide (s.past.take 3 = [⟨.reply (passedBack head (Bytes.ascii "hello")), .got ()⟩,
        ⟨.responseBody, .got (Bytes.ascii "hello")⟩,
        ⟨.exchange (passedOn h text p), .got head⟩]) := by
    decide +kernel
  obtain ⟨s, ran, last⟩ := (Option.any_eq_true _ _).mp goes
  have last := of_decide_eq_true last
  have answered {x : Answered} (member : x ∈ s.past.take 3) : x ∈ s.past :=
    List.mem_of_mem_take member
  rw [last] at answered
  have empty : ∀ line ∈ [Bytes.crlf], IsEmptyLine line :=
    List.forall_mem_singleton.mpr (.inr rfl)
  have cut : cutLines [] (Bytes.crlf ++ raw) = (.complete raw, []) := by decide +kernel
  obtain ⟨_, _, isHead, _⟩ := cutLines_complete_iff.mp cut
  have sends : (traffic client).coming = [Bytes.crlf].flatten ++ raw ++ text := by decide +kernel
  have reads : RequestHead.parse raw = .ok h := by decide +kernel
  have planned : plan h = .ok p := by decide +kernel
  have passes := dispatch_passes_on (by decide) empty isHead sends rfl reads planned ran
  have exchanged := answered (.tail _ (.tail _ (.head _)))
  obtain ⟨_, unread, outbound⟩ :=
    passes.whole _ (.inr (List.mem_map.mpr ⟨_, exchanged, rfl⟩))
  obtain ⟨_, inbound⟩ := passes.back _ _ _ _ exchanged (answered (.tail _ (.head _)))
    (answered (.head _))
  have body : (passedOn h text p).body = Bytes.ascii "abc" := by decide +kernel
  rw [body] at outbound
  exact ⟨s, ran, by decide, empty, isHead, sends, rfl, reads, planned, passes, unread,
    fun executor peer => ⟨outbound executor peer, inbound executor peer⟩⟩

/-! ## What a client reads -/

/-- Some bytes are read as a response with a status, some lines and a body, and say where it ends:
the lines are those of the other host's fields that are passed on, then the one that states the
length and the one that closes the connection. -/
structure Delimits (response : ResponseHead) (body wire : Bytes) : Prop where
  decodes : decode? wire =
    some ⟨response.status.code, relayedLines response.fields body.length, body⟩
  length : valuesOf (relayedLines response.fields body.length) Message.Name.contentLength =
    [Message.Reply.decimal body.length]
  closes : valuesOf (relayedLines response.fields body.length) Message.Name.connection =
    [Bytes.ascii "close"]
  unchunked : valuesOf (relayedLines response.fields body.length) Message.Name.transferEncoding = []

theorem delimits_passedBack {response : ResponseHead} (proper : response.fields.areFields)
    (body : Bytes) : Delimits response body (passedBack response body) where
  decodes := decode?_relayed proper response.status body
  length := valuesOf_relayedLines proper body.length (by decide)
  closes := valuesOf_relayedLines proper body.length (by decide)
  unchunked := valuesOf_relayedLines proper body.length (by decide)

/-- **A relayed response says where it ends.**  Whatever another host answers with, what is written
for the client is read as the host's response, with one length that is the body's, and without any
other sign of where the body ends. -/
theorem forward_delimits [ByteStream σ] [ByteStream τ] [LawfulStream σ] [LawfulStream τ]
    {bufferSize : Nat} {stream : σ} (fresh : (traffic stream).given = []) {c : Context}
    {h : RequestHead} {moves : List (Move σ τ)} {s : Standing σ τ (Except Fault Unit)}
    (ran : (Standing.start bufferSize stream (forward c h).run).run moves = some s) {f : Forwarded}
    {response : ResponseHead} {body : Bytes} (exchanged : ⟨.exchange f, .got response⟩ ∈ s.past)
    (whole : ⟨.responseBody, .got body⟩ ∈ s.past) (proper : response.fields.areFields) :
    ∃ wire, Delimits response body wire ∧ s.post.ledger.written <+: wire ∧
      (∀ w, Comes s.rest.turn s.past (.reply w) → w = wire) ∧
      ∀ w, ⟨.reply w, .got ()⟩ ∈ s.past →
        s.post.ledger.written = wire ∧ wire <+: s.post.ledger.passed := by
  have arrived : Arrived (traffic stream).coming
      { ledger := .opening bufferSize (traffic stream) } := ⟨nofun, rfl, fresh, rfl⟩
  have forwards : (forward c h).run.Holds (upholding (forwarding h (traffic stream).coming))
      (fun _ => forwarding h (traffic stream).coming .ended)
      { ledger := .opening bufferSize (traffic stream) } :=
    Task.holds_run.mpr (arrived.forwards_forward c h)
  obtain ⟨l, stands, upholds⟩ := Standing.upholds_of_run forwards ran
  obtain unsent | ⟨p, _, going⟩ := upholds.law_turn
  · cases unsent.past _ exchanged
  · have returns := going.returns f response body exchanged whole
    obtain ⟨written, delivered⟩ :=
      going.returned_of_stands returns (passedBack_ne_nil response body) stands
    exact ⟨_, delimits_passedBack proper body, written, fun w comes => (returns.shown w comes).1,
      delivered⟩

/-- A response that says in three ways where it ends, with an empty line in its body. -/
theorem forward_delimits_conflicting :
    let fields : Message.Fields := ⟨[⟨Bytes.ascii "host", [Bytes.ascii "h"]⟩]⟩
    let h : RequestHead := ⟨Bytes.ascii "GET", Bytes.ascii "/", Bytes.ascii "h", Bytes.ascii "/",
      fields, Bytes.ascii "GET / HTTP/1.1\r\nHost: h\r\n\r\n"⟩
    let p : Plan := ⟨⟨some Message.Uri.http, Bytes.ascii "h", Bytes.ascii "/"⟩, 0⟩
    let client := Peered.fresh 256 []
    let response : ResponseHead := ⟨⟨200, by decide⟩, ⟨[
      ⟨Bytes.ascii "content-length", [Bytes.ascii "7", Bytes.ascii "9"]⟩,
      ⟨Bytes.ascii "transfer-encoding", [Bytes.ascii "chunked"]⟩,
      ⟨Bytes.ascii "set-cookie", [Bytes.ascii "a", Bytes.ascii "b"]⟩,
      ⟨Bytes.ascii "connection", [Bytes.ascii "keep-alive"]⟩]⟩⟩
    let body := Bytes.ascii "x\r\n\r\ny"
    let moves : List (Move Peered Peered) :=
      [.go, .go, .go, .go, .answer ⟨.exchange (passedOn h [] p), .got response⟩,
        .answer ⟨.responseBody, .got body⟩, .go, .go, .go]
    let c : Context := ⟨{}, ⟨1, "127.0.0.1:50000"⟩⟩
    ∃ s, (Standing.start 8 client (forward c h).run).run moves = some s ∧
      (traffic client).given = [] ∧
      ⟨.exchange (passedOn h [] p), .got response⟩ ∈ s.past ∧
      ⟨.responseBody, .got body⟩ ∈ s.past ∧ response.fields.areFields ∧
      decode? s.post.ledger.written = some ⟨200, [(Bytes.ascii "set-cookie", Bytes.ascii "a"),
        (Bytes.ascii "set-cookie", Bytes.ascii "b"),
        (Bytes.ascii "Content-Length", Bytes.ascii "6"),
        (Bytes.ascii "Connection", Bytes.ascii "close")], body⟩ := by
  intro fields h p client response body moves c
  have goes : ((Standing.start 8 client (forward c h).run).run moves).any fun s =>
      decide (s.past.take 3 = [⟨.reply (passedBack response body), .got ()⟩,
        ⟨.responseBody, .got body⟩, ⟨.exchange (passedOn h [] p), .got response⟩]) := by
    decide +kernel
  obtain ⟨s, ran, last⟩ := (Option.any_eq_true _ _).mp goes
  have last := of_decide_eq_true last
  have answered {x : Answered} (member : x ∈ s.past.take 3) : x ∈ s.past :=
    List.mem_of_mem_take member
  rw [last] at answered
  have exchanged := answered (.tail _ (.tail _ (.head _)))
  have whole := answered (.tail _ (.head _))
  have proper : response.fields.areFields := by decide +kernel
  obtain ⟨wire, delimits, _, _, delivered⟩ := forward_delimits rfl ran exchanged whole proper
  refine ⟨s, ran, rfl, exchanged, whole, proper, ?_⟩
  rw [(delivered _ (answered (.head _))).1, delimits.decodes]
  decide +kernel

end Wiretap.Session
