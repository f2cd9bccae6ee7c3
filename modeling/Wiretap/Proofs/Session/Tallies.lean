import Wiretap.Proofs.Observer.Totals
import Wiretap.Proofs.Session.Endings
import Wiretap.Proofs.Session.Forwarding
import Wiretap.Proofs.Session.Serving
import Wiretap.Proofs.Transport.Peered

/-!
# What is counted of a tunnel

A tunnel is opened when its host has been connected to and the client's stream has been handed over
behind the head that says so.  What it delivers either way is known from the ledger, however it
ends, but it is counted at one place only: behind a tunnel that both sides have closed.  There the
totals are the lengths of what was delivered, the bytes sent ahead included (`Tallied.closed`).  A
tunnel that ends otherwise, by a failing side or by bytes that could not be sent ahead, counts
nothing (`Tallied.broken`).  So what was delivered is what was counted just where both sides closed,
or nothing was delivered at all (`tunnel_accounted_iff`), and not where a client goes away behind
bytes that have reached the host (`broken_tunnel_uncounted`).
-/

namespace Wiretap.Session

set_option autoImplicit false

open Message (Reply.tunnelOpen RequestHead)
open Observer (Direction Executor Metric)
open Transport (ByteStream LawfulStream Peered traffic)

/-! ## Totals of what is relayed -/

/-- The name of the total of the bytes that a protocol carries one way. -/
def relayedSeries (p : Protocol) (d : Direction) : String :=
  Metric.series "capture_relayed_bytes_total" [("direction", d.name), ("protocol", p.name)]

/-- The total of the bytes that a protocol has carried one way. -/
def Record.relayedTotal (r : Record) (p : Protocol) (d : Direction) : Int :=
  Metric.total (Metric.totals r.counted) (relayedSeries p d)

/-- The metric of the bytes that a tunnel has carried one way. -/
def tunnelMetric (d : Direction) (bytes : Nat) : Metric := .relayed Protocol.http.name d bytes

theorem shares_tunnelMetric (d way : Direction) (bytes : Nat) :
    Metric.shares (relayedSeries .http d) (Metric.changes (tunnelMetric way bytes)) =
      if way = d then (bytes : Int) else 0 := by
  have apart : relayedSeries .http .inbound ≠ relayedSeries .http .outbound := by decide
  have alone (name other : String) :
      Metric.shares name [(other, (bytes : Int))] = if other = name then (bytes : Int) else 0 :=
    Int.add_zero _
  change Metric.shares _ [(relayedSeries .http way, (bytes : Int))] = _
  rw [alone]
  cases way <;> cases d <;> simp [apart, apart.symm]

/-- Where one metric has been counted for each way, the totals are what they say. -/
theorem Record.relayedTotal_of_counted {r : Record} {sent received : Nat}
    (counted : r.counted = [tunnelMetric .outbound sent, tunnelMetric .inbound received]) :
    r.relayedTotal .http .outbound = sent ∧ r.relayedTotal .http .inbound = received := by
  have total (d : Direction) : r.relayedTotal .http d =
      (if .outbound = d then (sent : Int) else 0) +
        if .inbound = d then (received : Int) else 0 := by
    rw [relayedTotal, Metric.total_totals, counted, List.flatMap_cons, List.flatMap_cons,
      List.flatMap_nil, List.append_nil, Metric.shares_append, shares_tunnelMetric,
      shares_tunnelMetric]
  exact ⟨(total .outbound).trans (Int.add_zero _), (total .inbound).trans (Int.zero_add _)⟩

theorem Record.relayedTotal_of_none {r : Record} (none : r.counted = []) (d : Direction) :
    r.relayedTotal .http d = 0 := by
  rw [relayedTotal, none]
  rfl

/-! ## What a tunnel comes to -/

/-- A tunnel has been opened: its host has been connected to, and the client's stream has been
handed over. -/
def TunnelOpened (past : List Answered) : Prop :=
  (∃ target, ⟨.dial target, .got ()⟩ ∈ past) ∧ ∃ ahead, ⟨.detach, .ok ahead⟩ ∈ past

/-- The last that happened is that a tunnel has been closed at both its sides. -/
def ClosedByBoth (past : List Answered) : Prop :=
  ∃ carried : Carried, past.head? = some ⟨.carry, carried⟩ ∧ carried.fault = none

/-- The client of a tunnel has been given the head that opens it, and then bytes of its host. -/
structure GivenBack (back : Bytes) (l : Ledger) : Prop where
  written : l.written = Reply.tunnelOpen ++ back
  source : back <+: l.fromFar

/-- The totals say how many bytes of the client the host of a tunnel has been given, and how many
bytes of the host the client has been given. -/
structure Accounted (r : Record) (l : Ledger) : Prop where
  outbound : r.relayedTotal .http .outbound = l.toFar.length
  inbound : ∃ back, GivenBack back l ∧ r.relayedTotal .http .inbound = back.length

/-- What has been counted where a tunnel has ended. -/
inductive Tallied (back : Bytes) (acc : Account) : Prop where
  | closed (both : ClosedByBoth acc.past)
    (counted : acc.counted =
      [tunnelMetric .inbound back.length, tunnelMetric .outbound acc.ledger.toFar.length])
  | broken (other : ¬ ClosedByBoth acc.past) (none : acc.counted = [])

/-- If a tunnel has been opened, what it has delivered and counted is known. -/
def Reckons (acc : Account) : Prop :=
  TunnelOpened acc.past → ∃ back, GivenBack back acc.ledger ∧ Tallied back acc

/-- A task behind which that is known, however it ends. -/
abbrev Reckoning (t : Task Unit) (acc : Account) : Prop :=
  Task.Holds accounting (fun _ => Reckons) (fun _ => Reckons) t acc

variable {acc : Account} {l : Ledger} {past : List Answered}

/-! ## Where no tunnel is opened -/

/-- Whether a question does not ask for the host of a tunnel. -/
def Question.isDialFree : Question → Bool
  | dial _ => false
  | _ => true

/-- No host of a tunnel has been connected to. -/
def Unconnected (past : List Answered) : Prop := ∀ target, ⟨.dial target, .got ()⟩ ∉ past

theorem Unconnected.cons {q : Question} {a : q.Answer} (free : q.isDialFree)
    (unconnected : Unconnected past) : Unconnected (⟨q, a⟩ :: past) := by
  intro target member
  obtain _ | ⟨_, member⟩ := member
  · cases free
  · exact unconnected target member

theorem Unconnected.reckons (unconnected : Unconnected acc.past) : Reckons acc := by
  rintro ⟨⟨target, member⟩, _⟩
  exact absurd member (unconnected target)

/-- Where no host is asked for, no tunnel is opened. -/
theorem Unconnected.reckoning {t : Task Unit} (asks : Task.Asks Question.isDialFree t)
    (unconnected : Unconnected acc.past) : Reckoning t acc :=
  (Task.endsWith_of_asks asks (fun _ _ _ free none => none.cons free) unconnected).mono
    (fun _ _ none => none.reckons) fun _ _ none => none.reckons

/-- The stream has not been handed over. -/
def Undetached (past : List Answered) : Prop := ∀ ahead, ⟨.detach, .ok ahead⟩ ∉ past

theorem Undetached.cons {q : Question} {a : q.Answer} (other : q ≠ .detach)
    (undetached : Undetached past) : Undetached (⟨q, a⟩ :: past) := by
  intro ahead member
  obtain _ | ⟨_, member⟩ := member
  · exact other rfl
  · exact undetached ahead member

theorem Undetached.reckons (undetached : Undetached acc.past) : Reckons acc := by
  rintro ⟨_, ahead, member⟩
  exact absurd member (undetached ahead)

/-! ## Tunnels -/

/-- Nothing has been counted and nothing has come from a host, which has been sent some bytes; the
client has been given others. -/
structure Uncounted (written sent : Bytes) (acc : Account) : Prop where
  written : acc.ledger.written = written
  toFar : acc.ledger.toFar = sent
  fromFar : acc.ledger.fromFar = []
  none : acc.counted = []

/-- What is moved is what has been given next. -/
theorem Uncounted.moves {written sent : Bytes} {h : Haul} {x : Answered}
    (uncounted : Uncounted written sent acc) (moves : acc.ledger.Moves l h) :
    Uncounted (written ++ h.given) (sent ++ h.sent) (acc.answer x l) where
  written := moves.written.trans (by rw [uncounted.written])
  toFar := moves.toFar.trans (by rw [uncounted.toFar])
  fromFar := moves.fromFar.trans uncounted.fromFar
  none := uncounted.none

theorem Uncounted.taken {written sent taken : Bytes} {x : Answered}
    (uncounted : Uncounted written sent acc) (moves : acc.ledger.Moves l { taken }) :
    Uncounted written sent (acc.answer x l) := by
  simpa using uncounted.moves (x := x) moves

/-- A tunnel that has been given up has counted nothing, and has brought the client nothing. -/
theorem Uncounted.reckons {sent : Bytes} (uncounted : Uncounted Reply.tunnelOpen sent acc)
    (other : ¬ ClosedByBoth acc.past) : Reckons acc := fun _ =>
  ⟨[], ⟨uncounted.written.trans (List.append_nil _).symm, List.nil_prefix⟩,
    .broken other uncounted.none⟩

/-- A tunnel that has ended counts what it carried, unless it was broken. -/
theorem endsWith_tunnelEnded {done : Unit → Account → Prop} {failed : Fault → Account → Prop}
    (c : Context) (ahead : Bytes) (carried : Carried) :
    Task.Holds accounting done failed (tunnelEnded c ahead carried) acc ↔
      match carried.fault with
      | some _ => done () acc
      | none => done () ((acc.tell
          (.metric (tunnelMetric .outbound (carried.sent + ahead.length)))).tell
          (.metric (tunnelMetric .inbound carried.received))) := by
  rw [tunnelEnded]
  cases carried.fault with
  | some e => rw [Task.endsWith_tell, Account.tell_uncounted rfl]
  | none =>
    rw [Task.holds_bind, Task.endsWith_tell, Task.holds_bind, Task.endsWith_tell,
      Task.endsWith_report]
    exact Iff.rfl

/-- **What a tunnel carries is counted if both its sides close it**, and not otherwise.  The bytes
sent ahead reach the host before those that are carried. -/
theorem Uncounted.reckoning_carry (c : Context) (message : String) {ahead : Bytes}
    (uncounted : Uncounted Reply.tunnelOpen ahead acc) :
    Reckoning (do c.report .info message; tunnelEnded c ahead (← ask .carry)) acc := by
  rw [Reckoning, Task.holds_bind, Task.endsWith_report, Task.holds_bind, Task.endsWith_ask]
  rintro carried l ⟨outbound, inbound, carries, sent, received, _⟩
  obtain ⟨out, toFar, outMoved, _⟩ := carries.out.moved
  obtain ⟨back, written, backMoved, order⟩ := carries.back.moved
  have source : back <+: l.fromFar := by
    have all := carries.fromFar
    rw [uncounted.fromFar, order, List.nil_append] at all
    exact ⟨_, (List.append_cancel_right all).symm⟩
  have givenBack : GivenBack back l := ⟨by rw [written, uncounted.written], source⟩
  refine (endsWith_tunnelEnded c ahead carried).mpr ?_
  cases ends : carried.fault with
  | some e =>
    refine fun _ => ⟨back, givenBack, .broken ?_ uncounted.none⟩
    rintro ⟨_, ⟨⟩, unbroken⟩
    cases ends.symm.trans unbroken
  | none =>
    refine fun _ => ⟨back, givenBack, .closed ⟨carried, rfl, ends⟩ ?_⟩
    have delivered : l.toFar.length = carried.sent + ahead.length := by
      rw [toFar, uncounted.toFar, List.length_append, outMoved, sent, Nat.add_comm]
    change _ :: _ :: acc.counted = _
    rw [uncounted.none, backMoved, received, ← delivered]
    rfl

/-- Bytes that cannot be sent ahead end the tunnel, with part of them sent and nothing counted. -/
theorem Uncounted.reckoning_sendAhead (c : Context) (message : String) (ahead : Bytes)
    (uncounted : Uncounted Reply.tunnelOpen [] acc) :
    Reckoning (do
      get (Except.mapError Fault.io (← ask (.sendAhead ahead)))
      c.report .info message
      tunnelEnded c ahead (← ask .carry)) acc := by
  rw [Reckoning, Task.holds_bind, Task.endsWith_ask]
  intro a l settles
  rw [Task.holds_bind, Task.holds_get]
  cases a with
  | ok =>
    have sent := uncounted.moves (x := ⟨.sendAhead ahead, .ok ()⟩) settles
    rw [List.append_nil] at sent
    exact sent.reckoning_carry c message
  | error e =>
    obtain ⟨sent, _, moves⟩ := settles
    have broken := uncounted.moves (x := ⟨.sendAhead ahead, .error e⟩) moves
    rw [List.append_nil] at broken
    exact broken.reckons (by rintro ⟨_, ⟨⟩, _⟩)

theorem Uncounted.reckoning_tunnelConnected (c : Context) (target : Bytes)
    (undetached : Undetached acc.past) (uncounted : Uncounted [] [] acc) :
    Reckoning (tunnelConnected c target) acc := by
  rw [Reckoning, tunnelConnected, Task.holds_bind, reply, Task.holds_bind, Task.endsWith_ask]
  intro a l settles
  rw [Task.holds_get]
  have undetached := undetached.cons (a := a) (by rintro ⟨⟩)
  cases a with
  | failed | expired => exact undetached.reckons
  | got =>
    have opened : Uncounted Reply.tunnelOpen []
        (acc.answer ⟨.reply Reply.tunnelOpen, .got ()⟩ l) := uncounted.moves settles.1
    dsimp only [Reading.result]
    rw [Task.holds_bind, Task.endsWith_ask]
    intro a l settles
    rw [Task.holds_bind, Task.holds_get]
    cases a with
    | error e =>
      refine Undetached.reckons fun ahead member => ?_
      obtain _ | ⟨_, member⟩ := member
      exact undetached ahead member
    | ok ahead =>
      replace opened := opened.taken (x := ⟨.detach, .ok ahead⟩) settles.1
      dsimp only [Except.mapError]
      split
      · next none =>
        rw [List.isEmpty_iff] at none
        exact Uncounted.reckoning_carry c _ (none ▸ opened)
      · exact opened.reckoning_sendAhead c _ ahead

/-! ## Serving a client -/

/-- Only the first bytes of a client have been looked at. -/
structure Unserved (acc : Account) : Prop where
  past : Answered.Only Question.isOpening acc.past
  written : acc.ledger.written = []
  none : acc.counted = []

theorem Unserved.unconnected (unserved : Unserved acc) : Unconnected acc.past :=
  fun target member => by cases unserved.past _ member

theorem Unserved.undetached (unserved : Unserved acc) : Undetached acc.past :=
  fun ahead member => by cases unserved.past _ member

/-- Another look takes bytes, and writes none. -/
theorem Unserved.look {q : Question} {a : q.Answer} (unserved : Unserved acc)
    (opening : q.isOpening) (settles : Settles q a acc.ledger l) :
    Unserved (acc.answer ⟨q, a⟩ l) where
  past := Answered.only_cons opening unserved.past
  written := by
    cases q with
    | firstByte =>
      obtain ⟨_, rfl, moves⟩ := settles_moves rfl settles
      exact moves.written.trans ((List.append_nil _).trans unserved.written)
    | head =>
      obtain ⟨h, ⟨none, _⟩, moves⟩ := settles_moves rfl settles
      exact moves.written.trans (by rw [unserved.written, none]; rfl)
    | _ => cases opening
  none := unserved.none

theorem Unserved.reckoning_tunnel (c : Context) (h : RequestHead) (unserved : Unserved acc) :
    Reckoning (tunnel c h) acc := by
  rw [Reckoning, tunnel, Task.holds_bind, Task.endsWith_ask]
  intro a l settles
  cases a with
  | got =>
    obtain ⟨toFar, fromFar, _, written, _⟩ := settles
    exact Uncounted.reckoning_tunnelConnected c h.host (unserved.undetached.cons (by rintro ⟨⟩))
      ⟨written.trans unserved.written, toFar, fromFar, unserved.none⟩
  | failed | expired =>
    refine Unconnected.reckoning (asks_tunnelFailed c h.host _ fun _ => rfl) fun target member => ?_
    obtain _ | ⟨_, member⟩ := member
    exact unserved.unconnected target member

theorem Unserved.reckoning_serve (c : Context) (o : Opening) (unserved : Unserved acc) :
    Reckoning (serve c o) acc := by
  cases o with
  | nothing => exact Task.holds_pure.mpr unserved.unconnected.reckons
  | greeting => exact unserved.unconnected.reckoning (asks_refuseGreeting c rfl rfl)
  | request h =>
    rw [serve, serveRequest]
    split
    · exact unserved.unconnected.reckoning
        (asks_upgrade c (fun _ => rfl) rfl (fun _ => rfl) rfl (fun _ => rfl) (fun _ => rfl) h)
    · split
      · exact unserved.reckoning_tunnel c h
      · exact unserved.unconnected.reckoning
          (asks_forward c h (fun _ => rfl) (fun _ => rfl) (fun _ => rfl) rfl)

theorem Unserved.endsWith_serveOpening (c : Context) (o : Opening) (unserved : Unserved acc) :
    (serveOpening c o).Holds accounting (fun _ => Reckons) acc := by
  rw [serveOpening]
  split
  · rw [Dialogue.holds_bind, Dialogue.endsWith_note, Dialogue.holds_pure,
      Account.tell_uncounted rfl]
    exact unserved.unconnected.reckons
  · rw [Dialogue.holds_bind, Context.endsWith_announce, Dialogue.holds_bind,
      Task.holds_run]
    exact unserved.reckoning_serve c o

theorem Unserved.endsWith_sniff (unserved : Unserved acc) :
    Task.Holds accounting (fun _ => Unserved) (fun _ => Unserved) sniff acc := by
  rw [sniff, Task.holds_bind, Task.endsWith_ask]
  intro first l settles
  have looked := unserved.look rfl settles
  rw [Task.holds_bind, Task.holds_get]
  cases first with
  | failed | expired => exact looked
  | got first =>
    cases first with
    | none => exact Task.holds_pure.mpr looked
    | some b =>
      dsimp only [Reading.result]
      split
      · exact Task.holds_pure.mpr looked
      · rw [Task.holds_bind, Task.endsWith_ask]
        intro found l settles
        have read := looked.look rfl settles
        rw [Task.holds_bind, Task.holds_get]
        cases found with
        | failed | expired => exact read
        | got found =>
          dsimp only [Reading.result]
          rw [Task.holds_bind, Task.holds_get]
          cases found.result with
          | error f => exact read
          | ok h => exact Task.holds_pure.mpr read

/-- **However serving a client ends, it is known what a tunnel has delivered and counted.** -/
theorem Unserved.endsWith_dispatch (c : Context) (unserved : Unserved acc) :
    (dispatch c).Holds accounting (fun _ => Reckons) acc := by
  rw [dispatch, Dialogue.holds_bind, Task.holds_run]
  refine unserved.endsWith_sniff.mono (fun o acc unserved => unserved.endsWith_serveOpening c o)
    fun f acc unserved => ?_
  dsimp only
  split
  · rw [Dialogue.holds_bind, Task.holds_run]
    exact unserved.unconnected.reckoning (asks_rejectUnreadable rfl)
  · exact unserved.unconnected.reckons

/-! ## What was delivered is what was counted -/

theorem GivenBack.rests {back : Bytes} {l' : Ledger} (givenBack : GivenBack back l)
    (rests : l.Rests l') : GivenBack back l' where
  written := rests.written.trans ((List.append_nil _).trans givenBack.written)
  source := rests.fromFar ▸ givenBack.source

/-- What the client has been given back is known from what it has been given. -/
theorem GivenBack.unique {back other : Bytes} (givenBack : GivenBack back l)
    (again : GivenBack other l) : other = back :=
  List.append_cancel_left (again.written.symm.trans givenBack.written)

theorem GivenBack.empty_iff {back : Bytes} (givenBack : GivenBack back l) :
    back = [] ↔ l.written = Reply.tunnelOpen := by
  rw [givenBack.written, List.append_right_eq_self]

/-- Where nothing has been counted, the account is right just if nothing was delivered. -/
theorem GivenBack.accounted_iff_of_none {back : Bytes} {r : Record} (givenBack : GivenBack back l)
    (none : ∀ d, r.relayedTotal .http d = 0) :
    Accounted r l ↔ l.toFar = [] ∧ l.written = Reply.tunnelOpen := by
  rw [← givenBack.empty_iff]
  constructor
  · rintro ⟨outbound, other, again, inbound⟩
    cases givenBack.unique again
    rw [none] at outbound inbound
    exact ⟨List.length_eq_zero_iff.mp (Int.ofNat.inj outbound.symm),
      List.length_eq_zero_iff.mp (Int.ofNat.inj inbound.symm)⟩
  · rintro ⟨toFar, rfl⟩
    exact ⟨by rw [none, toFar]; rfl, [], givenBack, none _⟩

section

variable {σ τ : Type} [ByteStream σ] [ByteStream τ] [LawfulStream σ] [LawfulStream τ]

/-- **A tunnel is accounted for just where both its sides have closed it, or nothing was
delivered.**  Whatever is sent either way, wherever it is cut, and however the tunnel ends: once
serving the client has come to its end, the totals of both ways are the lengths of what was
delivered if both sides have closed the tunnel.  Otherwise both totals are zero, so that they are
right only if neither side has been given anything. -/
theorem tunnel_accounted_iff {bufferSize : Nat} {stream : σ}
    (fresh : (traffic stream).given = []) {c : Context} {moves : List (Move σ τ)}
    {s : Standing σ τ Outcome} {o : Outcome}
    (ran : (Standing.start bufferSize stream (dispatch c)).run moves = some s)
    (ended : s.rest = .finish o) (opened : TunnelOpened s.past) (executor : Option Executor) :
    (Accounted (s.noted executor c.peer) s.post.ledger ↔ ClosedByBoth s.past ∨
      (s.post.ledger.toFar = [] ∧ s.post.ledger.written = Reply.tunnelOpen)) ∧
    (¬ ClosedByBoth s.past → ∀ d, (s.noted executor c.peer).relayedTotal .http d = 0) := by
  have unserved : Unserved { ledger := .opening bufferSize (traffic stream) } :=
    ⟨by rintro _ ⟨⟩, fresh, rfl⟩
  obtain ⟨l, rests, reckons⟩ := Standing.ends_of_run (unserved.endsWith_dispatch c) ran ended
  obtain ⟨back, before, tallied⟩ := reckons opened
  have givenBack := before.rests rests
  have counted := s.counted_noted executor c.peer
  cases tallied with
  | closed both tallied =>
    have tallied : s.counted = _ := tallied
    rw [tallied] at counted
    obtain ⟨outbound, inbound⟩ := Record.relayedTotal_of_counted counted
    have toFar : s.post.ledger.toFar = l.toFar := rests.toFar.trans (List.append_nil _)
    exact ⟨iff_of_true ⟨by rw [outbound, toFar], back, givenBack, inbound⟩ (.inl both),
      fun other => absurd both other⟩
  | broken other none =>
    have none : s.counted = [] := none
    rw [none] at counted
    have zero := Record.relayedTotal_of_none counted
    refine ⟨?_, fun _ => zero⟩
    rw [givenBack.accounted_iff_of_none zero, or_iff_right other]

end

/-- A tunnel that both sides close: the bytes sent ahead are counted with those that it carried. -/
theorem closed_tunnel_accounted :
    let raw := Bytes.ascii "CONNECT h:1 HTTP/1.1\r\n\r\n"
    let client := Peered.fresh 64 (raw ++ Bytes.ascii "early")
    let served : Peered := { Peered.fresh 64 [] with
      taken := raw ++ Bytes.ascii "early", kept := Reply.tunnelOpen }
    let host := Peered.fresh 64 (Bytes.ascii "pong")
    let moves : List (Move Peered Peered) :=
      [.client (client.sends 64), .go, .go, .go, .connect host, .farSide (host.sends 4).ends, .go,
        .go, .go, .go, .client served.ends, .pull .outbound 8, .push .outbound, .pull .inbound 8,
        .pull .inbound 8, .push .inbound, .push .inbound, .go, .go, .go, .go]
    let c : Context := ⟨{}, ⟨1, "127.0.0.1:50000"⟩⟩
    ∃ s o, (Standing.start 64 client (dispatch c)).run moves = some s ∧
      (traffic client).given = [] ∧ s.rest = .finish o ∧ TunnelOpened s.past ∧
      s.post.ledger.toFar = Bytes.ascii "early" ∧
      Accounted (s.noted none c.peer) s.post.ledger := by
  intro raw client served host moves c
  have goes : ((Standing.start 64 client (dispatch c)).run moves).any fun s =>
      s.rest.ended? == some ⟨some .http, none⟩ &&
        s.past.contains ⟨.dial (Bytes.ascii "h:1"), .got ()⟩ &&
        s.past.contains ⟨.detach, .ok (Bytes.ascii "early")⟩ &&
        decide (s.past.head? = some ⟨.carry, ⟨0, 4, none⟩⟩) &&
        s.post.ledger.toFar == Bytes.ascii "early" := by
    decide +kernel
  obtain ⟨s, ran, goes⟩ := (Option.any_eq_true _ _).mp goes
  simp only [Bool.and_eq_true, beq_iff_eq, List.contains_iff_mem, decide_eq_true_eq] at goes
  obtain ⟨⟨⟨⟨ended, dialled⟩, detached⟩, last⟩, toFar⟩ := goes
  have finished := Dialogue.eq_finish_of_ended? ended
  have opened : TunnelOpened s.past := ⟨⟨_, dialled⟩, _, detached⟩
  exact ⟨s, _, ran, rfl, finished, opened, toFar,
    (tunnel_accounted_iff rfl ran finished opened none).1.mpr (.inl ⟨_, last, rfl⟩)⟩

/-- A client that goes away behind its first bytes: they have reached the host, and the tunnel ends
where the host's bytes cannot be written, with nothing counted. -/
theorem broken_tunnel_uncounted :
    let raw := Bytes.ascii "CONNECT h:1 HTTP/1.1\r\n\r\n"
    let client := Peered.fresh 64 (raw ++ Bytes.ascii "early")
    let served : Peered := { Peered.fresh 64 [] with
      taken := raw ++ Bytes.ascii "early", kept := Reply.tunnelOpen }
    let gone : Peered := { served with duplex := served.duplex.drop }
    let host := Peered.fresh 64 (Bytes.ascii "pong")
    let moves : List (Move Peered Peered) :=
      [.client (client.sends 64), .go, .go, .go, .connect host, .farSide (host.sends 4), .go, .go,
        .go, .go, .client gone, .pull .inbound 8, .push .inbound, .go]
    let c : Context := ⟨{}, ⟨1, "127.0.0.1:50000"⟩⟩
    ∃ s o, (Standing.start 64 client (dispatch c)).run moves = some s ∧
      (traffic client).given = [] ∧ s.rest = .finish o ∧ TunnelOpened s.past ∧
      s.post.ledger.toFar = Bytes.ascii "early" ∧
      (s.noted none c.peer).relayedTotal .http .outbound = 0 ∧
      ¬ Accounted (s.noted none c.peer) s.post.ledger := by
  intro raw client served gone host moves c
  have goes : ((Standing.start 64 client (dispatch c)).run moves).any fun s =>
      s.rest.ended? == some ⟨some .http, none⟩ &&
        s.past.contains ⟨.dial (Bytes.ascii "h:1"), .got ()⟩ &&
        s.past.contains ⟨.detach, .ok (Bytes.ascii "early")⟩ &&
        s.post.ledger.toFar == Bytes.ascii "early" &&
        (s.noted none c.peer).counted == [] := by
    decide +kernel
  obtain ⟨s, ran, goes⟩ := (Option.any_eq_true _ _).mp goes
  simp only [Bool.and_eq_true, beq_iff_eq, List.contains_iff_mem] at goes
  obtain ⟨⟨⟨⟨ended, dialled⟩, detached⟩, toFar⟩, uncounted⟩ := goes
  have zero := Record.relayedTotal_of_none uncounted .outbound
  refine ⟨s, _, ran, rfl, Dialogue.eq_finish_of_ended? ended, ⟨⟨_, dialled⟩, _, detached⟩, toFar,
    zero, fun accounted => ?_⟩
  have five := accounted.outbound
  rw [zero, toFar] at five
  cases five

end Wiretap.Session
