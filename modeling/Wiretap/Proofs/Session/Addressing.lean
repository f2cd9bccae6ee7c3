import Mathlib.Data.List.TakeWhile
import Wiretap.Proofs.Message.Routing
import Wiretap.Proofs.Session.Lengths

/-!
# Which host a request names

A request that is passed on names its host twice: in the target that is dialed, and in a field that
the host itself goes by.  The field is the client's own, however many values it has
(`addressed_of_run`).  The target of the client may name another host than its field does, and a
field may hold user information, up to its last at sign, that does not belong to the host.  So the
two agree exactly where the client has written them so (`forward_names_host_iff`): a target that
names its authority takes nothing from the field, and gives nothing to it.
-/

namespace Wiretap.Message.Uri

set_option autoImplicit false

/-- What stands behind the last at sign, or everything. -/
theorem hostAndPort_eq (authority : Bytes) :
    hostAndPort authority = (authority.reverse.takeWhile (· != 0x40)).reverse := by
  have split : authority.reverse.takeWhile (· != 0x40) ++ authority.reverse.dropWhile (· != 0x40) =
      authority.reverse := List.takeWhile_append_dropWhile
  rw [hostAndPort, Bytes.cutAtLast?, Bytes.cutAt?]
  cases behind : authority.reverse.dropWhile (· != 0x40) with
  | nil =>
    rw [behind, List.append_nil] at split
    rw [split, List.reverse_reverse]
    rfl
  | cons b rest => rfl

theorem not_mem_hostAndPort (authority : Bytes) : 0x40 ∉ hostAndPort authority := by
  intro member
  rw [hostAndPort_eq, List.mem_reverse] at member
  simpa using List.mem_takeWhile_imp member

/-- Only where there is no user information is the authority its own host and port. -/
theorem hostAndPort_eq_self_iff {authority : Bytes} :
    hostAndPort authority = authority ↔ 0x40 ∉ authority := by
  constructor
  · intro same
    have absent := not_mem_hostAndPort authority
    rwa [same] at absent
  · intro absent
    rw [hostAndPort_eq, List.reverse_eq_iff, List.takeWhile_eq_self_iff]
    intro b member
    rw [bne_iff_ne]
    rintro rfl
    exact absent (List.mem_reverse.mp member)

end Wiretap.Message.Uri

namespace Wiretap.Session

open Message (RequestHead Uri)
open Transport (ByteStream LawfulStream Peered traffic)

/-- The values of the field that names the host of a request. -/
def hostValues (fields : Message.Fields) : List Bytes := fields.getAll Message.Name.host

/-- Whatever values the field has that names the host, they are the one host that the request is
for, without the user information, which ends at its last at sign. -/
def NamesHost (host : Bytes) (fields : Message.Fields) : Prop :=
  hostValues fields = [] ∨ hostValues fields = [Uri.hostAndPort host]

instance (host : Bytes) (fields : Message.Fields) : Decidable (NamesHost host fields) :=
  inferInstanceAs (Decidable (_ ∨ _))

/-- The client has written the same host everywhere: beside a target that names one, nothing else;
otherwise one value without user information. -/
def NamesOneHost (h : RequestHead) : Prop :=
  match RequestHead.ofTarget? h.target with
  | some (authority, _) => NamesHost authority h.fields
  | none => ∃ v, hostValues h.fields = [v] ∧ 0x40 ∉ v

/-- Where the host of a request has been found. -/
theorem host_of_parse {raw : Bytes} {h : RequestHead} (parsed : RequestHead.parse raw = .ok h)
    (request : h.isTunnel = false) :
    RequestHead.ofTarget? h.target = some (h.host, h.path) ∨
      (RequestHead.ofTarget? h.target = none ∧ h.fields.text? Message.Name.host = some h.host) := by
  obtain ⟨parts, _, fields, host, path, _, _, _, resolved, rfl⟩ :=
    RequestHead.parse_ok_cases parsed
  have plain : parts.method ≠ Message.tunnelMethod := by
    simpa [RequestHead.isTunnel] using request
  obtain named | ⟨unnamed, field, _⟩ := Message.resolve_ok_cases resolved plain
  · exact .inl named
  · exact .inr ⟨unnamed, field⟩

/-- The one host is named by the fields of a head exactly where the client has written it so. -/
theorem namesHost_iff {raw : Bytes} {h : RequestHead} (parsed : RequestHead.parse raw = .ok h)
    (request : h.isTunnel = false) : NamesHost h.host h.fields ↔ NamesOneHost h := by
  obtain named | ⟨unnamed, field⟩ := host_of_parse parsed request
  · rw [NamesOneHost, named]
  · have first : (hostValues h.fields).head? = some h.host :=
      (Option.filter_eq_some_iff.mp field).1
    rw [NamesOneHost, unnamed]
    constructor
    · rintro (none | one)
      · rw [none] at first
        cases first
      · rw [one] at first
        have same : Uri.hostAndPort h.host = h.host := Option.some.inj first
        exact ⟨h.host, one.trans (by rw [same]), Uri.hostAndPort_eq_self_iff.mp same⟩
    · rintro ⟨v, one, plain⟩
      rw [one] at first
      obtain rfl : v = h.host := Option.some.inj first
      exact .inr (one.trans (by rw [Uri.hostAndPort_eq_self_iff.mpr plain]))

variable {σ τ : Type} [ByteStream σ] [ByteStream τ] [LawfulStream σ] [LawfulStream τ]
  {bufferSize : Nat} {stream : σ} {c : Context} {h : RequestHead} {moves : List (Move σ τ)}
  {s : Standing σ τ (Except Fault Unit)} {f : Forwarded}

/-- A request without a plan is not passed on. -/
theorem asks_forward_of_refused (c : Context) {r : Refused} (refused : plan h = .error r) :
    Task.Asks (fun q => !q.isForwarding) (forward c h) := by
  rw [forward, refused]
  exact asks_reply rfl

/-- What a host is handed was made by a plan. -/
theorem made_of_run
    (ran : (Standing.start bufferSize stream (forward c h).run).run moves = some s)
    (comes : Comes s.rest.turn s.past (.exchange f)) :
    ∃ p, plan h = .ok p ∧ f = forwarded h p.uri f.body := by
  cases planned : plan h with
  | error r =>
    have other := comes_of_asks (asks_forward_of_refused c planned) ran comes
    cases other
  | ok p =>
    obtain ⟨_, _, entrusts⟩ := handed_of_run planned ran
    exact ⟨p, rfl, (entrusts.handed f comes).1⟩

/-- What is known of the host that a request is passed on to: it is told what the client's field
says, and it is the one that the request is for where that comes apart from the path. -/
structure Addressed (h : RequestHead) (f : Forwarded) : Prop where
  fields : hostValues f.fields = hostValues h.fields
  dialed : f.uri.authority = h.host ↔ Uri.Separable h.host h.path

theorem addressed_of_run
    (ran : (Standing.start bufferSize stream (forward c h).run).run moves = some s)
    (comes : Comes s.rest.turn s.past (.exchange f)) : Addressed h f := by
  obtain ⟨p, planned, made⟩ := made_of_run ran comes
  rw [made]
  refine ⟨getAll_endToEnd (by decide), ?_⟩
  have glued := Message.authority_of_glued (.inl (plan_ok_cases planned).2.2)
  change p.uri.authority = h.host ↔ _
  rw [glued]
  exact Uri.takeWhile_append_eq_left_iff h.host h.path

/-- **A host is named the one that a request is for exactly where the client has named it so.**  The
target that is dialed and the field that the host goes by are two sources; the field is passed on
as the client wrote it, even where the target names another host. -/
theorem forward_names_host_iff {raw : Bytes} (parsed : RequestHead.parse raw = .ok h)
    (request : h.isTunnel = false)
    (ran : (Standing.start bufferSize stream (forward c h).run).run moves = some s)
    (comes : Comes s.rest.turn s.past (.exchange f)) :
    Addressed h f ∧ (NamesHost h.host f.fields ↔ NamesOneHost h) := by
  have addressed := addressed_of_run ran comes
  refine ⟨addressed, ?_⟩
  rw [NamesHost, addressed.fields]
  exact namesHost_iff parsed request

/-- A request whose target and field name one host. -/
theorem forward_names_host_of_both :
    let raw := Bytes.ascii "GET http://u@h:9000/ HTTP/1.1\r\nHost: h:9000\r\n\r\n"
    let fields : Message.Fields := ⟨[⟨Bytes.ascii "host", [Bytes.ascii "h:9000"]⟩]⟩
    let h : RequestHead := ⟨Bytes.ascii "GET", Bytes.ascii "http://u@h:9000/",
      Bytes.ascii "u@h:9000", Bytes.ascii "/", fields, raw⟩
    let uri : Uri := ⟨some Uri.http, Bytes.ascii "u@h:9000", Bytes.ascii "/"⟩
    let client := Peered.fresh 64 []
    let f := forwarded h uri []
    let moves : List (Move Peered Peered) := [.go, .go, .go, .go, .answer ⟨.exchange f, .expired⟩]
    let c : Context := ⟨{}, ⟨1, "127.0.0.1:50000"⟩⟩
    ∃ s, (Standing.start 8 client (forward c h).run).run moves = some s ∧
      RequestHead.parse raw = .ok h ∧ h.isTunnel = false ∧
      Comes s.rest.turn s.past (.exchange f) ∧ Addressed h f ∧ NamesHost h.host f.fields ∧
      hostValues f.fields = [Bytes.ascii "h:9000"] := by
  intro raw fields h uri client f moves c
  have goes : ((Standing.start 8 client (forward c h).run).run moves).any fun s =>
      decide (s.past = [⟨.exchange f, .expired⟩, ⟨.body 0, .got []⟩]) := by
    decide +kernel
  obtain ⟨s, ran, past⟩ := (Option.any_eq_true _ _).mp goes
  have comes : Comes s.rest.turn s.past (.exchange f) := by
    apply Or.inr
    rw [of_decide_eq_true past]
    exact List.mem_cons_self
  have parsed : RequestHead.parse raw = .ok h := by decide +kernel
  have named : NamesOneHost h := by
    have target : RequestHead.ofTarget? h.target = some (h.host, h.path) := by decide +kernel
    rw [NamesOneHost, target]
    exact .inr (by decide +kernel)
  obtain ⟨addressed, agrees⟩ := forward_names_host_iff parsed (by decide) ran comes
  exact ⟨s, ran, parsed, by decide, comes, addressed, agrees.mpr named, by decide +kernel⟩

/-- A target that names another host than the field does: the field is passed on to that host. -/
theorem other_host_named :
    let raw := Bytes.ascii "GET http://h:9000/ HTTP/1.1\r\nHost: ignored\r\n\r\n"
    let fields : Message.Fields := ⟨[⟨Bytes.ascii "host", [Bytes.ascii "ignored"]⟩]⟩
    let h : RequestHead := ⟨Bytes.ascii "GET", Bytes.ascii "http://h:9000/",
      Bytes.ascii "h:9000", Bytes.ascii "/", fields, raw⟩
    let uri : Uri := ⟨some Uri.http, Bytes.ascii "h:9000", Bytes.ascii "/"⟩
    let client := Peered.fresh 64 []
    let f := forwarded h uri []
    let moves : List (Move Peered Peered) := [.go, .go, .go, .go, .answer ⟨.exchange f, .expired⟩]
    let c : Context := ⟨{}, ⟨1, "127.0.0.1:50000"⟩⟩
    RequestHead.parse raw = .ok h ∧ h.isTunnel = false ∧
      ∃ s, (Standing.start 8 client (forward c h).run).run moves = some s ∧
        s.past = [⟨.exchange f, .expired⟩, ⟨.body 0, .got []⟩] ∧
        f.uri.authority = Bytes.ascii "h:9000" ∧
        hostValues f.fields = [Bytes.ascii "ignored"] ∧ ¬ NamesHost h.host f.fields := by
  intro raw fields h uri client f moves c
  have goes : ((Standing.start 8 client (forward c h).run).run moves).any fun s =>
      decide (s.past = [⟨.exchange f, .expired⟩, ⟨.body 0, .got []⟩]) := by
    decide +kernel
  obtain ⟨s, ran, past⟩ := (Option.any_eq_true _ _).mp goes
  exact ⟨by decide +kernel, by decide, s, ran, of_decide_eq_true past, rfl, by decide +kernel,
    by decide +kernel⟩

end Wiretap.Session
