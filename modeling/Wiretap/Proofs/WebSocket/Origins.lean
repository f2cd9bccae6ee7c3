import Wiretap.Proofs.WebSocket.HandshakeFields

/-!
# The origin of a request for an upgrade

A request for an upgrade has one origin.  It is meant to be the first one that the client names, as
it is, and only where the client names none the host's own (`KeepsOrigin`).

On its way the client's origin is read as text, and a field may hold bytes that are none: those above
ASCII.  An origin with such a byte counts as none, so that the request names the host's own
(`getAll_origin_of_request`).  So the client's origin is kept just where it can be read as text, or
names the host itself (`origin_kept_iff`), and a page from elsewhere may pass for one of the host's
(`origin_replaced_of_unreadable`).
-/

namespace Wiretap.WebSocket

set_option autoImplicit false

open Wiretap.Message (Fields RequestHead)
open Wiretap.Message.Fields (getAll_update)

/-- The origin of what the host itself has sent. -/
def ownOrigin (tls : Bool) (host : Bytes) : Bytes :=
  Bytes.ascii (if tls then "https://" else "http://") ++ host

/-- The first origin that the client names. -/
def clientOrigin? (fields : Fields) : Option Bytes := fields.get? Message.Name.origin

/-- The only origin of a request is the first one that the client names, byte for byte, and the
host's own only where the client names none. -/
structure KeepsOrigin (tls : Bool) (h : RequestHead) (fields : Fields) : Prop where
  kept : ∀ origin, clientOrigin? h.fields = some origin →
    fields.getAll Message.Name.origin = [origin]
  own : clientOrigin? h.fields = none →
    fields.getAll Message.Name.origin = [ownOrigin tls h.host]

/-- An origin can be read as text, or it is that of the host. -/
def IsPreserved (tls : Bool) (host origin : Bytes) : Prop :=
  origin.all Bytes.isVisible ∨ origin = ownOrigin tls host

variable {tls : Bool} {h : RequestHead} {host key origin : Bytes} {fields : Fields}
  {hs : Handshake} {r : UpgradeRequest}

/-! ## The origin of a handshake -/

theorem originOf_of_none (none : clientOrigin? fields = none) :
    originOf tls fields host = ownOrigin tls host := by
  rw [clientOrigin?] at none
  rw [originOf, Fields.text?, none]
  rfl

theorem originOf_of_some (named : clientOrigin? fields = some origin) :
    originOf tls fields host =
      if origin.all Bytes.isVisible then origin else ownOrigin tls host := by
  rw [clientOrigin?] at named
  rw [originOf, Fields.text?, named, Option.filter_some]
  split <;> rfl

/-- The client's origin is that of the handshake just where it is preserved. -/
theorem originOf_eq_iff (named : clientOrigin? fields = some origin) :
    originOf tls fields host = origin ↔ IsPreserved tls host origin := by
  rw [originOf_of_some named, IsPreserved]
  split
  · next visible => exact iff_of_true rfl (.inl visible)
  · next unreadable => rw [or_iff_right unreadable, eq_comm]

/-! ## The origin of a request -/

/-- A request has one origin, which is that of its handshake, whether it offers subprotocols or
not. -/
theorem getAll_origin_of_request (made : hs.request key = .ok r) :
    r.fields.getAll Message.Name.origin = [hs.origin] := by
  obtain ⟨uri, _, rfl⟩ := request_ok_cases made
  rw [getAll_offering_of_ne (by decide)]
  exact getAll_update rfl

theorem keepsOrigin_iff (made : (Handshake.ofHead tls h).request key = .ok r) :
    KeepsOrigin tls h r.fields ↔
      ∀ origin, clientOrigin? h.fields = some origin → IsPreserved tls h.host origin := by
  have one : r.fields.getAll Message.Name.origin = [originOf tls h.fields h.host] :=
    getAll_origin_of_request made
  constructor
  · intro keeps origin named
    have same := one.symm.trans (keeps.kept origin named)
    exact (originOf_eq_iff named).mp (List.cons.inj same).1
  · intro preserved
    refine ⟨fun origin named => ?_, fun none => ?_⟩
    · rw [one, (originOf_eq_iff named).mpr (preserved origin named)]
    · rw [one, originOf_of_none none]

/-- **A client's origin is kept just where it can be read as text, or is that of the host.**
Whatever fields and whatever host a head has, the request that is made for it keeps its origin if and
only if no request can be made at all, or the first origin that is named, if any, is text or the
host's own.  A request for any other origin names the host's own in its place. -/
theorem origin_kept_iff (tls : Bool) (h : RequestHead) (key : Bytes) :
    ((∀ r, (Handshake.ofHead tls h).request key = .ok r → KeepsOrigin tls h r.fields) ↔
      (∃ e, (Handshake.ofHead tls h).request key = .error e) ∨
        ∀ origin, clientOrigin? h.fields = some origin → IsPreserved tls h.host origin) ∧
    ∀ r origin, (Handshake.ofHead tls h).request key = .ok r →
      clientOrigin? h.fields = some origin → ¬ IsPreserved tls h.host origin →
        r.fields.getAll Message.Name.origin = [ownOrigin tls h.host] := by
  constructor
  · cases made : (Handshake.ofHead tls h).request key with
    | error e => exact iff_of_true nofun (.inl ⟨e, rfl⟩)
    | ok r =>
      simp only [Except.ok.injEq, forall_eq', reduceCtorEq, exists_false, false_or]
      exact keepsOrigin_iff made
  · intro r origin made named unlike
    have unreadable : ¬ origin.all Bytes.isVisible := fun visible => unlike (.inl visible)
    rw [getAll_origin_of_request made]
    change [originOf tls h.fields h.host] = _
    rw [originOf_of_some named, if_neg unreadable]

/-- A page of another host whose name is not ASCII: the request that is made for it names the host
that it is made to. -/
theorem origin_replaced_of_unreadable :
    let foreign := Bytes.ascii "http://caf" ++ [0xc3, 0xa9]
    let raw := Bytes.ascii "GET /ws HTTP/1.1\r\nHost: h\r\nOrigin: " ++ foreign ++
      Bytes.ascii "\r\n\r\n"
    let fields : Fields :=
      ⟨[⟨Message.Name.host, [Bytes.ascii "h"]⟩, ⟨Message.Name.origin, [foreign]⟩]⟩
    let h : RequestHead := ⟨Bytes.ascii "GET", Bytes.ascii "/ws", Bytes.ascii "h",
      Bytes.ascii "/ws", fields, raw⟩
    RequestHead.parse raw = .ok h ∧ clientOrigin? h.fields = some foreign ∧
      ∃ r, (Handshake.ofHead false h).request (Bytes.ascii "new") = .ok r ∧
        r.fields.getAll Message.Name.origin = [Bytes.ascii "http://h"] ∧
        ¬ KeepsOrigin false h r.fields := by
  intro foreign raw fields h
  have parsed : RequestHead.parse raw = .ok h := by decide +kernel
  have named : clientOrigin? h.fields = some foreign := by decide +kernel
  cases made : (Handshake.ofHead false h).request (Bytes.ascii "new") with
  | error e =>
    have goes : ((Handshake.ofHead false h).request (Bytes.ascii "new")).isOk := by decide +kernel
    rw [made] at goes
    cases goes
  | ok r =>
    have own : r.fields.getAll Message.Name.origin = [Bytes.ascii "http://h"] := by
      rw [getAll_origin_of_request made]
      decide +kernel
    refine ⟨parsed, named, r, rfl, own, fun keeps => ?_⟩
    have kept := keeps.kept foreign named
    rw [own] at kept
    exact absurd kept (by decide +kernel)

end Wiretap.WebSocket
