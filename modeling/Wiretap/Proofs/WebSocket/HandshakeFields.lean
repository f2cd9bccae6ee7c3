import Wiretap.Proofs.Message.ReplySplitting
import Wiretap.Proofs.Session.Addressing
import Wiretap.Proofs.WebSocket.Offers

/-!
# The fields of a request for an upgrade

The fields of a request come from three sides: those that every request for an upgrade has, those of
the client that are passed on, and the origin and the offer, which are put in their places at the
end.  No two sides meet in a name, since the names of the handshake are left behind when the
client's fields are passed on (`getAll_passedOn_of_own`).  So a request states all that belongs to
the handshake once, and repeats everything else as the client has it (`request_renews_handshake`).

What the client has can be any fields at all, as long as each name stands at one place
(`Fields.WellFormed`).  The fields of every head that is read are like this (`wellFormed_of_parse`).
-/

namespace Wiretap.Message

set_option autoImplicit false

namespace Fields

/-- Fields that are added stand behind those that are there. -/
theorem getAll_appendAll (f g : Fields) (name : Bytes) :
    (f.appendAll g).getAll name = f.getAll name ++ valuesOf g.toList name.fold := by
  rw [appendAll]
  generalize g.toList = lines
  induction lines generalizing f with
  | nil => simp [valuesOf]
  | cons line rest ih =>
    rw [List.foldl_cons, ih, append]
    by_cases same : line.1.fold = name.fold
    · have own : f.getAll line.1 = f.getAll name := by simp [getAll, same]
      rw [getAll_update same.symm, own]
      simp [valuesOf, same]
    · rw [getAll_update_of_ne (Ne.symm same)]
      simp [valuesOf, same]

/-- Where each name stands at one place, its values stand behind those that are there. -/
theorem WellFormed.getAll_appendAll {g : Fields} (wellFormed : g.WellFormed) (f : Fields)
    (name : Bytes) : (f.appendAll g).getAll name = f.getAll name ++ g.getAll name := by
  have own : g.getAll name.fold = g.getAll name := by simp [getAll]
  rw [Fields.getAll_appendAll, valuesOf_toList wellFormed (Bytes.fold_fold name), own]

end Fields

/-- The fields that are collected from lines are well formed. -/
theorem RequestHead.wellFormed_of_collect {lines : List (Bytes × Bytes)} {fields : Fields}
    (collected : RequestHead.collect lines = .ok fields) : fields.WellFormed := by
  have none : Fields.empty.WellFormed := ⟨rfl, List.nodup_nil⟩
  rw [RequestHead.collect] at collected
  generalize Fields.empty = before at collected none
  induction lines generalizing before with
  | nil =>
    cases collected
    exact none
  | cons line rest ih =>
    rw [List.foldlM_cons] at collected
    split at collected
    · cases collected
    · next named =>
      split at collected
      · cases collected
      · next valued =>
        exact ih _ collected (none.append (by simpa using named) (by simpa using valued))

/-- The fields of a head that is read are well formed. -/
theorem RequestHead.wellFormed_of_parse {raw : Bytes} {h : RequestHead}
    (parsed : RequestHead.parse raw = .ok h) : h.fields.WellFormed := by
  obtain ⟨_, _, _, _, _, _, _, collected, _, rfl⟩ := RequestHead.parse_ok_cases parsed
  exact wellFormed_of_collect collected

end Wiretap.Message

namespace Wiretap.WebSocket

set_option autoImplicit false

open Wiretap.Message (Fields RequestHead Uri)
open Wiretap.Message.Fields (getAll_appendAll getAll_keep getAll_keep_of_not getAll_of_not_names
  getAll_update getAll_update_of_ne names_appendAll names_update valuesOf valuesOf_toList)

/-! ## The host -/

/-- The host that a handshake states is what stands behind the first at sign of the authority, or all
of it. -/
def IsHostOf (host authority : Bytes) : Prop :=
  (0x40 ∉ authority ∧ host = authority) ∨
    ∃ user, 0x40 ∉ user ∧ authority = user ++ 0x40 :: host

theorem isHostOf_namedHost (authority : Bytes) :
    IsHostOf (Handshake.namedHost authority) authority := by
  have split : authority.takeWhile (· != 0x40) ++ authority.dropWhile (· != 0x40) = authority :=
    List.takeWhile_append_dropWhile
  have free : 0x40 ∉ authority.takeWhile (· != 0x40) := by
    intro member
    simpa using List.mem_takeWhile_imp member
  rw [Handshake.namedHost, Bytes.cutAt?]
  cases behind : authority.dropWhile (· != 0x40) with
  | nil =>
    rw [behind, List.append_nil] at split
    exact .inl ⟨split ▸ free, rfl⟩
  | cons b rest =>
    have mark : b = 0x40 := by
      have stopped := List.head?_dropWhile_not (· != 0x40) authority
      rw [behind] at stopped
      simpa using stopped
    rw [behind, mark] at split
    exact .inr ⟨_, free, split.symm⟩

/-- The host that is dialed stands behind the last at sign, so it is the one that the handshake
states only where the authority has one at sign at most. -/
theorem IsHostOf.eq_hostAndPort_iff {host authority : Bytes} (isHost : IsHostOf host authority) :
    host = Uri.hostAndPort authority ↔ 0x40 ∉ host := by
  constructor
  · rintro rfl
    exact Uri.not_mem_hostAndPort authority
  · intro plain
    obtain ⟨none, rfl⟩ | ⟨user, _, rfl⟩ := isHost
    · exact (Uri.hostAndPort_eq_self_iff.mpr none).symm
    · have free : ∀ b ∈ host.reverse, (b != 0x40) = true := by
        intro b member
        rw [bne_iff_ne]
        rintro rfl
        exact plain (List.mem_reverse.mp member)
      rw [Uri.hostAndPort_eq, List.reverse_append, List.reverse_cons, List.append_assoc,
        List.takeWhile_append_of_pos free]
      simp

/-! ## The three sides -/

/-- The names that every request states of its own. -/
def statedNames : List Bytes :=
  [Message.Name.host, Message.Name.connection, Message.Name.upgrade, Message.Name.webSocketVersion,
    Message.Name.webSocketKey, Message.Name.origin]

/-- The names that a request states of its own, or leaves out. -/
def renewedNames : List Bytes :=
  statedNames ++ [Message.Name.webSocketExtensions, Message.Name.webSocketProtocol]

theorem mem_handshakeNames (name : Bytes) : name ∈ handshakeNames ↔ name ∈ renewedNames := by
  have same : handshakeNames.Perm renewedNames := by decide
  exact same.mem_iff

variable {h : RequestHead} {tls : Bool} {host key name : Bytes} {fields : Fields}
  {protocols : Option Bytes} {r : UpgradeRequest}

/-- No value of the client is passed on under a name of the handshake. -/
theorem getAll_passedOn_of_own (own : name.fold ∈ renewedNames) :
    (passedOn fields).getAll name = [] :=
  getAll_keep_of_not (by simpa [mem_handshakeNames] using own)

/-- All values of every other name are. -/
theorem getAll_passedOn (foreign : name.fold ∉ renewedNames) :
    (passedOn fields).getAll name = fields.getAll name :=
  getAll_keep (by simpa [mem_handshakeNames] using foreign)

/-- Only the values of its own name are changed by an offer. -/
theorem getAll_offering_of_ne (other : name.fold ≠ Message.Name.webSocketProtocol.fold) :
    (offering fields protocols).getAll name = fields.getAll name := by
  cases protocols with
  | none => rfl
  | some p => exact getAll_update_of_ne other

theorem names_offering :
    (offering fields protocols).Names name ↔
      fields.Names name ∨ (protocols.isSome ∧ name.fold = Message.Name.webSocketProtocol.fold) := by
  cases protocols with
  | none => simp [offering]
  | some p => simp [offering, Fields.insert, names_update]

/-- Besides the origin, a request that offers nothing has the basic fields and those that are passed
on. -/
theorem getAll_plainFields_of_ne (wellFormed : h.fields.WellFormed)
    (other : name.fold ≠ Message.Name.origin.fold) :
    (plainFields host key (Handshake.ofHead tls h)).getAll name =
      (Handshake.basicFields host key).getAll name ++ (passedOn h.fields).getAll name := by
  rw [plainFields, Fields.insert, getAll_update_of_ne other]
  exact (wellFormed.keep _).getAll_appendAll _ name

/-- A name that is passed on is one of the client's, and none of the handshake. -/
theorem names_of_passedOn (wellFormed : fields.WellFormed) {line : Bytes × Bytes}
    (member : line ∈ (passedOn fields).toList) :
    line.1.fold ∉ renewedNames ∧ fields.Names line.1 := by
  obtain ⟨g, kept, inside⟩ := List.mem_flatMap.mp member
  obtain ⟨v, _, rfl⟩ := List.mem_map.mp inside
  obtain ⟨there, foreign⟩ := List.mem_filter.mp kept
  have lower : g.name.fold = g.name := (Fields.of_areFields wellFormed.proper there).2.1
  refine ⟨?_, ?_⟩
  · rw [lower, ← mem_handshakeNames]
    simpa using foreign
  · rw [Fields.Names, lower]
    exact List.mem_map_of_mem there

/-- Without an offer, a request has the names that it states and those that are passed on. -/
theorem names_plainFields (wellFormed : h.fields.WellFormed)
    (there : (plainFields host key (Handshake.ofHead tls h)).Names name) :
    name.fold ∈ statedNames ∨ (name.fold ∉ renewedNames ∧ h.fields.Names name) := by
  rw [plainFields, Fields.insert, names_update, names_appendAll, names_basicFields] at there
  obtain (basic | ⟨line, member, same⟩) | origin := there
  · exact .inl (List.mem_append_left [_] basic)
  · obtain ⟨foreign, known⟩ := names_of_passedOn wellFormed member
    rw [Fields.Names, ← same] at known
    exact .inr ⟨same ▸ foreign, known⟩
  · rw [origin]
    exact .inl (by decide)

/-! ## What a request states -/

/-- The fields of a request for an upgrade that passes on a client's head: what belongs to the
handshake is stated once and anew, and everything else is as the client has it. -/
structure RenewsHandshake (tls : Bool) (h : RequestHead) (host key : Bytes) (fields : Fields) :
    Prop where
  host : fields.getAll Message.Name.host = [host]
  connection : fields.getAll Message.Name.connection = [Bytes.ascii "Upgrade"]
  upgrade : fields.getAll Message.Name.upgrade = [Bytes.ascii "websocket"]
  version : fields.getAll Message.Name.webSocketVersion = [Bytes.ascii "13"]
  key : fields.getAll Message.Name.webSocketKey = [key]
  origin : fields.getAll Message.Name.origin = [originOf tls h.fields h.host]
  extensions : ¬ fields.Names Message.Name.webSocketExtensions
  /-- Of the subprotocols, the client's first value is offered as it is. -/
  protocol : fields.getAll Message.Name.webSocketProtocol =
    (h.fields.getAll Message.Name.webSocketProtocol).head?.toList
  /-- Whatever does not belong to the handshake has the values of the client, in their order. -/
  others : ∀ name, name.fold ∉ renewedNames → fields.getAll name = h.fields.getAll name
  /-- No name is there that is not stated, offered by the client or passed on. -/
  names : ∀ name, fields.Names name → name.fold ∈ statedNames ∨
    (name.fold = Message.Name.webSocketProtocol ∧
      h.fields.getAll Message.Name.webSocketProtocol ≠ []) ∨
    (name.fold ∉ renewedNames ∧ h.fields.Names name)

/-- A field that every request has is not passed on, and nothing is put in its place. -/
theorem getAll_basic (wellFormed : h.fields.WellFormed) (own : name.fold ∈ renewedNames)
    (notOrigin : name.fold ≠ Message.Name.origin.fold)
    (notOffer : name.fold ≠ Message.Name.webSocketProtocol.fold) :
    (offering (plainFields host key (Handshake.ofHead tls h)) protocols).getAll name =
      (Handshake.basicFields host key).getAll name := by
  rw [getAll_offering_of_ne notOffer, getAll_plainFields_of_ne wellFormed notOrigin,
    getAll_passedOn_of_own own, List.append_nil]

/-- Nothing but what is passed on stands under a name that does not belong to the handshake. -/
theorem getAll_foreign (wellFormed : h.fields.WellFormed) (foreign : name.fold ∉ renewedNames) :
    (offering (plainFields host key (Handshake.ofHead tls h)) protocols).getAll name =
      h.fields.getAll name := by
  have apart : ∀ own ∈ renewedNames, name.fold ≠ own := by
    rintro own member rfl
    exact foreign member
  have unstated : ¬ (Handshake.basicFields host key).Names name := by
    rw [names_basicFields]
    intro basic
    exact foreign (List.mem_append_left _ (List.mem_append_left [_] basic))
  rw [getAll_offering_of_ne (apart _ (by decide)),
    getAll_plainFields_of_ne wellFormed (apart _ (by decide)), getAll_of_not_names unstated,
    getAll_passedOn foreign, List.nil_append]

/-- Only the client's offer stands under the name of offers. -/
theorem getAll_offer (wellFormed : h.fields.WellFormed) :
    (offering (plainFields host key (Handshake.ofHead tls h)) protocols).getAll
      Message.Name.webSocketProtocol = protocols.toList := by
  have unoffered : (plainFields host key (Handshake.ofHead tls h)).getAll
      Message.Name.webSocketProtocol = [] := by
    rw [getAll_plainFields_of_ne wellFormed (by decide), getAll_passedOn_of_own (by decide)]
    rfl
  cases protocols with
  | none => exact unoffered
  | some p => exact getAll_update rfl

theorem names_request (wellFormed : h.fields.WellFormed)
    (there : (offering (plainFields host key (Handshake.ofHead tls h)) (offered h.fields)).Names
      name) :
    name.fold ∈ statedNames ∨
    (name.fold = Message.Name.webSocketProtocol ∧
      h.fields.getAll Message.Name.webSocketProtocol ≠ []) ∨
    (name.fold ∉ renewedNames ∧ h.fields.Names name) := by
  obtain plain | ⟨offers, same⟩ := names_offering.mp there
  · obtain stated | passed := names_plainFields wellFormed plain
    · exact .inl stated
    · exact .inr (.inr passed)
  · refine .inr (.inl ⟨same, ?_⟩)
    intro none
    rw [offered, Fields.get?, none] at offers
    cases offers

/-- **A request for an upgrade states its handshake anew.** Whatever fields the client has, the
request that is made for it has one host, which is what stands behind the first at sign of the
authority of its location or all of it (`IsHostOf.eq_hostAndPort_iff`), one value each for the
upgrade, its version and the origin, and the fresh key alone. It offers no extension, and of the
subprotocols just the first value of the client.  Every other name has the client's values in their
order, and no name is added. -/
theorem request_renews_handshake (wellFormed : h.fields.WellFormed)
    (made : (Handshake.ofHead tls h).request key = .ok r) :
    ∃ host, Uri.parse (location tls h.host h.path) = .ok r.uri ∧ IsHostOf host r.uri.authority ∧
      RenewsHandshake tls h host key r.fields := by
  obtain ⟨uri, parsed, rfl⟩ := request_ok_cases made
  refine ⟨_, parsed, isHostOf_namedHost uri.authority, ?_⟩
  exact {
    host := getAll_basic wellFormed (by decide) (by decide) (by decide)
    connection := getAll_basic wellFormed (by decide) (by decide) (by decide)
    upgrade := getAll_basic wellFormed (by decide) (by decide) (by decide)
    version := getAll_basic wellFormed (by decide) (by decide) (by decide)
    key := getAll_basic wellFormed (by decide) (by decide) (by decide)
    origin := by
      rw [getAll_offering_of_ne (by decide)]
      exact getAll_update rfl
    extensions := by
      intro there
      obtain stated | ⟨offers, _⟩ | ⟨foreign, _⟩ := names_request wellFormed there
      · exact absurd stated (by decide)
      · exact absurd offers (by decide)
      · exact foreign (by decide)
    protocol := getAll_offer wellFormed
    others := fun name foreign => getAll_foreign wellFormed foreign
    names := fun name there => names_request wellFormed there }

/-- A head with user information in its host, with a key and extensions of its own, and with two
offers of subprotocols. -/
theorem request_renews_repeated_fields :
    let raw := Bytes.ascii <|
      "GET /ws HTTP/1.1\r\nHost: bob@h:81\r\nX-A: 1\r\nSec-WebSocket-Key: old\r\n" ++
      "Sec-WebSocket-Protocol: chat, talk\r\nsec-websocket-extensions: deflate\r\n" ++
      "x-a: 2\r\nSec-WebSocket-Protocol: other\r\n\r\n"
    let fields : Fields := ⟨[⟨Message.Name.host, [Bytes.ascii "bob@h:81"]⟩,
      ⟨Bytes.ascii "x-a", [Bytes.ascii "1", Bytes.ascii "2"]⟩,
      ⟨Message.Name.webSocketKey, [Bytes.ascii "old"]⟩,
      ⟨Message.Name.webSocketProtocol, [Bytes.ascii "chat, talk", Bytes.ascii "other"]⟩,
      ⟨Message.Name.webSocketExtensions, [Bytes.ascii "deflate"]⟩]⟩
    let h : RequestHead := ⟨Bytes.ascii "GET", Bytes.ascii "/ws", Bytes.ascii "bob@h:81",
      Bytes.ascii "/ws", fields, raw⟩
    let r : UpgradeRequest := ⟨⟨some (Bytes.ascii "ws"), Bytes.ascii "bob@h:81", Bytes.ascii "/ws"⟩,
      ⟨[⟨Message.Name.host, [Bytes.ascii "h:81"]⟩,
        ⟨Message.Name.connection, [Bytes.ascii "Upgrade"]⟩,
        ⟨Message.Name.upgrade, [Bytes.ascii "websocket"]⟩,
        ⟨Message.Name.webSocketVersion, [Bytes.ascii "13"]⟩,
        ⟨Message.Name.webSocketKey, [Bytes.ascii "new"]⟩,
        ⟨Bytes.ascii "x-a", [Bytes.ascii "1", Bytes.ascii "2"]⟩,
        ⟨Message.Name.origin, [Bytes.ascii "http://bob@h:81"]⟩,
        ⟨Message.Name.webSocketProtocol, [Bytes.ascii "chat, talk"]⟩]⟩⟩
    RequestHead.parse raw = .ok h ∧
      (Handshake.ofHead false h).request (Bytes.ascii "new") = .ok r ∧
      IsHostOf (Bytes.ascii "h:81") (Bytes.ascii "bob@h:81") ∧
      RenewsHandshake false h (Bytes.ascii "h:81") (Bytes.ascii "new") r.fields := by
  intro raw fields h r
  have parsed : RequestHead.parse raw = .ok h := by decide +kernel
  have made : (Handshake.ofHead false h).request (Bytes.ascii "new") = .ok r := by decide +kernel
  obtain ⟨host, _, isHost, renews⟩ :=
    request_renews_handshake (RequestHead.wellFormed_of_parse parsed) made
  obtain rfl : Bytes.ascii "h:81" = host := (List.cons.inj renews.host).1
  exact ⟨parsed, made, isHost, renews⟩

end Wiretap.WebSocket
