import Wiretap.Proofs.Message.FieldChanges
import Wiretap.Proofs.Message.HeadDelivery
import Wiretap.WebSocket.Handshake

/-!
# Offers of subprotocols

A request for an upgrade offers the subprotocols that the client offers, and nothing else it holds
could be taken for an offer (`get?_offer_of_request`).  A request that is made again without an
offer is the same one, but for its key (`request_again`): none of the fields that a client has in
its head comes between, since those that belong to the handshake are left behind.
-/

namespace Wiretap.WebSocket

set_option autoImplicit false

open Message (Fields RequestHead Uri)
open Message.Fields (getAll_keep_of_not getAll_update getAll_update_of_ne getAll_of_not_names
  keep_eq_self keep_update_of_not names_appendAll names_update update_appendAll update_comm)

/-! ## What a request is made of -/

/-- The fields of a request that offers nothing. -/
def plainFields (host key : Bytes) (hs : Handshake) : Fields :=
  ((Handshake.basicFields host key).appendAll hs.fields).insert Message.Name.origin hs.origin

/-- The fields with an offer, if there is one. -/
def offering (fields : Fields) : Option Bytes → Fields
  | none => fields
  | some p => fields.insert Message.Name.webSocketProtocol p

/-- A request is made to the url of its handshake, or fails before any host could answer it. -/
theorem request_cases (key : Bytes) (hs : Handshake) :
    (∃ uri, Uri.parse hs.url = .ok uri ∧ hs.request key = .ok
      ⟨uri, offering (plainFields (Handshake.namedHost uri.authority) key hs) hs.protocols⟩) ∨
    ∃ e, hs.request key = .error e ∧ e ≠ .nothingSelected := by
  rw [Handshake.request]
  cases parsed : Uri.parse hs.url with
  | error e => exact .inr ⟨.target e, rfl, nofun⟩
  | ok uri =>
    simp only [Except.mapError, bind, Except.bind]
    split
    · exact .inr ⟨.noHost, rfl, nofun⟩
    · split
      · exact .inr ⟨.emptyHost, rfl, nofun⟩
      · split
        · exact .inr ⟨.fieldValue, rfl, nofun⟩
        · refine .inl ⟨uri, rfl, ?_⟩
          cases hs.protocols <;> rfl

theorem request_ok_cases {key : Bytes} {hs : Handshake} {r : UpgradeRequest}
    (made : hs.request key = .ok r) :
    ∃ uri, Uri.parse hs.url = .ok uri ∧ r =
      ⟨uri, offering (plainFields (Handshake.namedHost uri.authority) key hs) hs.protocols⟩ := by
  obtain ⟨uri, parsed, same⟩ | ⟨e, failed, _⟩ := request_cases key hs
  · exact ⟨uri, parsed, Except.ok.inj (made.symm.trans same)⟩
  · cases made.symm.trans failed

/-- A request that cannot be made is no request that nothing was selected of. -/
theorem request_ne_nothingSelected {key : Bytes} {hs : Handshake} :
    hs.request key ≠ .error .nothingSelected := by
  intro missed
  obtain ⟨_, _, made⟩ | ⟨e, failed, other⟩ := request_cases key hs
  · cases missed.symm.trans made
  · exact other (Except.error.inj (failed.symm.trans missed))

/-! ## Names that belong to the handshake -/

/-- The names of a head that has been read are in lower case. -/
theorem folded_of_parse {raw : Bytes} {h : RequestHead} (parsed : RequestHead.parse raw = .ok h) :
    h.fields.Folded := by
  obtain ⟨parts, _, fields, _, _, _, _, collected, _, rfl⟩ := RequestHead.parse_ok_cases parsed
  have none : Fields.empty.Folded := nofun
  rw [RequestHead.collect] at collected
  change fields.Folded
  generalize Fields.empty = before at collected none
  generalize parts.lines = lines at collected
  induction lines generalizing before with
  | nil =>
    cases collected
    exact none
  | cons line rest ih =>
    rw [List.foldlM_cons] at collected
    split at collected
    · cases collected
    · split at collected
      · cases collected
      · exact ih (before.append line.1 line.2) none.append collected

/-- No field that is passed on has a name of the handshake. -/
theorem apart_of_passedOn {fields : Fields} (folded : fields.Folded) (name : Bytes)
    (own : name.fold ∈ handshakeNames) :
    ∀ line ∈ (passedOn fields).toList, line.1.fold ≠ name.fold := by
  intro line member same
  obtain ⟨g, kept, inside⟩ := List.mem_flatMap.mp member
  obtain ⟨v, _, rfl⟩ := List.mem_map.mp inside
  obtain ⟨there, other⟩ := List.mem_filter.mp kept
  have lower : g.name.fold = g.name := folded g.name (List.mem_map_of_mem there)
  rw [← same, lower] at own
  simp [own] at other

/-! ## The request without an offer -/

/-- The same request with another key, and without an offer. -/
def UpgradeRequest.again (r : UpgradeRequest) (key : Bytes) : UpgradeRequest :=
  { r with
    fields := (r.fields.keep (· != Message.Name.webSocketProtocol)).insert
      Message.Name.webSocketKey key }

variable {hs : Handshake} {tls : Bool} {h : RequestHead} {key key' : Bytes}
  {r r' : UpgradeRequest}

theorem basicFields_insert (host key key' : Bytes) :
    (Handshake.basicFields host key).insert Message.Name.webSocketKey key' =
      Handshake.basicFields host key' := by
  rfl

theorem names_basicFields (host key name : Bytes) :
    (Handshake.basicFields host key).Names name ↔
      name.fold ∈ [Message.Name.host, Message.Name.connection, Message.Name.upgrade,
        Message.Name.webSocketVersion, Message.Name.webSocketKey] := by
  rfl

section

variable (lower : h.fields.Folded) (host : Bytes)

include lower

/-- What a request without an offer has does not name one. -/
theorem not_names_offer (tls : Bool) (key : Bytes) :
    ¬ (plainFields host key (Handshake.ofHead tls h)).Names Message.Name.webSocketProtocol := by
  rw [plainFields, Fields.insert, names_update, names_appendAll, names_basicFields]
  rintro ((basic | ⟨line, member, same⟩) | origin)
  · exact absurd basic (by decide)
  · exact apart_of_passedOn lower _ (by decide) line member same.symm
  · exact absurd origin (by decide)

/-- Another key takes the place of the first one. -/
theorem plainFields_insert_key :
    (plainFields host key (Handshake.ofHead tls h)).insert Message.Name.webSocketKey key' =
      plainFields host key' (Handshake.ofHead tls h) := by
  have there : (Handshake.basicFields host key).Names Message.Name.webSocketKey :=
    (names_basicFields host key _).mpr (by decide)
  have behind : ((Handshake.basicFields host key).appendAll
      (Handshake.ofHead tls h).fields).Names Message.Name.webSocketKey :=
    names_appendAll.mpr (.inl there)
  have apart := apart_of_passedOn lower Message.Name.webSocketKey (by decide)
  have different : Message.Name.webSocketKey.fold ≠ Message.Name.origin.fold := by decide
  calc
    _ = (((Handshake.basicFields host key).appendAll (Handshake.ofHead tls h).fields).insert
          Message.Name.webSocketKey key').insert Message.Name.origin
            (Handshake.ofHead tls h).origin := (update_comm different behind).symm
    _ = (((Handshake.basicFields host key).insert Message.Name.webSocketKey key').appendAll
          (Handshake.ofHead tls h).fields).insert Message.Name.origin
            (Handshake.ofHead tls h).origin :=
      congrArg (·.insert Message.Name.origin (Handshake.ofHead tls h).origin)
        (update_appendAll there apart).symm
    _ = plainFields host key' (Handshake.ofHead tls h) := by
      rw [basicFields_insert]
      rfl

end

/-- Without the offer, what offers nothing is left. -/
theorem keep_offering {fields : Fields} {protocols : Option Bytes}
    (unoffered : ¬ fields.Names Message.Name.webSocketProtocol) :
    (offering fields protocols).keep (· != Message.Name.webSocketProtocol) = fields := by
  have all : fields.keep (· != Message.Name.webSocketProtocol) = fields := by
    apply keep_eq_self
    intro n member
    rw [bne_iff_ne]
    rintro rfl
    exact unoffered member
  cases protocols with
  | none => exact all
  | some p =>
    rw [offering, Fields.insert, keep_update_of_not (by decide)]
    exact all

/-- **A request that is made again is the same one without its offer**, but for its key. -/
theorem request_again (lower : h.fields.Folded)
    (first : (Handshake.ofHead tls h).request key = .ok r)
    (second : (Handshake.ofHead tls h).withoutOffer.request key' = .ok r') :
    r' = r.again key' := by
  obtain ⟨uri, parsed, rfl⟩ := request_ok_cases first
  obtain ⟨uri', parsed', rfl⟩ := request_ok_cases second
  obtain rfl : uri = uri' := Except.ok.inj (parsed.symm.trans parsed')
  have unoffered := not_names_offer lower (Handshake.namedHost uri.authority) tls key
  rw [UpgradeRequest.again, keep_offering unoffered, plainFields_insert_key lower]
  rfl

/-- A request offers what its handshake does. -/
theorem get?_offer_of_request (lower : h.fields.Folded)
    (made : (Handshake.ofHead tls h).request key = .ok r) :
    r.fields.get? Message.Name.webSocketProtocol = offered h.fields := by
  obtain ⟨uri, _, rfl⟩ := request_ok_cases made
  have unoffered := not_names_offer lower (Handshake.namedHost uri.authority) tls key
  change (offering _ (offered h.fields)).get? _ = _
  cases offered h.fields with
  | none => rw [offering, Fields.get?, getAll_of_not_names unoffered, List.head?_nil]
  | some p => rw [offering, Fields.get?, Fields.insert, getAll_update rfl, List.head?_cons]

theorem get?_offer_of_again (r : UpgradeRequest) (key : Bytes) :
    (r.again key).fields.get? Message.Name.webSocketProtocol = none := by
  have different : Message.Name.webSocketProtocol.fold ≠ Message.Name.webSocketKey.fold := by decide
  rw [UpgradeRequest.again, Fields.get?, Fields.insert, getAll_update_of_ne different,
    getAll_keep_of_not (by decide), List.head?_nil]

/-! ## Names that are offered -/

def comma : UInt8 := 0x2c

/-- A name without the blanks around it. -/
def trim (name : Bytes) : Bytes := Bytes.trimBlankEnd (name.dropWhile Bytes.isBlank)

/-- The names in an offer, which are separated by commas.  An offer that cannot be read as text
holds none. -/
def offeredNames (offer : Bytes) : List Bytes :=
  if offer.all Bytes.isVisible then (offer.splitOn comma).map trim else []

theorem subset_of_mem_splitOnP {p : UInt8 → Bool} {part text : Bytes}
    (member : part ∈ text.splitOnP p) : part ⊆ text := by
  induction text generalizing part with
  | nil =>
    rw [List.splitOnP_nil, List.mem_singleton] at member
    rw [member]
    exact List.Subset.refl []
  | cons b rest ih =>
    rw [List.splitOnP_cons_eq_if_modifyHead] at member
    split at member
    · obtain _ | ⟨_, member⟩ := member
      · exact List.nil_subset _
      · exact List.subset_cons_of_subset b (ih member)
    · cases parts : rest.splitOnP p with
      | nil => exact absurd parts (List.splitOnP_ne_nil p rest)
      | cons first others =>
        rw [parts, List.modifyHead_cons] at member
        obtain _ | ⟨_, member⟩ := member
        · exact List.cons_subset_cons b (ih (parts ▸ List.mem_cons_self))
        · exact List.subset_cons_of_subset b (ih (parts ▸ List.mem_cons_of_mem _ member))

theorem trim_subset (name : Bytes) : trim name ⊆ name := by
  intro b member
  have inside : b ∈ name.dropWhile Bytes.isBlank :=
    List.mem_reverse.mp ((List.dropWhile_sublist _).subset (List.mem_reverse.mp member))
  exact (List.dropWhile_sublist _).subset inside

/-- A name that is offered can be read as text. -/
theorem isVisible_of_mem_offeredNames {offer name : Bytes} (member : name ∈ offeredNames offer) :
    name.all Bytes.isVisible := by
  rw [offeredNames] at member
  split at member
  · next visible =>
    obtain ⟨part, inside, rfl⟩ := List.mem_map.mp member
    apply List.all_eq_true.mpr
    intro b there
    exact List.all_eq_true.mp visible b (subset_of_mem_splitOnP inside (trim_subset part there))
  · cases member

end Wiretap.WebSocket
