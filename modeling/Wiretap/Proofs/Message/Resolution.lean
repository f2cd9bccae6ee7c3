import Mathlib.Tactic.Common
import Wiretap.Proofs.Message.HeadRendering
import Wiretap.Proofs.Message.TargetParts

/-!
# Two ways to name a host

A request can name its host in its target, behind any scheme, or in its host field, with a path for
its target.  Both ways come to the same host and path (`resolve_of_names`), and what is dialed for
the request, whether it is passed on or upgraded, is read as that host and that path again
(`forwardTarget_of_parts`, `parse_location`).  This holds for every authority and every path that a
target can hold: no byte of the one is ever taken for a part of the other.
-/

namespace Wiretap.Message

set_option autoImplicit false

open Session (forwardTarget)
open Uri (IsAuthority IsPath IsScheme lengthLimit schemeMark)
open WebSocket (location)

namespace RequestHead

/-- The bytes are a head in form, with this method, target and fields.  Nothing is said about the
host that it is for. -/
def Scans (raw method target : Bytes) (fields : Fields) : Prop :=
  ∃ parts rest, HeadSyntax.head raw = .ok (parts, rest) ∧
    parts.method = method ∧ parts.target = target ∧ method ≠ [] ∧ method.all Bytes.isToken ∧
    collect parts.lines = .ok fields

/-- The target names the authority and the path itself, or is the path, and the first host field is
the authority. -/
inductive Names (authority path : Bytes) : (target : Bytes) → Fields → Prop
  | absolute {scheme : Bytes} (fields : Fields) (isScheme : IsScheme scheme)
      (within : (scheme ++ schemeMark ++ authority ++ path).length ≤ lengthLimit) :
      Names authority path (scheme ++ schemeMark ++ authority ++ path) fields
  | origin {fields : Fields} (field : fields.get? Name.host = some authority) :
      Names authority path path fields

/-! ## Reading a head -/

/-- What is written as a head is one in form. -/
theorem scans_render {ending : Bytes} (isEnding : IsEmptyLine ending)
    {parts : HeadSyntax.Parts} (wellFormed : parts.WellFormed)
    (fits : (HeadSyntax.render ending parts).length ≤ headLimit) :
    Scans (HeadSyntax.render ending parts) parts.method parts.target
      (Fields.grouped parts.lines) := by
  have scanned := HeadSyntax.takes_head isEnding wellFormed []
  rw [List.append_nil] at scanned
  refine ⟨parts, [], scanned, rfl, rfl, wellFormed.method_ne_nil, wellFormed.method, ?_⟩
  rw [collect_of_isField (HeadSyntax.isField_of_writable wellFormed fits),
    Fields.ofList_eq_grouped]

/-- A head in form is read if a host can be found for it. -/
theorem parse_of_scans {raw method target host path : Bytes} {fields : Fields}
    (scans : Scans raw method target fields)
    (resolved : resolve method target fields = .ok (host, path)) :
    parse raw = .ok ⟨method, target, host, path, fields, raw⟩ := by
  obtain ⟨parts, rest, scanned, rfl, rfl, some_bytes, tokens, collected⟩ := scans
  have isMethod : (parts.method.isEmpty || !parts.method.all Bytes.isToken) = false := by
    simp [some_bytes, tokens]
  rw [parse, scanned]
  simp only [isMethod, collected, bind, Except.bind, resolved]
  rfl

/-! ## Finding the host -/

/-- Both ways to name a host come to the same host and path. -/
theorem resolve_of_names {authority path method target : Bytes} {fields : Fields}
    (isAuthority : IsAuthority authority) (isPath : IsPath path) (request : method ≠ tunnelMethod)
    (names : Names authority path target fields) :
    resolve method target fields = .ok (authority, path) := by
  have some_path : path ≠ [] := by
    intro none
    rw [none] at isPath
    cases isPath.1
  rw [resolve, if_neg request]
  cases names with
  | absolute fields isScheme within =>
    obtain ⟨named, schemed⟩ := Uri.splitScheme_of_isScheme isScheme
      (List.append_ne_nil_of_left_ne_nil isAuthority.1 path)
    rw [ofTarget?_of_authority (Uri.parse_of_parts isAuthority isPath within schemed) isAuthority.1]
    simp [Uri.pathAndQuery?, some_path]
  | origin field =>
    have text : fields.text? Name.host = some authority := by
      rw [Fields.text?, field]
      simp [isAuthority.visible]
    rw [ofTarget?, if_pos isPath.1, text]

end RequestHead

/-! ## What is dialed -/

/-- What a request is passed on to is read as its host and its path again. -/
theorem forwardTarget_of_parts {h : RequestHead} (isAuthority : IsAuthority h.host)
    (isPath : IsPath h.path)
    (within : (Uri.http ++ schemeMark ++ h.host ++ h.path).length ≤ lengthLimit) :
    forwardTarget h = .ok ⟨some Uri.http, h.host, h.path⟩ := by
  rw [forwardTarget, Uri.parse_of_parts isAuthority isPath within (Uri.splitScheme_http _)]
  rfl

/-- The scheme of the location of an upgrade. -/
def upgradeScheme (tls : Bool) : Bytes := Bytes.ascii (if tls then "wss" else "ws")

theorem location_eq (tls : Bool) (host path : Bytes) :
    location tls host path = upgradeScheme tls ++ schemeMark ++ host ++ path := by
  cases tls <;> rfl

/-- So is the location of an upgrade, with either scheme. -/
theorem parse_location {host path : Bytes} (tls : Bool) (isAuthority : IsAuthority host)
    (isPath : IsPath path)
    (within : (Uri.http ++ schemeMark ++ host ++ path).length ≤ lengthLimit) :
    Uri.parse (location tls host path) = .ok ⟨some (upgradeScheme tls), host, path⟩ := by
  have shorter : (upgradeScheme tls).length ≤ Uri.http.length := by cases tls <;> decide
  have schemed : Uri.splitScheme (upgradeScheme tls ++ schemeMark ++ (host ++ path)) =
      .ok (some (upgradeScheme tls), host ++ path) := by
    cases tls <;> exact Uri.splitScheme_other _ _ _ (by decide) (by decide) (by decide)
  rw [location_eq]
  refine Uri.parse_of_parts isAuthority isPath ?_ schemed
  simp only [List.length_append] at within ⊢
  omega

/-- **A request that names its host in its target and one that names it in its host field come to
the same**: the same host and path, which are read again from what is dialed for it. -/
theorem resolves_alike {raw authority path method target : Bytes} {fields : Fields}
    (isAuthority : IsAuthority authority) (isPath : IsPath path)
    (within : (Uri.http ++ schemeMark ++ authority ++ path).length ≤ lengthLimit)
    (request : method ≠ tunnelMethod) (names : RequestHead.Names authority path target fields)
    (scans : RequestHead.Scans raw method target fields) :
    ∃ head, RequestHead.parse raw = .ok head ∧ head.host = authority ∧ head.path = path ∧
      forwardTarget head = .ok ⟨some Uri.http, authority, path⟩ ∧
      ∀ tls, Uri.parse (location tls head.host head.path) =
        .ok ⟨some (upgradeScheme tls), authority, path⟩ := by
  have resolved := RequestHead.resolve_of_names isAuthority isPath request names
  exact ⟨_, RequestHead.parse_of_scans scans resolved, rfl, rfl,
    forwardTarget_of_parts isAuthority isPath within,
    fun tls => parse_location tls isAuthority isPath within⟩

/-- A scheme that nobody knows in front of a name, a password, brackets and a port; and the same in
a host field: both go to port 8080 of one address, with a slash in the query. -/
theorem resolves_alike_with_user_and_port :
    let authority := Bytes.ascii "user:pw@[fe80::1]:8080"
    let path := Bytes.ascii "/x?y=/z"
    let absolute : HeadSyntax.Parts :=
      ⟨Bytes.ascii "GET", Bytes.ascii "tel+ip://user:pw@[fe80::1]:8080/x?y=/z", .one_one, []⟩
    let origin : HeadSyntax.Parts :=
      ⟨Bytes.ascii "HEAD", path, .one_zero, [(Bytes.ascii "Host", authority)]⟩
    ∀ parts ∈ [absolute, origin], ∃ head,
      RequestHead.parse (HeadSyntax.render Bytes.crlf parts) = .ok head ∧
        head.host = authority ∧ head.path = path ∧
        forwardTarget head = .ok ⟨some Uri.http, authority, path⟩ ∧
        ∀ tls, Uri.parse (location tls head.host head.path) =
          .ok ⟨some (upgradeScheme tls), authority, path⟩ := by
  intro authority path absolute origin parts member
  have isAuthority : IsAuthority authority :=
    ⟨by decide, Bytes.ascii "http://user:pw@[fe80::1]:8080", ⟨some Uri.http, authority, []⟩,
      by decide +kernel, rfl⟩
  have isPath : IsPath path := ⟨by decide, by decide, ⟨none, [], path⟩, by decide +kernel⟩
  have isScheme : IsScheme (Bytes.ascii "tel+ip") :=
    ⟨Bytes.ascii "tel+ip", path, by decide +kernel⟩
  have absoluteForm : absolute.WellFormed :=
    ⟨by decide, by decide, by decide, by decide, by decide, by decide, nofun⟩
  have originForm : origin.WellFormed := by
    refine ⟨by decide, by decide, by decide, by decide, by decide, by decide, ?_⟩
    rintro _ (_ | ⟨_, none⟩)
    · exact ⟨by decide, by decide, by decide, by decide +kernel, by decide +kernel⟩
    · cases none
  have named (fields : Fields) : RequestHead.Names authority path absolute.target fields :=
    .absolute fields isScheme (by decide)
  rcases member with _ | ⟨_, _ | ⟨_, none⟩⟩
  · exact resolves_alike isAuthority isPath (by decide) (by decide) (named _)
      (RequestHead.scans_render (.inr rfl) absoluteForm (by decide))
  · exact resolves_alike isAuthority isPath (by decide) (by decide) (.origin (by decide +kernel))
      (RequestHead.scans_render (.inr rfl) originForm (by decide))
  · cases none

end Wiretap.Message
