import Mathlib.Data.List.Basic
import Mathlib.Tactic.Common
import Wiretap.Proofs.Message.HeadDelivery
import Wiretap.Session.Forward
import Wiretap.WebSocket.Handshake

/-!
# Where a request is sent

The host and the path that a request names are written one behind the other to make the target that
is dialed, and that text is read again.  Reading it, the authority ends at the first delimiter,
wherever host and path were joined (`authority_of_glued`).  So the request goes to the host that it
names exactly when host and path come apart where they were joined (`Separable`).

A target that names its authority always gives such a pair (`separable_of_ofTarget?`).  A host field
does where its value holds no delimiter and the target begins with one, and nowhere else
(`routed_iff`): a target like `@elsewhere` becomes part of the authority, and what a host field holds
behind a slash becomes part of the path.
-/

namespace Wiretap.Message

set_option autoImplicit false

open Session (forwardTarget)
open WebSocket (location)

namespace Uri

/-! ## Splitting at the end of an authority -/

/-- A byte that an authority is not ended by. -/
def insideAuthority (b : UInt8) : Bool := !endsAuthority b

/-- Host and path come apart where they are joined: no byte of the host ends an authority, and the
first byte of the path, if there is one, does. -/
def Separable (host path : Bytes) : Prop :=
  (∀ b ∈ host, endsAuthority b = false) ∧ ∀ b ∈ path.head?, endsAuthority b = true

instance (host path : Bytes) : Decidable (Separable host path) :=
  inferInstanceAs (Decidable (_ ∧ _))

/-- What is taken up to the first delimiter is the first of two parts exactly when they come apart
there. -/
theorem takeWhile_append_eq_left_iff (host path : Bytes) :
    (host ++ path).takeWhile insideAuthority = host ↔ Separable host path := by
  induction host with
  | nil =>
    cases path with
    | nil => simp [Separable]
    | cons b path => cases ends : endsAuthority b <;> simp [Separable, insideAuthority, ends]
  | cons b host ih =>
    rw [List.cons_append, List.takeWhile_cons]
    cases ends : endsAuthority b with
    | true => simp [Separable, insideAuthority, ends]
    | false =>
      have inside : insideAuthority b = true := by rw [insideAuthority, ends]; rfl
      rw [if_pos inside, List.cons.injEq, ih]
      simp [Separable, ends]

theorem splitAuthority_ok {b authority rest : Bytes}
    (split : splitAuthority b = .ok (authority, rest)) :
    authority = b.takeWhile insideAuthority ∧ rest = b.dropWhile insideAuthority := by
  simp only [splitAuthority, bind, Except.bind] at split
  split at split
  · cases split
  · split at split
    · cases split
    · split at split
      · cases split
        exact ⟨rfl, rfl⟩
      · cases split

/-! ## Reading a target -/

/-- A target is read as a path or an asterisk, as an authority alone, or as a scheme with an
authority and a path behind it. -/
theorem parse_ok_cases {b : Bytes} {uri : Uri} (parsed : parse b = .ok uri) :
    (uri.authority = [] ∧ (b = [0x2a] ∨ b.head? = some Bytes.slash)) ∨
    (uri.scheme = none ∧ uri.pathAndQuery = [] ∧ ∃ behind,
      (b.length = 1 ∧ behind = b ∨ splitScheme b = .ok (none, behind)) ∧
      splitAuthority behind = .ok (uri.authority, [])) ∨
    (∃ scheme behind rest, splitScheme b = .ok (some scheme, behind) ∧
      splitAuthority behind = .ok (uri.authority, rest) ∧
      checkPath rest = .ok uri.pathAndQuery) := by
  unfold parse at parsed
  simp only [bind, Except.bind] at parsed
  split at parsed
  · cases parsed
  · split at parsed
    · cases parsed
    · cases parsed
      exact .inl ⟨rfl, .inl rfl⟩
    · split at parsed
      · cases parsed
      · cases parsed
        exact .inl ⟨rfl, .inr rfl⟩
    · split at parsed
      · cases parsed
      · next found split =>
        obtain ⟨authority, rest⟩ := found
        simp only at parsed
        split at parsed
        · next ended =>
          obtain rfl : rest = [] := by simpa using ended
          cases parsed
          exact .inr (.inl ⟨rfl, rfl, _, .inl ⟨rfl, rfl⟩, split⟩)
        · cases parsed
    · split at parsed
      · cases parsed
      · next schemed schemeSplit =>
        obtain ⟨scheme, behind⟩ := schemed
        simp only at parsed
        split at parsed
        · cases parsed
        · next found split =>
          obtain ⟨authority, rest⟩ := found
          cases scheme with
          | none =>
            simp only at parsed
            split at parsed
            · next ended =>
              obtain rfl : rest = [] := by simpa using ended
              cases parsed
              exact .inr (.inl ⟨rfl, rfl, _, .inr schemeSplit, split⟩)
            · cases parsed
          | some scheme =>
            simp only at parsed
            split at parsed
            · cases parsed
            · split at parsed
              · cases parsed
              · next checked =>
                cases parsed
                exact .inr (.inr ⟨_, _, _, schemeSplit, split, checked⟩)

/-- A target that begins with a slash names no authority. -/
theorem authority_of_path {rest : Bytes} {uri : Uri}
    (parsed : parse (Bytes.slash :: rest) = .ok uri) : uri.authority = [] := by
  simp only [parse, Bytes.slash, bind, Except.bind] at parsed
  split at parsed
  · cases parsed
  · split at parsed
    · cases parsed
    · cases parsed
      rfl

/-- Behind a scheme, the authority of a target is what stands in front of the first delimiter. -/
theorem authority_of_scheme {first : UInt8} {more behind scheme : Bytes} {uri : Uri}
    (notPath : first ≠ Bytes.slash)
    (schemed : splitScheme (first :: more ++ schemeMark ++ behind) = .ok (some scheme, behind))
    (parsed : parse (first :: more ++ schemeMark ++ behind) = .ok uri) :
    uri.authority = behind.takeWhile insideAuthority := by
  rcases parse_ok_cases parsed with ⟨_, short | path⟩ | ⟨_, _, _, ⟨short, _⟩ | none, _⟩ |
    ⟨_, _, _, same, split, _⟩
  · simp [schemeMark, Bytes.ascii] at short
  · exact absurd (Option.some.inj path) notPath
  · simp [schemeMark, Bytes.ascii] at short
  · rw [schemed] at none
    cases none
  · rw [schemed] at same
    cases same
    exact (splitAuthority_ok split).1

/-! ## The schemes that are written -/

theorem sameFolded_cons_of_ne {a b : UInt8} (other : Bytes.foldByte a ≠ Bytes.foldByte b)
    (first second : Bytes) : Bytes.sameFolded (a :: first) (b :: second) = false := by
  simp [Bytes.sameFolded, Bytes.fold, other]

theorem splitScheme_http (rest : Bytes) :
    splitScheme (http ++ schemeMark ++ rest) = .ok (some http, rest) := by
  have begins : (http ++ schemeMark ++ rest).take 7 = http ++ schemeMark := List.take_left' rfl
  have behind : (http ++ schemeMark ++ rest).drop 7 = rest := List.drop_left' rfl
  have same : Bytes.sameFolded (http ++ schemeMark) (http ++ schemeMark) = true := by decide
  rw [splitScheme, begins, if_pos same, behind]

/-- A scheme that is not taken for one of the two well-known ones is split off as it is. -/
theorem splitScheme_of_unlike {scheme rest : Bytes}
    (notHttp : ¬ Bytes.sameFolded ((scheme ++ schemeMark ++ rest).take 7) (http ++ schemeMark))
    (notHttps : ¬ Bytes.sameFolded ((scheme ++ schemeMark ++ rest).take 8) (https ++ schemeMark))
    (name : scheme.all isSchemeByte) (short : scheme.length ≤ schemeLimit)
    (long : 3 < (scheme ++ schemeMark ++ rest).length) :
    splitScheme (scheme ++ schemeMark ++ rest) = .ok (some scheme, rest) := by
  have stops : (schemeMark ++ rest).takeWhile isSchemeByte = [] :=
    List.takeWhile_cons_of_neg (by decide)
  have taken : (scheme ++ schemeMark ++ rest).takeWhile isSchemeByte = scheme := by
    rw [List.append_assoc, List.takeWhile_append_of_pos (List.all_eq_true.mp name), stops,
      List.append_nil]
  have behind : (scheme ++ schemeMark ++ rest).drop scheme.length = schemeMark ++ rest := by
    rw [List.append_assoc, List.drop_left]
  have marked : schemeMark.isPrefixOf (schemeMark ++ rest) = true := by simp
  rw [splitScheme, if_neg notHttp, if_neg notHttps]
  simp only [taken, behind, long, marked]
  rw [if_neg (Nat.not_lt.mpr short)]
  rfl

/-- A scheme that cannot be taken for one of the two well-known ones. -/
theorem splitScheme_other (first : UInt8) (more rest : Bytes)
    (unlike : Bytes.foldByte first ≠ 0x68) (name : (first :: more).all isSchemeByte)
    (short : (first :: more).length ≤ schemeLimit) :
    splitScheme (first :: more ++ schemeMark ++ rest) = .ok (some (first :: more), rest) := by
  have notHttp : Bytes.sameFolded ((first :: more ++ schemeMark ++ rest).take 7)
      (http ++ schemeMark) = false := sameFolded_cons_of_ne unlike _ _
  have notHttps : Bytes.sameFolded ((first :: more ++ schemeMark ++ rest).take 8)
      (https ++ schemeMark) = false := sameFolded_cons_of_ne unlike _ _
  refine splitScheme_of_unlike (Bool.eq_false_iff.mp notHttp) (Bool.eq_false_iff.mp notHttps)
    name short ?_
  have three : schemeMark.length = 3 := rfl
  simp only [List.length_append, List.length_cons, three]
  omega

/-! ## Targets that name their authority -/

theorem head?_dropWhile_insideAuthority (b : Bytes) :
    ∀ x ∈ (b.dropWhile insideAuthority).head?, endsAuthority x = true := by
  intro x first
  have stops := List.head?_dropWhile_not insideAuthority b
  rw [Option.mem_def.mp first] at stops
  simpa [insideAuthority] using stops

/-- What is kept of a path: everything in front of the query and the fragment, and the query. -/
theorem checkPath_ok {b kept : Bytes} (checked : checkPath b = .ok kept) :
    ∃ query, kept = (b.takeWhile fun x => x != 0x3f && x != 0x23) ++ query ∧
      ∀ x ∈ query.head?, x = 0x3f := by
  unfold checkPath at checked
  simp only [bind, Except.bind] at checked
  split at checked
  · cases checked
  · split at checked <;> split at checked
    · cases checked
    · split at checked
      · cases checked
      · cases checked
        exact ⟨_, rfl, by simp⟩
    · cases checked
    · split at checked
      · cases checked
      · cases checked
        exact ⟨[], rfl, by simp⟩

/-- What is kept of a path that begins with a delimiter begins with one, if anything is kept. -/
theorem head?_of_checkPath {b kept : Bytes} (begins : ∀ x ∈ b.head?, endsAuthority x = true)
    (checked : checkPath b = .ok kept) : ∀ x ∈ kept.head?, endsAuthority x = true := by
  obtain ⟨query, rfl, mark⟩ := checkPath_ok checked
  intro x first
  cases path : b.takeWhile fun x => x != 0x3f && x != 0x23 with
  | nil =>
    rw [path, List.nil_append] at first
    rw [mark x first]
    rfl
  | cons y path' =>
    rw [path, List.cons_append, List.head?_cons, Option.mem_some_iff] at first
    subst first
    have part : b.takeWhile (fun x => x != 0x3f && x != 0x23) <+: b := List.takeWhile_prefix _
    rw [path] at part
    obtain ⟨rest, rfl⟩ := part
    exact begins y rfl

/-- Where a target names its authority, the path behind it begins with a delimiter. -/
theorem separable_of_parse {target : Bytes} {uri : Uri} (parsed : parse target = .ok uri)
    (named : uri.authority.isEmpty = false) :
    Separable uri.authority (uri.pathAndQuery?.getD []) := by
  have inside (b : Bytes) : ∀ x ∈ b.takeWhile insideAuthority, endsAuthority x = false := by
    intro x member
    simpa [insideAuthority] using List.all_eq_true.mp List.all_takeWhile x member
  rcases parse_ok_cases parsed with ⟨none, _⟩ | ⟨alone, _, behind, _, split⟩ |
    ⟨scheme, behind, rest, _, split, checked⟩
  · rw [none] at named
    cases named
  · rw [(splitAuthority_ok split).1] at named ⊢
    refine ⟨inside behind, ?_⟩
    simp [pathAndQuery?, alone, (splitAuthority_ok split).1, named]
  · obtain ⟨authority, behindAuthority⟩ := splitAuthority_ok split
    rw [authority]
    refine ⟨inside behind, ?_⟩
    have begins := head?_of_checkPath
      (by rw [behindAuthority]; exact head?_dropWhile_insideAuthority behind) checked
    unfold pathAndQuery?
    split
    · simp
    · split
      · simp [endsAuthority, Bytes.slash]
      · exact begins

end Uri

open Uri (Separable)

/-! ## What is dialed -/

/-- The two targets that are made of a request begin with a scheme, behind which host and path
stand. -/
theorem authority_of_glued {h : RequestHead} {uri : Uri}
    (made : forwardTarget h = .ok uri ∨ ∃ tls, Uri.parse (location tls h.host h.path) = .ok uri) :
    uri.authority = (h.host ++ h.path).takeWhile Uri.insideAuthority := by
  rcases made with made | ⟨tls, made⟩
  · rw [forwardTarget, List.append_assoc (Uri.http ++ Uri.schemeMark)] at made
    cases parsed : Uri.parse (Uri.http ++ Uri.schemeMark ++ (h.host ++ h.path)) with
    | error e => rw [parsed] at made; cases made
    | ok found =>
      rw [parsed] at made
      cases made
      have first : (0x68 : UInt8) ≠ Bytes.slash := by decide
      exact Uri.authority_of_scheme first (Uri.splitScheme_http _) parsed
  · rw [location, List.append_assoc] at made
    have first : (0x77 : UInt8) ≠ Bytes.slash := by decide
    have unlike : Bytes.foldByte 0x77 ≠ 0x68 := by decide
    cases tls with
    | false =>
      have schemed := Uri.splitScheme_other 0x77 [0x73] (h.host ++ h.path) unlike
        (by decide) (by decide)
      exact Uri.authority_of_scheme first schemed made
    | true =>
      have schemed := Uri.splitScheme_other 0x77 [0x73, 0x73] (h.host ++ h.path) unlike
        (by decide) (by decide)
      exact Uri.authority_of_scheme first schemed made

/-- Where the host and the path of a request come from. -/
theorem resolve_ok_cases {method target host path : Bytes} {fields : Fields}
    (resolved : RequestHead.resolve method target fields = .ok (host, path))
    (request : method ≠ tunnelMethod) :
    RequestHead.ofTarget? target = some (host, path) ∨
      (RequestHead.ofTarget? target = none ∧ fields.text? Name.host = some host ∧
        path = target) := by
  rw [RequestHead.resolve, if_neg request] at resolved
  split at resolved
  · next found named =>
    cases resolved
    exact .inl named
  · next unnamed =>
    split at resolved
    · next found field =>
      cases resolved
      exact .inr ⟨unnamed, field, rfl⟩
    · cases resolved

theorem separable_of_ofTarget? {target host path : Bytes}
    (named : RequestHead.ofTarget? target = some (host, path)) : Separable host path := by
  unfold RequestHead.ofTarget? at named
  split at named
  · cases named
  · split at named
    · next uri parsed =>
      split at named
      · cases named
      · next some_bytes =>
        cases named
        exact Uri.separable_of_parse parsed (Bool.eq_false_iff.mpr some_bytes)
    · cases named

/-- **A request goes to the host that it names exactly when its host and path come apart where they
are joined**, whether it is passed on or asks for an upgrade.  They do where the target names its
authority; otherwise they do exactly where no byte of the host field's value is a delimiter and the
target begins with one. -/
theorem routed_iff {raw : Bytes} {head : RequestHead} (parsed : RequestHead.parse raw = .ok head)
    (request : head.isTunnel = false) :
    (∀ uri, forwardTarget head = .ok uri →
      (uri.authority = head.host ↔ Separable head.host head.path)) ∧
    (∀ tls uri, Uri.parse (location tls head.host head.path) = .ok uri →
      (uri.authority = head.host ↔ Separable head.host head.path)) ∧
    (Separable head.host head.path ↔
      (RequestHead.ofTarget? head.target).isSome ∨
        (head.fields.text? Name.host = some head.host ∧
          (∀ b ∈ head.host, Uri.endsAuthority b = false) ∧
          ∀ b ∈ head.target.head?, Uri.endsAuthority b = true)) := by
  have split : ∀ uri, (forwardTarget head = .ok uri ∨
      ∃ tls, Uri.parse (location tls head.host head.path) = .ok uri) →
        (uri.authority = head.host ↔ Separable head.host head.path) := by
    intro uri made
    rw [authority_of_glued made]
    exact Uri.takeWhile_append_eq_left_iff _ _
  refine ⟨fun uri made => split uri (.inl made),
    fun tls uri made => split uri (.inr ⟨tls, made⟩), ?_⟩
  obtain ⟨parts, rest, fields, host, path, _, _, _, resolved, rfl⟩ :=
    RequestHead.parse_ok_cases parsed
  have plain : parts.method ≠ tunnelMethod := by simpa [RequestHead.isTunnel] using request
  rcases resolve_ok_cases resolved plain with named | ⟨unnamed, field, rfl⟩
  · simp only [named, Option.isSome_some, true_or, iff_true]
    exact separable_of_ofTarget? named
  · simp only [unnamed, field, Option.isSome_none, Bool.false_eq_true, false_or, true_and]
    exact Iff.rfl

/-- A target with a query right behind its authority: the request goes where it says, and not to the
host of its host field. -/
theorem routed_of_absolute_target :
    let raw := Bytes.ascii "GET http://h:9?x=1 HTTP/1.1\r\nHost: elsewhere\r\n\r\n"
    ∃ head uri, (RequestHead.parse raw = .ok head ∧ head.isTunnel = false) ∧
      forwardTarget head = .ok uri ∧ uri.authority = Bytes.ascii "h:9" ∧
      uri.authority = head.host := by
  intro raw
  have parsed : RequestHead.parse raw = .ok ⟨Bytes.ascii "GET", Bytes.ascii "http://h:9?x=1",
      Bytes.ascii "h:9", Bytes.ascii "?x=1",
      ⟨[⟨Name.host, [Bytes.ascii "elsewhere"]⟩]⟩, raw⟩ := by decide +kernel
  have made : forwardTarget ⟨Bytes.ascii "GET", Bytes.ascii "http://h:9?x=1",
      Bytes.ascii "h:9", Bytes.ascii "?x=1", ⟨[⟨Name.host, [Bytes.ascii "elsewhere"]⟩]⟩, raw⟩ =
        .ok ⟨some Uri.http, Bytes.ascii "h:9", Bytes.ascii "?x=1"⟩ := by decide +kernel
  have request : (Bytes.ascii "GET" == tunnelMethod) = false := by decide
  have separable : Separable (Bytes.ascii "h:9") (Bytes.ascii "?x=1") := by decide +kernel
  exact ⟨_, _, ⟨parsed, request⟩, made, rfl,
    ((routed_iff parsed request).1 _ made).mpr separable⟩

/-- A target that is neither a path nor names an authority, joined to the host: the request is for
`h` and goes to `elsewhere`, with `h` for the name of a user; an upgrade would go there too. -/
theorem misrouted_of_bare_target :
    let raw := Bytes.ascii "GET @elsewhere:81/x HTTP/1.1\r\nHost: h\r\n\r\n"
    ∃ head uri upgraded, RequestHead.parse raw = .ok head ∧ head.isTunnel = false ∧
      forwardTarget head = .ok uri ∧
      Uri.parse (location false head.host head.path) = .ok upgraded ∧
      head.host = Bytes.ascii "h" ∧ uri.authority ≠ head.host ∧ upgraded.authority ≠ head.host ∧
      Uri.host uri.authority = Bytes.ascii "elsewhere" := by
  intro raw
  refine ⟨⟨Bytes.ascii "GET", Bytes.ascii "@elsewhere:81/x", Bytes.ascii "h",
      Bytes.ascii "@elsewhere:81/x", ⟨[⟨Name.host, [Bytes.ascii "h"]⟩]⟩, raw⟩,
    ⟨some Uri.http, Bytes.ascii "h@elsewhere:81", Bytes.ascii "/x"⟩,
    ⟨some (Bytes.ascii "ws"), Bytes.ascii "h@elsewhere:81", Bytes.ascii "/x"⟩, ?_⟩
  decide +kernel

end Wiretap.Message
