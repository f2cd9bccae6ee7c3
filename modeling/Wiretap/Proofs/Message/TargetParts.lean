import Mathlib.Data.List.TakeWhile
import Mathlib.Tactic.Common
import Wiretap.Proofs.Message.Routing

/-!
# Targets put together from their parts

An authority, a path and a scheme are what the reader of targets takes for one.  Put together they
are a target again, and read again they come apart where they were joined
(`parse_of_parts`): the scheme ends at the first colon (`splitScheme_of_isScheme`), the authority
at the first slash behind it (`splitAuthority_append`), and all of the path is kept
(`IsPath.checkPath_eq`).  Nothing that an authority holds, a port, brackets or the name of a user,
is taken for anything else.
-/

namespace Wiretap.Message.Uri

set_option autoImplicit false

/-! ## Parts -/

/-- An authority, as some target names it. -/
def IsAuthority (authority : Bytes) : Prop :=
  authority ≠ [] ∧ ∃ target uri, parse target = .ok uri ∧ uri.authority = authority

/-- A path, perhaps with a query but without a fragment, that is a target by itself. -/
def IsPath (path : Bytes) : Prop :=
  path.head? = some Bytes.slash ∧ 0x23 ∉ path ∧ ∃ uri, parse path = .ok uri

/-- A scheme, as it is split off some target. -/
def IsScheme (scheme : Bytes) : Prop :=
  ∃ named behind, splitScheme (scheme ++ schemeMark ++ behind) = .ok (some named, behind)

/-! ## The authority -/

theorem scan_of_splitAuthority {b authority rest : Bytes}
    (split : splitAuthority b = .ok (authority, rest)) :
    ∃ scan, authority.foldlM AuthorityScan.step {} = .ok scan ∧ scan.complete := by
  simp only [splitAuthority, bind, Except.bind] at split
  split at split
  · cases split
  · split at split
    · cases split
    · next scan scanned =>
      split at split
      · next complete =>
        cases split
        exact ⟨scan, scanned, complete⟩
      · cases split

/-- An authority holds no byte that would end it, and is scanned to its end. -/
theorem IsAuthority.scan {authority : Bytes} (isAuthority : IsAuthority authority) :
    (∀ b ∈ authority, endsAuthority b = false) ∧
      ∃ scan, authority.foldlM AuthorityScan.step {} = .ok scan ∧ scan.complete := by
  obtain ⟨named, target, uri, parsed, rfl⟩ := isAuthority
  obtain ⟨b, rest, split⟩ : ∃ b rest, splitAuthority b = .ok (uri.authority, rest) := by
    rcases parse_ok_cases parsed with ⟨none, _⟩ | ⟨_, _, b, _, split⟩ | ⟨_, b, rest, _, split, _⟩
    · exact absurd none named
    · exact ⟨b, [], split⟩
    · exact ⟨b, rest, split⟩
  refine ⟨fun x member => ?_, scan_of_splitAuthority split⟩
  rw [(splitAuthority_ok split).1] at member
  simpa [insideAuthority] using List.all_eq_true.mp List.all_takeWhile x member

/-- In front of a delimiter, an authority is split off whole. -/
theorem splitAuthority_append {authority rest : Bytes} (isAuthority : IsAuthority authority)
    (begins : ∀ b ∈ rest.head?, endsAuthority b = true) :
    splitAuthority (authority ++ rest) = .ok (authority, rest) := by
  obtain ⟨inside, scan, scanned, complete⟩ := isAuthority.scan
  have some_bytes : (authority ++ rest).isEmpty = false := by simp [isAuthority.1]
  have taken : (authority ++ rest).takeWhile insideAuthority = authority :=
    (takeWhile_append_eq_left_iff authority rest).mpr ⟨inside, begins⟩
  have left : (authority ++ rest).dropWhile insideAuthority = rest := by
    have whole : (authority ++ rest).takeWhile insideAuthority ++
        (authority ++ rest).dropWhile insideAuthority = authority ++ rest :=
      List.takeWhile_append_dropWhile
    rw [taken] at whole
    exact List.append_cancel_left whole
  have same : (fun x => !endsAuthority x) = insideAuthority := rfl
  rw [splitAuthority, same, taken, left, some_bytes]
  simp only [bind, Except.bind, scanned, complete]
  rfl

theorem isVisible_of_isUriByte {b : UInt8} (isByte : isUriByte b) : Bytes.isVisible b := by
  have every : ∀ n : Fin 256, isUriByte ⟨⟨n⟩⟩ → Bytes.isVisible ⟨⟨n⟩⟩ := by decide +kernel
  exact every b.toBitVec.toFin isByte

theorem isVisible_of_step {s s' : AuthorityScan} {b : UInt8} (stepped : s.step b = .ok s') :
    Bytes.isVisible b := by
  unfold AuthorityScan.step at stepped
  by_cases mark : b = 0x3a ∨ b = 0x5b ∨ b = 0x5d ∨ b = 0x40 ∨ b = 0x25
  · rcases mark with rfl | rfl | rfl | rfl | rfl <;> decide
  · simp only [not_or] at mark
    obtain ⟨notColon, notOpen, notClose, notAt, notPercent⟩ := mark
    rw [if_neg notColon, if_neg notOpen, if_neg notClose, if_neg notAt, if_neg notPercent]
      at stepped
    split at stepped
    · next isByte => exact isVisible_of_isUriByte isByte
    · cases stepped

theorem isVisible_of_scan {authority : Bytes} {s s' : AuthorityScan}
    (scanned : authority.foldlM AuthorityScan.step s = .ok s') :
    ∀ b ∈ authority, Bytes.isVisible b := by
  induction authority generalizing s with
  | nil => nofun
  | cons b authority ih =>
    rw [List.foldlM_cons] at scanned
    cases stepped : s.step b with
    | error e =>
      rw [stepped] at scanned
      cases scanned
    | ok next =>
      rw [stepped] at scanned
      exact List.forall_mem_cons.mpr ⟨isVisible_of_step stepped, ih scanned⟩

/-- An authority can be read as text. -/
theorem IsAuthority.visible {authority : Bytes} (isAuthority : IsAuthority authority) :
    authority.all Bytes.isVisible := by
  obtain ⟨_, _, scanned, _⟩ := isAuthority.scan
  exact List.all_eq_true.mpr (isVisible_of_scan scanned)

/-! ## The path -/

/-- All of a path without a fragment is kept. -/
theorem eq_of_checkPath {path kept : Bytes} (free : 0x23 ∉ path)
    (checked : checkPath path = .ok kept) : kept = path := by
  obtain ⟨front, behind, whole, taken, stops⟩ : ∃ front behind, path = front ++ behind ∧
      path.takeWhile (fun x => x != 0x3f && x != 0x23) = front ∧
      ∀ x ∈ behind.head?, x = 0x3f := by
    refine ⟨_, _, List.takeWhile_append_dropWhile.symm, rfl, fun x first => ?_⟩
    have stops := List.head?_dropWhile_not (fun x : UInt8 => x != 0x3f && x != 0x23) path
    have member : x ∈ path := List.dropWhile_subset _ (List.mem_of_mem_head? first)
    rw [Option.mem_def.mp first] at stops
    have notMark : x ≠ 0x23 := fun mark => free (mark ▸ member)
    simpa [notMark] using stops
  have left : path.drop front.length = behind := by rw [whole, List.drop_left]
  suffices kept = front ++ behind from this.trans whole.symm
  unfold checkPath at checked
  simp only [taken, left, bind, Except.bind] at checked
  split at checked
  · cases checked
  · split at checked
    · next query =>
      have all : query.takeWhile (· != 0x23) = query := by
        refine List.takeWhile_eq_self_iff.mpr fun x member => ?_
        have notMark : x ≠ 0x23 := fun mark => free (by rw [whole, ← mark]; simp [member])
        simpa using notMark
      rw [all] at checked
      repeat' split at checked
      all_goals cases checked
      rfl
    · next unmarked =>
      obtain rfl : behind = [] := by
        cases behind with
        | nil => rfl
        | cons x query =>
          cases stops x rfl
          exact absurd rfl (unmarked query)
      repeat' split at checked
      all_goals cases checked
      rfl

theorem IsPath.checkPath_eq {path : Bytes} (isPath : IsPath path) : checkPath path = .ok path := by
  obtain ⟨begins, free, uri, parsed⟩ := isPath
  obtain ⟨rest, rfl⟩ := List.head?_eq_some_iff.mp begins
  simp only [parse, Bytes.slash, bind, Except.bind] at parsed
  split at parsed
  · cases parsed
  · split at parsed
    · cases parsed
    · next kept checked =>
      have all := eq_of_checkPath free checked
      rw [all] at checked
      exact checked

theorem IsPath.ends {path : Bytes} (isPath : IsPath path) :
    ∀ b ∈ path.head?, endsAuthority b = true := by
  rw [isPath.1]
  intro b first
  cases Option.mem_some_iff.mp first
  rfl

/-! ## The scheme -/

theorem isSchemeByte_of_foldByte {b : UInt8} (isByte : isSchemeByte (Bytes.foldByte b)) :
    isSchemeByte b := by
  have every : ∀ n : Fin 256, isSchemeByte (Bytes.foldByte ⟨⟨n⟩⟩) → isSchemeByte ⟨⟨n⟩⟩ := by
    decide +kernel
  exact every b.toBitVec.toFin isByte

theorem foldByte_ne_colon {b : UInt8} (isByte : isSchemeByte b) :
    Bytes.foldByte b ≠ Bytes.colon := by
  have every : ∀ n : Fin 256, isSchemeByte ⟨⟨n⟩⟩ → Bytes.foldByte ⟨⟨n⟩⟩ ≠ Bytes.colon := by
    decide +kernel
  exact every b.toBitVec.toFin isByte

theorem sameFolded_cons {a b : UInt8} {first second : Bytes} :
    Bytes.sameFolded (a :: first) (b :: second) ↔
      Bytes.foldByte a = Bytes.foldByte b ∧ Bytes.sameFolded first second := by
  simp [Bytes.sameFolded, Bytes.fold]

/-- A scheme ends at the first colon, so what begins like a well-known one has its length. -/
theorem length_eq_of_sameFolded {scheme known rest : Bytes} (name : scheme.all isSchemeByte)
    (knownName : known.all isSchemeByte)
    (same : Bytes.sameFolded ((scheme ++ schemeMark ++ rest).take (known ++ schemeMark).length)
      (known ++ schemeMark)) : scheme.length = known.length := by
  induction scheme generalizing known with
  | nil =>
    cases known with
    | nil => rfl
    | cons k known =>
      obtain ⟨colon, _⟩ := sameFolded_cons.mp same
      exact absurd colon.symm (foldByte_ne_colon (Bool.and_eq_true_iff.mp knownName).1)
  | cons b scheme ih =>
    cases known with
    | nil =>
      obtain ⟨colon, _⟩ := sameFolded_cons.mp same
      exact absurd colon (foldByte_ne_colon (Bool.and_eq_true_iff.mp name).1)
    | cons k known =>
      obtain ⟨_, same⟩ := sameFolded_cons.mp same
      exact congrArg (· + 1) (ih (Bool.and_eq_true_iff.mp name).2
        (Bool.and_eq_true_iff.mp knownName).2 same)

/-- What is split off like a well-known scheme is one, up to case. -/
theorem fold_eq_of_sameFolded {scheme known behind : Bytes}
    (same : Bytes.sameFolded ((scheme ++ schemeMark ++ behind).take (known ++ schemeMark).length)
      (known ++ schemeMark))
    (split : (scheme ++ schemeMark ++ behind).drop (known ++ schemeMark).length = behind) :
    scheme.fold = known.fold := by
  have whole := List.take_append_drop (known ++ schemeMark).length (scheme ++ schemeMark ++ behind)
  rw [split] at whole
  rw [List.append_cancel_right whole, Bytes.sameFolded, beq_iff_eq] at same
  simpa [Bytes.fold] using same

theorem bytes_of_fold {scheme known : Bytes} (same : scheme.fold = known.fold)
    (knownName : known.fold.all isSchemeByte) : scheme.all isSchemeByte := by
  refine List.all_eq_true.mpr fun b member => ?_
  refine isSchemeByte_of_foldByte (List.all_eq_true.mp knownName _ ?_)
  rw [← same]
  exact List.mem_map_of_mem member

/-- What stands in front of the mark is split off. -/
theorem eq_of_marked {scheme other behind : Bytes}
    (begins : other <+: scheme ++ schemeMark ++ behind)
    (marked : schemeMark.isPrefixOf ((scheme ++ schemeMark ++ behind).drop other.length))
    (left : ((scheme ++ schemeMark ++ behind).drop other.length).drop 3 = behind) :
    scheme = other := by
  obtain ⟨rest, split⟩ := List.isPrefixOf_iff_prefix.mp marked
  have same : rest = behind := by
    rw [← split] at left
    exact left
  have whole := List.prefix_iff_eq_append.mp begins
  rw [← split, same, ← List.append_assoc] at whole
  exact (List.append_cancel_right (List.append_cancel_right whole)).symm

/-- A scheme is split off as a well-known one, or else up to the mark. -/
theorem splitScheme_some_cases {b named behind : Bytes}
    (split : splitScheme b = .ok (some named, behind)) :
    (∃ known ∈ [http, https],
      Bytes.sameFolded (b.take (known ++ schemeMark).length) (known ++ schemeMark) ∧
        b.drop (known ++ schemeMark).length = behind) ∨
    ((b.takeWhile isSchemeByte).length ≤ schemeLimit ∧
      schemeMark.isPrefixOf (b.drop (b.takeWhile isSchemeByte).length) ∧
        (b.drop (b.takeWhile isSchemeByte).length).drop 3 = behind) := by
  unfold splitScheme at split
  split at split
  · next same =>
    cases split
    exact .inl ⟨http, List.mem_cons_self, same, rfl⟩
  · split at split
    · next same =>
      cases split
      exact .inl ⟨https, List.mem_cons_of_mem http List.mem_cons_self, same, rfl⟩
    · simp only at split
      split at split
      · next marked =>
        split at split
        · cases split
        · next short =>
          cases split
          exact .inr ⟨Nat.not_lt.mp short, (Bool.and_eq_true_iff.mp marked).2, rfl⟩
      · cases split

/-- A scheme is made of scheme bytes and not too long. -/
theorem IsScheme.bytes {scheme : Bytes} (isScheme : IsScheme scheme) :
    scheme.all isSchemeByte ∧ scheme.length ≤ schemeLimit := by
  obtain ⟨named, behind, split⟩ := isScheme
  rcases splitScheme_some_cases split with ⟨known, isKnown, same, left⟩ | ⟨short, marked, left⟩
  · have folded := fold_eq_of_sameFolded same left
    have wellKnown : ∀ known ∈ [http, https],
        known.fold.all isSchemeByte ∧ known.length ≤ schemeLimit :=
      List.forall_mem_cons.mpr ⟨by decide, List.forall_mem_singleton.mpr (by decide)⟩
    obtain ⟨knownName, short⟩ := wellKnown known isKnown
    refine ⟨bytes_of_fold folded knownName, ?_⟩
    rw [← Bytes.length_fold, folded, Bytes.length_fold]
    exact short
  · rw [eq_of_marked (List.takeWhile_prefix _) marked left]
    exact ⟨List.all_takeWhile, short⟩

/-- A scheme is split off whole, whatever stands behind it. -/
theorem splitScheme_of_isScheme {scheme rest : Bytes} (isScheme : IsScheme scheme)
    (more : rest ≠ []) :
    ∃ named, splitScheme (scheme ++ schemeMark ++ rest) = .ok (some named, rest) := by
  obtain ⟨name, short⟩ := isScheme.bytes
  have long : 3 < (scheme ++ schemeMark ++ rest).length := by
    have three : schemeMark.length = 3 := rfl
    have some_bytes := List.length_pos_of_ne_nil more
    simp only [List.length_append, three]
    omega
  have left {known : Bytes} (same : scheme.length = known.length) :
      (scheme ++ schemeMark ++ rest).drop (known ++ schemeMark).length = rest :=
    List.drop_left' (by simp [same])
  by_cases isHttp : Bytes.sameFolded ((scheme ++ schemeMark ++ rest).take 7) (http ++ schemeMark)
  · have four : scheme.length = http.length := length_eq_of_sameFolded name (by decide) isHttp
    rw [splitScheme, if_pos isHttp]
    exact ⟨http, congrArg (fun rest => Except.ok (some http, rest)) (left four)⟩
  · by_cases isHttps :
        Bytes.sameFolded ((scheme ++ schemeMark ++ rest).take 8) (https ++ schemeMark)
    · have five : scheme.length = https.length :=
        length_eq_of_sameFolded name (by decide) isHttps
      rw [splitScheme, if_neg isHttp, if_pos isHttps]
      exact ⟨https, congrArg (fun rest => Except.ok (some https, rest)) (left five)⟩
    · exact ⟨scheme, splitScheme_of_unlike isHttp isHttps name short long⟩

/-! ## Whole targets -/

/-- A target that comes apart into a scheme, an authority and a path is made of them. -/
theorem parse_of_splits {b scheme behind authority rest path : Bytes}
    (within : b.length ≤ lengthLimit) (long : 1 < b.length) (notPath : b.head? ≠ some Bytes.slash)
    (schemed : splitScheme b = .ok (some scheme, behind))
    (split : splitAuthority behind = .ok (authority, rest)) (named : authority ≠ [])
    (checked : checkPath rest = .ok path) : parse b = .ok ⟨some scheme, authority, path⟩ := by
  match b with
  | x :: y :: more =>
    have first : x ≠ 0x2f := fun path => notPath (by rw [path]; rfl)
    unfold parse
    simp only [Nat.not_lt.mpr within, if_false, bind, Except.bind, schemed, split, checked]
    split
    · next none => cases none
    · next asterisk => cases asterisk
    · next path =>
      cases path
      exact absurd rfl first
    · next single => cases single
    · rw [if_neg (by simpa using named)]
      rfl

/-- **A target that is put together of a scheme, an authority and a path comes apart into them.** -/
theorem parse_of_parts {scheme named authority path : Bytes} (isAuthority : IsAuthority authority)
    (isPath : IsPath path)
    (within : (scheme ++ schemeMark ++ authority ++ path).length ≤ lengthLimit)
    (schemed : splitScheme (scheme ++ schemeMark ++ (authority ++ path)) =
      .ok (some named, authority ++ path)) :
    parse (scheme ++ schemeMark ++ authority ++ path) = .ok ⟨some named, authority, path⟩ := by
  have isScheme : IsScheme scheme := ⟨named, _, schemed⟩
  rw [List.append_assoc] at within ⊢
  refine parse_of_splits within ?_ ?_ schemed (splitAuthority_append isAuthority isPath.ends)
    isAuthority.1 isPath.checkPath_eq
  · have three : schemeMark.length = 3 := rfl
    simp only [List.length_append, three]
    omega
  · cases scheme with
    | nil => nofun
    | cons b scheme =>
      intro begins
      have slash : b = Bytes.slash := Option.some.inj begins
      have isByte := (Bool.and_eq_true_iff.mp isScheme.bytes.1).1
      rw [slash] at isByte
      cases isByte

end Wiretap.Message.Uri
