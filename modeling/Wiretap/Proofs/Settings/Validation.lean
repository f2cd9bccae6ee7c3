import Mathlib.Data.List.Basic
import Mathlib.Data.List.Nodup
import Mathlib.Tactic.Common
import Wiretap.Settings.Effective

/-!
# What a file's settings amount to

Three things are checked of a file's settings: that the address can be listened on, that the port is
one, and that metrics are served at a socket address, if anywhere.  The faults that are reported are
those that a check finds, in the order of the checks (`finds_faults`).  Where none is found, every
setting in effect is that of the file, but for a size or a deadline that is not positive, which is
replaced by its default and reported (`reflects_ofFile`, `replacements_eq`).

So a file is refused exactly for its faults, and what is not refused has a positive buffer size,
positive deadlines, threads that serve, and room for a connection (`validate_exact`).
-/

namespace Wiretap.Text.Utf8

set_option autoImplicit false

/-! ## Texts that are compared in either case -/

/-- The one byte of an ASCII character is folded as the character is. -/
theorem foldByte_of_ascii {c : Char} (ascii : c.toNat < 128) :
    Bytes.foldByte c.toNat.toUInt8 = c.toLower.toNat.toUInt8 ∧ c.toLower.toNat < 128 := by
  have every : ∀ n : Fin 128, Bytes.foldByte (Char.ofNat n).toNat.toUInt8 =
      (Char.ofNat n).toLower.toNat.toUInt8 ∧ (Char.ofNat n).toLower.toNat < 128 := by
    decide +kernel
  have here := every ⟨c.toNat, ascii⟩
  rwa [Char.ofNat_toNat] at here

/-- Any other character begins with a byte that is folded to no ASCII character. -/
theorem encodeChar_of_not_ascii {c : Char} (other : ¬ c.toNat < 128) :
    ∃ b rest, encodeChar c = b :: rest ∧ 128 ≤ (Bytes.foldByte b).toNat := by
  have stays (b : UInt8) (high : 128 ≤ b.toNat) : 128 ≤ (Bytes.foldByte b).toNat := by
    have every : ∀ n : Fin 256, 128 ≤ n.val → 128 ≤ (Bytes.foldByte ⟨⟨n⟩⟩).toNat := by
      decide +kernel
    exact every b.toBitVec.toFin high
  have leads {n : Nat} (high : 128 ≤ n) (fits : n < 256) : 128 ≤ n.toUInt8.toNat := by
    rw [Nat.toUInt8, UInt8.toNat_ofNat', Nat.mod_eq_of_lt fits]
    exact high
  have bound : c.toNat < 0x110000 := by
    obtain low | ⟨_, high⟩ := c.valid
    · exact Nat.lt_trans low (by decide)
    · exact high
  rw [encodeChar, if_neg other]
  split
  · exact ⟨_, _, rfl, stays _ (leads (by omega) (by omega))⟩
  · split
    · exact ⟨_, _, rfl, stays _ (leads (by omega) (by omega))⟩
    · exact ⟨_, _, rfl, stays _ (leads (by omega) (by omega))⟩

theorem toLower_of_not_ascii {c : Char} (other : ¬ c.toNat < 128) : c.toLower = c := by
  refine dif_neg fun letter => other ?_
  exact Nat.lt_of_le_of_lt (UInt32.le_iff_toNat_le.mp letter.2) (by decide)

theorem toNat_byte {c : Char} (ascii : c.toNat < 128) : c.toNat.toUInt8.toNat = c.toNat :=
  Nat.mod_eq_of_lt (by omega)

/-- **Bytes are those of an ASCII text in either case exactly if the characters are.** A character
of several bytes begins with none that an ASCII character has in either case. -/
theorem fold_encode_eq_iff {cs known : List Char} (ascii : ∀ c ∈ known, c.toNat < 128) :
    (encode cs).fold = known.map (fun c => c.toNat.toUInt8) ↔ cs.map Char.toLower = known := by
  induction cs generalizing known with
  | nil =>
    cases known with
    | nil => exact iff_of_true rfl rfl
    | cons => exact iff_of_false (List.cons_ne_nil _ _).symm (List.cons_ne_nil _ _).symm
  | cons c cs ih =>
    have split : (encode (c :: cs)).fold = (encodeChar c).fold ++ (encode cs).fold := by
      rw [encode, List.flatMap_cons, Bytes.fold, List.map_append]
      rfl
    rw [split]
    by_cases low : c.toNat < 128
    · have one : encodeChar c = [c.toNat.toUInt8] := if_pos low
      obtain ⟨folded, lowered⟩ := foldByte_of_ascii low
      rw [one, Bytes.fold, List.map_singleton, folded, List.singleton_append]
      cases known with
      | nil => exact iff_of_false (List.cons_ne_nil _ _) (List.cons_ne_nil _ _)
      | cons k known =>
        obtain ⟨first, others⟩ := List.forall_mem_cons.mp ascii
        rw [List.map_cons, List.map_cons, List.cons.injEq, List.cons.injEq, ih others]
        refine and_congr_left fun _ => ⟨fun same => ?_, fun same => same ▸ rfl⟩
        have bytes := congrArg UInt8.toNat same
        rw [toNat_byte lowered, toNat_byte first] at bytes
        exact Char.toNat_inj.mp bytes
    · obtain ⟨b, rest, begins, high⟩ := encodeChar_of_not_ascii low
      rw [begins, Bytes.fold, List.map_cons, List.cons_append, List.map_cons,
        toLower_of_not_ascii low]
      cases known with
      | nil => exact iff_of_false (List.cons_ne_nil _ _) (List.cons_ne_nil _ _)
      | cons k known =>
        have first := ascii k List.mem_cons_self
        refine iff_of_false (fun same => ?_) fun same => ?_
        · have bytes := congrArg UInt8.toNat (List.cons.inj same).1
          rw [toNat_byte first] at bytes
          omega
        · exact low ((List.cons.inj same).1 ▸ first)

end Wiretap.Text.Utf8

namespace Wiretap.Settings

set_option autoImplicit false

open Address (Ip Socket)
open Text (Span)

/-! ## Faults -/

/-- A text names the loopback in letters of either case. -/
def NamesLoopback (address : String) : Prop :=
  address.toList.map Char.toLower = "localhost".toList

/-- What an address to listen on stands for. -/
inductive Denotes (address : String) : Ip → Prop where
  | loopback (named : NamesLoopback address) : Denotes address Ip.loopback
  | literal {ip : Ip} (unnamed : ¬ NamesLoopback address) (read : Ip.ofText? address = some ip) :
    Denotes address ip

/-- The checks that a file's settings fail. -/
inductive Fails (file : File) : Fault → Prop where
  | address (unnamed : ¬ NamesLoopback file.listener.address)
    (unread : Ip.ofText? file.listener.address = none) :
    Fails file (.invalidAddress file.listener.address)
  | port (outside : file.listener.port < 1 ∨ 65535 < file.listener.port) :
    Fails file (.portOutOfRange file.listener.port)
  | metrics {address : String} (present : file.observability.metricsAddress = some address)
    (unread : Socket.ofText? address = none) : Fails file (.invalidMetricsAddress address)

/-- The faults that the checks of a file's settings could find, in the order of the checks. -/
def checks (file : File) : List Fault :=
  [.invalidAddress file.listener.address, .portOutOfRange file.listener.port] ++
    file.observability.metricsAddress.toList.map .invalidMetricsAddress

/-- The faults that are reported are those of the checks that fail, once each and in their order. -/
structure Finds (file : File) (faults : List Fault) : Prop where
  mem_iff : ∀ f, f ∈ faults ↔ Fails file f
  order : faults.Sublist (checks file)
  once : faults.Nodup

namespace Effective

theorem sameFolded_loopback_iff {address : String} :
    Bytes.sameFolded (Text.Utf8.ofText address) (Bytes.ascii "localhost") ↔
      NamesLoopback address := by
  have known : (Bytes.ascii "localhost").fold =
      "localhost".toList.map fun c => c.toNat.toUInt8 := by decide +kernel
  have ascii : ∀ c ∈ "localhost".toList, c.toNat < 128 := by simp
  rw [Bytes.sameFolded, beq_iff_eq, known, Text.Utf8.ofText]
  exact Text.Utf8.fold_encode_eq_iff ascii

theorem listenIp?_eq_some_iff {address : String} {ip : Ip} :
    listenIp? address = some ip ↔ Denotes address ip := by
  rw [listenIp?]
  split
  · next same =>
    have named := sameFolded_loopback_iff.mp same
    constructor
    · rintro ⟨⟩
      exact .loopback named
    · rintro (_ | ⟨unnamed, _⟩)
      · rfl
      · exact absurd named unnamed
  · next other =>
    have unnamed := sameFolded_loopback_iff.not.mp other
    constructor
    · exact .literal unnamed
    · rintro (named | ⟨_, read⟩)
      · exact absurd named unnamed
      · exact read

theorem listenIp?_eq_none_iff {address : String} :
    listenIp? address = none ↔ ¬ NamesLoopback address ∧ Ip.ofText? address = none := by
  rw [← sameFolded_loopback_iff, listenIp?]
  split
  · next same => exact iff_of_false nofun fun both => both.1 same
  · next other => exact (and_iff_right other).symm

theorem listenPort?_eq_some_iff {port : Int} {n : Nat} :
    listenPort? port = some n ↔ (n : Int) = port ∧ 1 ≤ port ∧ port ≤ 65535 := by
  rw [listenPort?]
  split
  · rw [Option.some_inj]
    omega
  · exact iff_of_false nofun (by omega)

theorem listenPort?_eq_none_iff {port : Int} :
    listenPort? port = none ↔ port < 1 ∨ 65535 < port := by
  rw [listenPort?]
  split
  · exact iff_of_false nofun (by omega)
  · exact iff_of_true rfl (by omega)

section

variable {α β : Type} {a : Option α} {x y : β}

theorem mem_unless : y ∈ (if a.isSome then [] else [x]) ↔ a = none ∧ y = x := by
  cases a <;> simp

theorem unless_sublist : (if a.isSome then [] else [x]).Sublist [x] := by
  cases a with
  | none => exact List.Sublist.refl [x]
  | some => exact List.nil_sublist [x]

end

theorem mem_faults_iff {file : File} {f : Fault} : f ∈ faults file ↔ Fails file f := by
  rw [faults, List.mem_append, List.mem_append, mem_unless, mem_unless, listenIp?_eq_none_iff,
    listenPort?_eq_none_iff]
  constructor
  · rintro ((⟨⟨unnamed, unread⟩, rfl⟩ | ⟨outside, rfl⟩) | found)
    · exact .address unnamed unread
    · exact .port outside
    · split at found
      · cases found
      · next present =>
        obtain ⟨unread, rfl⟩ := mem_unless.mp found
        exact .metrics present unread
  · rintro (⟨unnamed, unread⟩ | outside | ⟨present, unread⟩)
    · exact .inl (.inl ⟨⟨unnamed, unread⟩, rfl⟩)
    · exact .inl (.inr ⟨outside, rfl⟩)
    · rw [present]
      exact .inr (mem_unless.mpr ⟨unread, rfl⟩)

theorem faults_sublist (file : File) : (faults file).Sublist (checks file) := by
  refine (unless_sublist.append unless_sublist).append ?_
  cases file.observability.metricsAddress with
  | none => exact List.Sublist.refl []
  | some a => exact unless_sublist

/-- **The faults that are reported are those of the checks that fail.** -/
theorem finds_faults (file : File) : Finds file (faults file) where
  mem_iff _ := mem_faults_iff
  order := faults_sublist file
  once := by
    refine (faults_sublist file).nodup ?_
    cases metrics : file.observability.metricsAddress with
    | none => simp [checks, metrics]
    | some a => simp [checks, metrics]

/-! ## Settings in effect -/

end Effective

/-- A number that is positive is kept, and any other is replaced. -/
def KeepsOr (default : Nat) (value : Int) (n : Nat) : Prop :=
  0 < value ∧ (n : Int) = value ∨ value ≤ 0 ∧ n = default

/-- A deadline of so many seconds, where the file's number of seconds is positive. -/
def KeepsSeconds (default : Nat) (value : Int) (deadline : Span) : Prop :=
  ∃ n, deadline = Span.seconds n ∧ KeepsOr default value n

/-- The settings in effect are those of the file, as far as these can be used. -/
structure Reflects (file : File) (e : Effective) : Prop where
  listens : ∃ (ip : Ip) (port : Nat), Denotes file.listener.address ip ∧
    (port : Int) = file.listener.port ∧ e.listenAddress = ⟨ip, 0, port⟩
  bufferSize : KeepsOr 32768 file.listener.bufferSize e.bufferSize
  readTimeout : KeepsSeconds 30 file.timeouts.readSecs e.readTimeout
  writeTimeout : KeepsSeconds 30 file.timeouts.writeSecs e.writeTimeout
  handshakeTimeout : KeepsSeconds 10 file.timeouts.handshakeSecs e.handshakeTimeout
  shutdownTimeout : KeepsSeconds 30 file.timeouts.shutdownSecs e.shutdownTimeout
  workers : ∀ cpus, KeepsOr cpus file.listener.workers (e.workerCount cpus)
  maxConnections : ∀ m, e.maxConnections = some m ↔ (m : Int) = file.listener.maxConnections ∧ 0 < m
  tlsTerminated : e.tlsTerminated = file.listener.tlsTerminated
  loggingEnabled : e.loggingEnabled = file.observability.loggingEnabled
  logLevel : e.logLevel = file.observability.logLevel
  capturePayloads : e.capturePayloads = file.observability.capturePayloads
  metricsAddress : Option.Rel (fun text address => Socket.ofText? text = some address)
    file.observability.metricsAddress e.metricsAddress

/-- Nothing in effect is too small to serve a connection. -/
structure Serviceable (cpus : Nat) (e : Effective) : Prop where
  bufferSize : 1 ≤ e.bufferSize
  deadlines : ∀ d ∈ [e.readTimeout, e.writeTimeout, e.handshakeTimeout, e.shutdownTimeout],
    (Span.seconds 1).micros ≤ d.micros
  workers : 1 ≤ e.workerCount cpus
  maxConnections : ∀ m ∈ e.maxConnections, 1 ≤ m

/-- The settings that must be positive, with their defaults, in the order in which they are read. -/
def sizes (file : File) : List Replacement :=
  [⟨"buffer_size", file.listener.bufferSize, "32768", false⟩,
    ⟨"read_secs", file.timeouts.readSecs, "30s", true⟩,
    ⟨"write_secs", file.timeouts.writeSecs, "30s", true⟩,
    ⟨"handshake_secs", file.timeouts.handshakeSecs, "10s", true⟩,
    ⟨"shutdown_secs", file.timeouts.shutdownSecs, "30s", true⟩]

/-- What is logged when a file's settings are checked. -/
def warnings : Except (List Fault) (Effective × List Replacement) → List Observer.Log
  | .error _ => []
  | .ok (_, replaced) => replaced.map Replacement.log

theorem KeepsOr.pos {default n : Nat} {value : Int} (keeps : KeepsOr default value n)
    (positive : 0 < default) : 1 ≤ n := by
  obtain ⟨above, same⟩ | ⟨_, rfl⟩ := keeps
  · omega
  · exact positive

theorem KeepsSeconds.pos {default : Nat} {value : Int} {deadline : Span}
    (keeps : KeepsSeconds default value deadline) (positive : 0 < default) :
    (Span.seconds 1).micros ≤ deadline.micros := by
  obtain ⟨n, rfl, keeps⟩ := keeps
  exact Nat.mul_le_mul_right _ (keeps.pos positive)

/-- What reflects a file's settings can be used. -/
theorem Reflects.serviceable {file : File} {e : Effective} {cpus : Nat} (reflects : Reflects file e)
    (machine : 0 < cpus) : Serviceable cpus e where
  bufferSize := reflects.bufferSize.pos (by decide)
  deadlines := by
    simp only [List.forall_mem_cons]
    exact ⟨reflects.readTimeout.pos (by decide), reflects.writeTimeout.pos (by decide),
      reflects.handshakeTimeout.pos (by decide), reflects.shutdownTimeout.pos (by decide), nofun⟩
  workers := (reflects.workers cpus).pos machine
  maxConnections m limit := ((reflects.maxConnections m).mp limit).2

namespace Effective

theorem keepsOr_positive? (default : Nat) (value : Int) :
    KeepsOr default value ((positive? value).getD default) := by
  rw [KeepsOr, positive?]
  split
  · next positive =>
    refine .inl ⟨positive, ?_⟩
    rw [Option.getD_some]
    omega
  · next negative => exact .inr ⟨Int.not_lt.mp negative, rfl⟩

theorem keepsSeconds_deadline (default : Nat) (value : Int) :
    KeepsSeconds default value (deadline value (Span.seconds default)) := by
  refine ⟨_, ?_, keepsOr_positive? default value⟩
  rw [deadline]
  cases positive? value <;> rfl

theorem replacement_eq (field : String) (value : Int) (default : String) (isDeadline : Bool) :
    replacement field value default isDeadline =
      [(⟨field, value, default, isDeadline⟩ : Replacement)].filter fun r => r.value ≤ 0 := by
  rw [replacement]
  split
  · next positive => simp [positive]
  · next negative => simp [Int.not_lt.mp negative]

/-- **What is replaced is what is not positive.** -/
theorem replacements_eq (file : File) :
    replacements file = (sizes file).filter fun r => r.value ≤ 0 := by
  have defaults : toString ({} : Effective).bufferSize = "32768" ∧
      (Span.seconds 30).text = "30s" ∧ (Span.seconds 10).text = "10s" := by
    decide +kernel
  obtain ⟨bytes, thirty, ten⟩ := defaults
  rw [replacements]
  dsimp only
  rw [bytes, thirty, ten]
  simp only [replacement_eq, ← List.filter_append]
  rfl

theorem positive?_eq_some_iff {value : Int} {n : Nat} :
    positive? value = some n ↔ (n : Int) = value ∧ 0 < n := by
  rw [positive?]
  split
  · rw [Option.some_inj]
    omega
  · exact iff_of_false nofun (by omega)

/-- What a file's settings come to, if no check finds a fault. -/
theorem reflects_ofFile {file : File} {ip : Ip} {port : Nat} (sound : ∀ f, ¬ Fails file f)
    (address : listenIp? file.listener.address = some ip)
    (number : listenPort? file.listener.port = some port) :
    Reflects file (ofFile file ip port) where
  listens :=
    ⟨ip, port, listenIp?_eq_some_iff.mp address, (listenPort?_eq_some_iff.mp number).1, rfl⟩
  bufferSize := keepsOr_positive? 32768 _
  readTimeout := keepsSeconds_deadline 30 _
  writeTimeout := keepsSeconds_deadline 30 _
  handshakeTimeout := keepsSeconds_deadline 10 _
  shutdownTimeout := keepsSeconds_deadline 30 _
  workers cpus := keepsOr_positive? cpus _
  maxConnections _ := positive?_eq_some_iff
  tlsTerminated := rfl
  loggingEnabled := rfl
  logLevel := rfl
  capturePayloads := rfl
  metricsAddress := by
    rw [ofFile]
    dsimp only
    cases metrics : file.observability.metricsAddress with
    | none => exact .none
    | some text =>
      cases read : Socket.ofText? text with
      | none => exact absurd (.metrics metrics read) (sound _)
      | some address =>
        rw [Option.bind_some, read]
        exact .some read

/-- A file's settings are refused for their faults, or taken as they are. -/
theorem validate_cases (file : File) :
    (∃ f, Fails file f) ∧ validate file = .error (faults file) ∨
    (∀ f, ¬ Fails file f) ∧ ∃ e, Reflects file e ∧ validate file = .ok (e, replacements file) := by
  by_cases sound : ∀ f, ¬ Fails file f
  · refine .inr ⟨sound, ?_⟩
    have none : faults file = [] := List.eq_nil_iff_forall_not_mem.mpr fun f found =>
      sound f (mem_faults_iff.mp found)
    cases address : listenIp? file.listener.address with
    | none =>
      obtain ⟨unnamed, unread⟩ := listenIp?_eq_none_iff.mp address
      exact absurd (.address unnamed unread) (sound _)
    | some ip =>
      cases number : listenPort? file.listener.port with
      | none => exact absurd (.port (listenPort?_eq_none_iff.mp number)) (sound _)
      | some port =>
        refine ⟨_, reflects_ofFile sound address number, ?_⟩
        rw [validate, none, address, number]
  · obtain ⟨f, fails⟩ := not_forall_not.mp sound
    refine .inl ⟨⟨f, fails⟩, ?_⟩
    rw [validate]
    split
    · next none _ _ => exact absurd (none ▸ mem_faults_iff.mpr fails) List.not_mem_nil
    · rfl

/-- **Checking a file's settings is exact.** They are refused exactly if a check fails, and then
what is reported is what the checks that fail have found, and nothing is logged.  Otherwise the
settings in effect are those of the file, a size or a deadline that is not positive is replaced by
its default, with one warning each, and nothing in effect is too small to serve a connection. -/
theorem validate_exact (file : File) {cpus : Nat} (machine : 0 < cpus) :
    ((∃ found, validate file = .error found) ↔ ∃ f, Fails file f) ∧
    (∀ found, validate file = .error found → Finds file found ∧ warnings (validate file) = []) ∧
    ∀ e replaced, validate file = .ok (e, replaced) →
      Reflects file e ∧ Serviceable cpus e ∧
        warnings (validate file) =
          ((sizes file).filter fun r => r.value ≤ 0).map Replacement.log := by
  obtain ⟨fails, refused⟩ | ⟨sound, e, reflects, taken⟩ := validate_cases file
  · rw [refused]
    refine ⟨iff_of_true ⟨_, rfl⟩ fails, ?_, nofun⟩
    rintro _ ⟨⟩
    exact ⟨finds_faults file, rfl⟩
  · rw [taken]
    refine ⟨iff_of_false nofun (not_exists.mpr sound), nofun, ?_⟩
    rintro _ _ ⟨⟩
    refine ⟨reflects, reflects.serviceable machine, ?_⟩
    rw [warnings, replacements_eq]

/-- Settings that fail all three checks, and settings at the ends of what can be used. -/
theorem validate_exact_at_limits :
    let faulty : File := {
      listener := { address := "localhost:80", port := 65536, bufferSize := 0 }
      observability := { metricsAddress := some "9090" } }
    let extreme : File := {
      listener := { address := "LocalHost", port := 65535, bufferSize := -9223372036854775808,
                    maxConnections := 0, workers := 9223372036854775807 }
      timeouts := { readSecs := 9223372036854775807, handshakeSecs := 0 } }
    0 < 4 ∧
    (∃ found, validate faulty = .error found ∧ Finds faulty found ∧
      found = [.invalidAddress "localhost:80", .portOutOfRange 65536,
        .invalidMetricsAddress "9090"]) ∧
    ∃ e replaced, validate extreme = .ok (e, replaced) ∧ Reflects extreme e ∧ Serviceable 4 e ∧
      e.listenAddress = ⟨Ip.loopback, 0, 65535⟩ ∧ replaced.map (·.field) =
        ["buffer_size", "handshake_secs"] := by
  intro faulty extreme
  have refused : validate faulty = .error [.invalidAddress "localhost:80", .portOutOfRange 65536,
      .invalidMetricsAddress "9090"] := by decide +kernel
  have checked : (validate extreme).toOption.any fun x =>
      decide (x.1.listenAddress = ⟨Ip.loopback, 0, 65535⟩ ∧
        x.2.map (·.field) = ["buffer_size", "handshake_secs"]) := by
    decide +kernel
  obtain ⟨⟨e, replaced⟩, some_settings, checked⟩ := (Option.any_eq_true _ _).mp checked
  obtain ⟨listens, fields⟩ := of_decide_eq_true checked
  have taken : validate extreme = .ok (e, replaced) := by
    cases result : validate extreme with
    | error found => rw [result] at some_settings; cases some_settings
    | ok x => rw [result] at some_settings; cases some_settings; rfl
  have machine : 0 < 4 := by decide
  obtain ⟨_, finds, _⟩ := validate_exact faulty machine
  obtain ⟨_, _, reflects⟩ := validate_exact extreme machine
  obtain ⟨reflects, serviceable, _⟩ := reflects e replaced taken
  exact ⟨machine, ⟨_, refused, (finds _ refused).1, rfl⟩, e, replaced, taken, reflects, serviceable,
    listens, fields⟩

end Effective

end Wiretap.Settings
