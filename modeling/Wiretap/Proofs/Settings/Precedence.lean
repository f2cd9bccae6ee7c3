import Wiretap.Proofs.Settings.Validation
import Wiretap.Settings.Flags

/-!
# Flags before the file

A file has fourteen settings, and each of them is what its flag gives, or what the file has where no
flag is given (`Flags.get_apply`).  The settings are all there is of a file (`File.eq_of_get`), so
whatever is to be said of laying flags over it can be said of one setting at a time: laying them over
it again changes nothing (`Flags.apply_apply`), flags that give different settings can be laid over
it in either order (`Flags.apply_comm`), and what the file has where a flag is given makes no
difference (`Flags.apply_congr`).

A check looks at one setting (`fails_iff`).  So a fault is found in the flag where one is given, and
in the file only where none is, and a flag that no check objects to mends whatever the file has there
(`Flags.apply_takes_precedence`).
-/

namespace Wiretap.Settings

set_option autoImplicit false

open Address (Ip Socket)

/-! ## Settings one at a time -/

/-- One of the settings that a file has. -/
inductive Setting where
  | address | port | bufferSize | maxConnections | workers | tlsTerminated
  | readSecs | writeSecs | handshakeSecs | shutdownSecs
  | loggingEnabled | logLevel | capturePayloads | metricsAddress
  deriving DecidableEq, Repr

/-- The values that a setting can have. -/
abbrev Setting.Value : Setting → Type
  | address | logLevel => String
  | tlsTerminated | loggingEnabled | capturePayloads => Bool
  | metricsAddress => Option String
  | port | bufferSize | maxConnections | workers => Int
  | readSecs | writeSecs | handshakeSecs | shutdownSecs => Int

/-- What a file has for a setting. -/
def File.get (file : File) : (s : Setting) → s.Value
  | .address => file.listener.address
  | .port => file.listener.port
  | .bufferSize => file.listener.bufferSize
  | .maxConnections => file.listener.maxConnections
  | .workers => file.listener.workers
  | .tlsTerminated => file.listener.tlsTerminated
  | .readSecs => file.timeouts.readSecs
  | .writeSecs => file.timeouts.writeSecs
  | .handshakeSecs => file.timeouts.handshakeSecs
  | .shutdownSecs => file.timeouts.shutdownSecs
  | .loggingEnabled => file.observability.loggingEnabled
  | .logLevel => file.observability.logLevel
  | .capturePayloads => file.observability.capturePayloads
  | .metricsAddress => file.observability.metricsAddress

/-- What flags give a setting.  A switch that is not thrown gives nothing, and one that is thrown
gives one value only; two of the deadlines have no flag. -/
def Flags.given? (flags : Flags) : (s : Setting) → Option s.Value
  | .address => flags.address
  | .port => flags.port
  | .bufferSize => flags.bufferSize
  | .maxConnections => flags.maxConnections
  | .workers => flags.workers
  | .tlsTerminated => if flags.tlsTerminated then some true else none
  | .readSecs => flags.readTimeout
  | .writeSecs => flags.writeTimeout
  | .handshakeSecs => none
  | .shutdownSecs => none
  | .loggingEnabled => if flags.noLogging then some false else none
  | .logLevel => flags.logLevel
  | .capturePayloads => if flags.capturePayloads then some true else none
  | .metricsAddress => flags.metricsAddress.map some

/-- The settings are all there is of a file. -/
theorem File.eq_of_get {file other : File} (same : ∀ s, file.get s = other.get s) :
    file = other := by
  obtain ⟨⟨address, port, bufferSize, maxConnections, workers, tlsTerminated⟩,
    ⟨readSecs, writeSecs, handshakeSecs, shutdownSecs⟩,
    ⟨loggingEnabled, logLevel, capturePayloads, metricsAddress⟩⟩ := file
  cases same .address
  cases same .port
  cases same .bufferSize
  cases same .maxConnections
  cases same .workers
  cases same .tlsTerminated
  cases same .readSecs
  cases same .writeSecs
  cases same .handshakeSecs
  cases same .shutdownSecs
  cases same .loggingEnabled
  cases same .logLevel
  cases same .capturePayloads
  cases same .metricsAddress
  rfl

namespace Flags

variable {flags others : Flags} {file other : File}

/-- **Each setting is what its flag gives**, or what the file has where no flag is given. -/
theorem get_apply (flags : Flags) (file : File) (s : Setting) :
    (flags.apply file).get s = (flags.given? s).getD (file.get s) := by
  cases s with
  | tlsTerminated =>
    change (flags.tlsTerminated || _) = (if flags.tlsTerminated then some true else none).getD _
    cases flags.tlsTerminated <;> rfl
  | loggingEnabled =>
    change (!flags.noLogging && _) = (if flags.noLogging then some false else none).getD _
    cases flags.noLogging <;> rfl
  | capturePayloads =>
    change (flags.capturePayloads || _) = (if flags.capturePayloads then some true else none).getD _
    cases flags.capturePayloads <;> rfl
  | metricsAddress =>
    change flags.metricsAddress.or _ = (flags.metricsAddress.map some).getD _
    cases flags.metricsAddress <;> rfl
  | _ => rfl

/-! ## Laying flags over a file -/

/-- Laying flags over a file again changes nothing. -/
theorem apply_apply (flags : Flags) (file : File) :
    flags.apply (flags.apply file) = flags.apply file := by
  refine File.eq_of_get fun s => ?_
  rw [get_apply, get_apply]
  cases flags.given? s <;> rfl

/-- Flags that give different settings can be laid over a file in either order. -/
theorem apply_comm (apart : ∀ s, flags.given? s = none ∨ others.given? s = none) :
    flags.apply (others.apply file) = others.apply (flags.apply file) := by
  refine File.eq_of_get fun s => ?_
  rw [get_apply, get_apply, get_apply, get_apply]
  obtain absent | absent := apart s
  · rw [absent, Option.getD_none, Option.getD_none]
  · rw [absent, Option.getD_none, Option.getD_none]

/-- What a file has where a flag is given makes no difference. -/
theorem apply_congr (same : ∀ s, flags.given? s = none → file.get s = other.get s) :
    flags.apply file = flags.apply other := by
  refine File.eq_of_get fun s => ?_
  rw [get_apply, get_apply]
  cases given : flags.given? s with
  | none => exact same s given
  | some v => rfl

end Flags

/-! ## What a check looks at -/

/-- The setting that a fault is found in. -/
def Fault.setting : Fault → Setting
  | invalidAddress _ => .address
  | portOutOfRange _ => .port
  | invalidMetricsAddress _ => .metricsAddress

/-- A check finds a fault in the value of a setting. -/
inductive Flawed : (s : Setting) → s.Value → Fault → Prop where
  | address {a : String} (unnamed : ¬ NamesLoopback a) (unread : Ip.ofText? a = none) :
    Flawed .address a (.invalidAddress a)
  | port {n : Int} (outside : n < 1 ∨ 65535 < n) : Flawed .port n (.portOutOfRange n)
  | metrics {a : String} (unread : Socket.ofText? a = none) :
    Flawed .metricsAddress (some a) (.invalidMetricsAddress a)

/-- A file that has a flawed value fails the check. -/
theorem Flawed.fails {file : File} {s : Setting} {v : s.Value} {f : Fault} (flawed : Flawed s v f)
    (has : file.get s = v) : Fails file f := by
  cases flawed with
  | address unnamed unread =>
    cases has
    exact .address unnamed unread
  | port outside =>
    cases has
    exact .port outside
  | metrics unread => exact .metrics has unread

/-- **Whether a check fails depends on one setting.** -/
theorem fails_iff {file : File} {f : Fault} :
    Fails file f ↔ Flawed f.setting (file.get f.setting) f := by
  constructor
  · rintro (⟨unnamed, unread⟩ | outside | ⟨present, unread⟩)
    · exact .address unnamed unread
    · exact .port outside
    · change Flawed .metricsAddress file.observability.metricsAddress _
      rw [present]
      exact .metrics unread
  · intro flawed
    exact flawed.fails rfl

namespace Flags

/-- Flags take precedence over a file. -/
structure TakePrecedence (flags : Flags) (file : File) : Prop where
  /-- A setting is what its flag gives, or what the file has where no flag is given. -/
  get : ∀ s, (flags.apply file).get s = (flags.given? s).getD (file.get s)
  /-- Two deadlines have no flag. -/
  unflagged : (flags.apply file).timeouts.handshakeSecs = file.timeouts.handshakeSecs ∧
    (flags.apply file).timeouts.shutdownSecs = file.timeouts.shutdownSecs
  /-- Reporting can only be turned off, and the other two switches can only be turned on. -/
  switches :
    ((flags.apply file).observability.loggingEnabled → file.observability.loggingEnabled) ∧
    (file.observability.capturePayloads → (flags.apply file).observability.capturePayloads) ∧
    (file.listener.tlsTerminated → (flags.apply file).listener.tlsTerminated)
  again : flags.apply (flags.apply file) = flags.apply file
  commutes : ∀ others : Flags, (∀ s, flags.given? s = none ∨ others.given? s = none) →
    flags.apply (others.apply file) = others.apply (flags.apply file)
  /-- What comes out of the checks depends on the file only where no flag is given. -/
  validates : ∀ other : File, (∀ s, flags.given? s = none → file.get s = other.get s) →
    Effective.validate (flags.apply file) = Effective.validate (flags.apply other)
  /-- What comes out is refused exactly if a flag is flawed, or the file where no flag is given. -/
  refused : (∃ found, Effective.validate (flags.apply file) = .error found) ↔
    ∃ s f, Flawed s ((flags.given? s).getD (file.get s)) f
  /-- No fault is found in a setting whose flag no check objects to, whatever the file has there. -/
  mends : ∀ s v, flags.given? s = some v → (∀ f, ¬ Flawed s v f) →
    ∀ found, Effective.validate (flags.apply file) = .error found → ∀ f ∈ found, f.setting ≠ s

/-- What is found wrong is what is flawed of what the flags give, or of what the file has where they
give nothing. -/
theorem fails_apply_iff {flags : Flags} {file : File} {f : Fault} :
    Fails (flags.apply file) f ↔
      Flawed f.setting ((flags.given? f.setting).getD (file.get f.setting)) f := by
  rw [fails_iff, get_apply]

/-- **Flags take precedence over the file**, in each setting and in what the checks find. -/
theorem apply_takes_precedence (flags : Flags) (file : File) : TakePrecedence flags file where
  get := get_apply flags file
  unflagged := ⟨rfl, rfl⟩
  switches := by
    refine ⟨fun on => ?_, fun on => ?_, fun on => ?_⟩
    · exact (Bool.and_eq_true_iff.mp on).2
    · exact Bool.or_eq_true_iff.mpr (.inr on)
    · exact Bool.or_eq_true_iff.mpr (.inr on)
  again := apply_apply flags file
  commutes _ apart := apply_comm apart
  validates _ same := by rw [apply_congr same]
  refused := by
    obtain ⟨⟨f, fails⟩, refused⟩ | ⟨sound, e, _, taken⟩ :=
      Effective.validate_cases (flags.apply file)
    · exact iff_of_true ⟨_, refused⟩ ⟨_, f, fails_apply_iff.mp fails⟩
    · refine iff_of_false ?_ ?_
      · rintro ⟨found, refused⟩
        cases taken.symm.trans refused
      · rintro ⟨s, f, flawed⟩
        exact sound f (flawed.fails (get_apply flags file s))
  mends s v given sound found refused f member := by
    rintro rfl
    obtain ⟨_, refused'⟩ | ⟨_, e, _, taken⟩ := Effective.validate_cases (flags.apply file)
    · cases refused.symm.trans refused'
      have flawed := fails_apply_iff.mp (Effective.mem_faults_iff.mp member)
      rw [given] at flawed
      exact sound f flawed
    · cases taken.symm.trans refused

end Flags

end Wiretap.Settings
