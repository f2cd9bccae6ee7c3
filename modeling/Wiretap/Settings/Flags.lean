import Wiretap.Settings.File
import Wiretap.Text.Decimal

/-!
# Settings given on the command line

A flag sets one setting, and is laid over what the file says before anything is checked, so that a
flag can mend a bad file.  A flag that takes a value finds it behind an equals sign, behind its
letter, or in the next argument.  A flag is settled when the next flag appears or the arguments end:
a missing value, a repetition and a value of the wrong form are noticed then, in this order.  An
argument that is no flag and no value is refused at once.
-/

namespace Wiretap.Settings

set_option autoImplicit false

/-- The settings that the command line gives. -/
structure Flags where
  /-- Where the settings file is. -/
  config : Option String := none
  address : Option String := none
  port : Option Int := none
  bufferSize : Option Int := none
  readTimeout : Option Int := none
  writeTimeout : Option Int := none
  workers : Option Int := none
  maxConnections : Option Int := none
  noLogging : Bool := false
  logLevel : Option String := none
  capturePayloads : Bool := false
  tlsTerminated : Bool := false
  metricsAddress : Option String := none
  deriving DecidableEq, Repr

namespace Flags

/-! ## Laying flags over a file -/

/-- The file's settings, with those that a flag gives replaced. -/
def apply (flags : Flags) (file : File) : File :=
  { listener := {
      address := flags.address.getD file.listener.address
      port := flags.port.getD file.listener.port
      bufferSize := flags.bufferSize.getD file.listener.bufferSize
      maxConnections := flags.maxConnections.getD file.listener.maxConnections
      workers := flags.workers.getD file.listener.workers
      tlsTerminated := flags.tlsTerminated || file.listener.tlsTerminated }
    timeouts := {
      readSecs := flags.readTimeout.getD file.timeouts.readSecs
      writeSecs := flags.writeTimeout.getD file.timeouts.writeSecs
      handshakeSecs := file.timeouts.handshakeSecs
      shutdownSecs := file.timeouts.shutdownSecs }
    observability := {
      loggingEnabled := !flags.noLogging && file.observability.loggingEnabled
      logLevel := flags.logLevel.getD file.observability.logLevel
      capturePayloads := flags.capturePayloads || file.observability.capturePayloads
      metricsAddress := flags.metricsAddress.or file.observability.metricsAddress } }

/-! ## Reading arguments -/

/-- Why the arguments were not accepted. -/
inductive Refusal where
  | unknownArgument
  | missingValue
  | malformedValue
  | repeated
  | unwantedValue
  /-- Not a fault: an explanation of the flags was asked for. -/
  | helpWanted
  deriving DecidableEq, Repr

/-- A flag. -/
inductive Name where
  | config | address | port | bufferSize | readTimeout | writeTimeout | workers | maxConnections
  | noLogging | logLevel | capturePayloads | tlsTerminated | metricsAddress | help
  deriving DecidableEq, Repr

namespace Name

/-- The flag's long name. -/
def long : Name → String
  | config => "config"
  | address => "address"
  | port => "port"
  | bufferSize => "buffer-size"
  | readTimeout => "read-timeout"
  | writeTimeout => "write-timeout"
  | workers => "workers"
  | maxConnections => "max-connections"
  | noLogging => "no-logging"
  | logLevel => "log-level"
  | capturePayloads => "capture-payloads"
  | tlsTerminated => "tls-terminated"
  | metricsAddress => "metrics-address"
  | help => "help"

/-- All flags. -/
def all : List Name :=
  [config, address, port, bufferSize, readTimeout, writeTimeout, workers, maxConnections,
    noLogging, logLevel, capturePayloads, tlsTerminated, metricsAddress, help]

/-- The flag of a long name. -/
def ofLong? (s : List Char) : Option Name := all.find? fun n => n.long.toList = s

/-- The flag of a letter. -/
def ofLetter? : Char → Option Name
  | 'c' => some config
  | 'a' => some address
  | 'p' => some port
  | 'h' => some help
  | _ => none

/-- Whether the flag takes a value. -/
def takesValue : Name → Bool
  | noLogging | capturePayloads | tlsTerminated | help => false
  | _ => true

/-- Whether the flag's value is a number. -/
def isNumeric : Name → Bool
  | port | bufferSize | readTimeout | writeTimeout | workers | maxConnections => true
  | _ => false

end Name

/-- What has been read of the arguments. -/
structure Parse where
  flags : Flags := {}
  /-- The flags that have been settled. -/
  settled : List Name := []
  /-- The last flag that takes a value, with its value once that is known. -/
  open? : Option (Name × Option String) := none
  /-- Whether no argument can be a flag any more. -/
  ended : Bool := false

namespace Parse

/-- Sets a flag to its value. -/
def assign (flags : Flags) (name : Name) (value : String) : Except Refusal Flags := do
  let number : Except Refusal Int :=
    match Text.Decimal.int64? value.toList with
    | some n => .ok n
    | none => .error .malformedValue
  match name with
  | .config => if value = "" then .error .missingValue else .ok { flags with config := value }
  | .address => .ok { flags with address := value }
  | .port => return { flags with port := ← number }
  | .bufferSize => return { flags with bufferSize := ← number }
  | .readTimeout => return { flags with readTimeout := ← number }
  | .writeTimeout => return { flags with writeTimeout := ← number }
  | .workers => return { flags with workers := ← number }
  | .maxConnections => return { flags with maxConnections := ← number }
  | .logLevel => .ok { flags with logLevel := value }
  | .metricsAddress => .ok { flags with metricsAddress := value }
  | .noLogging => .ok { flags with noLogging := true }
  | .capturePayloads => .ok { flags with capturePayloads := true }
  | .tlsTerminated => .ok { flags with tlsTerminated := true }
  | .help => .error .helpWanted

/-- Settles a flag whose value, if it takes one, is known. -/
def settle (p : Parse) (name : Name) (value : String) : Except Refusal Parse := do
  if name ≠ .help ∧ name ∈ p.settled then .error .repeated
  let flags ← assign p.flags name value
  return { p with flags, settled := name :: p.settled }

/-- Settles the open flag. -/
def close (p : Parse) : Except Refusal Parse :=
  match p.open? with
  | none => .ok p
  | some (_, none) => .error .missingValue
  | some (name, some value) => settle { p with open? := none } name value

/-- A flag with the value attached to it, if any. -/
def flag (p : Parse) (name : Name) (attached : Option String) : Except Refusal Parse := do
  match name.takesValue, attached with
  | true, none => return { ← p.close with open? := some (name, none) }
  | true, some value => settle (← p.close) name value
  | false, none => settle (← p.close) name ""
  | false, some _ => .error .unwantedValue

/-- The characters of a number without its sign: digits, one point not in front, and an exponent
letter neither in front nor at the end. -/
def looksNumeric (cs : List Char) : Bool :=
  let mantissa := cs.takeWhile (· != 'e')
  let power := (cs.dropWhile (· != 'e')).drop 1
  let points := mantissa.filter (· == '.')
  mantissa.all (fun c => Text.Decimal.isDigit c || c == '.') && points.length ≤ 1
    && mantissa.head? != some '.'
    && (mantissa.length == cs.length
      || (!mantissa.isEmpty && !power.isEmpty && power.all Text.Decimal.isDigit))

/-- The flag that still waits for its value. -/
def waiting? (p : Parse) : Option Name :=
  match p.open? with
  | some (name, none) => some name
  | _ => none

/-- A run of flag letters.  A flag that takes a value takes what is left of the run, without an
equals sign in front of it. -/
def letters (p : Parse) : List Char → Except Refusal Parse
  | [] => .ok p
  | c :: rest =>
    match Name.ofLetter? c with
    | none => .error .unknownArgument
    | some name =>
      if name.takesValue then
        match rest with
        | [] => p.flag name none
        | '=' :: value => p.flag name (some (String.ofList value))
        | value => p.flag name (some (String.ofList value))
      else do letters (← p.flag name none) rest

/-- An argument that is not a flag: the value that the open flag waits for, or nothing known. -/
def plain (p : Parse) (arg : String) : Except Refusal Parse :=
  match p.waiting? with
  | some name =>
    if p.ended then .error .unknownArgument
    else .ok { p with open? := some (name, some arg) }
  | none => .error .unknownArgument

/-- Whether the argument, which begins with one dash, is the value of the flag that waits. -/
def isNegativeValue (p : Parse) (cs : List Char) : Bool :=
  match p.waiting? with
  | some name => name.isNumeric && looksNumeric cs
  | none => false

/-- Reads one argument. -/
def step (p : Parse) (arg : String) : Except Refusal Parse :=
  if p.ended then p.plain arg
  else
    match arg.toList with
    | ['-', '-'] => .ok { p with ended := true }
    | '-' :: '-' :: rest =>
      let name := rest.takeWhile (· != '=')
      let attached := (rest.dropWhile (· != '=')).drop 1
      match Name.ofLong? name with
      | none => .error .unknownArgument
      | some n =>
        p.flag n (if name.length = rest.length then none else some (String.ofList attached))
    | '-' :: c :: rest =>
      if p.isNegativeValue (c :: rest) then p.plain arg else p.letters (c :: rest)
    | _ => p.plain arg

end Parse

/-- What a refusal tells whoever gave the arguments. -/
def Refusal.message : Refusal → String
  | .unknownArgument => "unexpected argument"
  | .missingValue => "a value is required"
  | .malformedValue => "invalid value"
  | .repeated => "an argument cannot be used twice"
  | .unwantedValue => "unexpected value"
  | .helpWanted => "help"

/-- A line on every flag. -/
def usage : String :=
  "\n".intercalate ("Usage: wiretap [OPTIONS]" :: Name.all.map fun n =>
    "  --" ++ n.long ++ (if n.takesValue then " <VALUE>" else ""))

/-- Reads the arguments. -/
def parse (args : List String) : Except Refusal Flags := do
  let p ← args.foldlM Parse.step {}
  return (← p.close).flags

end Flags

end Wiretap.Settings
