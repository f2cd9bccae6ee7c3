import Wiretap.Settings.File
import Wiretap.Address.Socket
import Wiretap.Observer.Log
import Wiretap.Text.Quoted
import Wiretap.Text.Span

/-!
# Settings in effect

The settings that the proxy runs with are made from a file's settings once and do not change.  An
address that is no address and a port that is no port are refused, all faults together; a size or a
deadline that is not positive is replaced by its default and reported.  What comes out has a
positive buffer size and positive deadlines.
-/

namespace Wiretap.Settings

set_option autoImplicit false

open Observer (Log)
open Text (Span)

/-- Settings that can be used as they are. -/
structure Effective where
  listenAddress : Address.Socket := ⟨Address.Ip.loopback, 0, 8080⟩
  bufferSize : Nat := 32768
  readTimeout : Span := .seconds 30
  writeTimeout : Span := .seconds 30
  handshakeTimeout : Span := .seconds 10
  shutdownTimeout : Span := .seconds 30
  /-- How many threads serve; `none` is one for each processor. -/
  workers : Option Nat := none
  /-- How many connections may be served at once, if that is limited. -/
  maxConnections : Option Nat := some 10000
  tlsTerminated : Bool := false
  loggingEnabled : Bool := true
  logLevel : String := "info"
  capturePayloads : Bool := false
  metricsAddress : Option Address.Socket := none
  deriving DecidableEq, Repr

/-- A setting that cannot be used. -/
inductive Fault where
  | invalidAddress (address : String)
  | portOutOfRange (port : Int)
  | invalidMetricsAddress (address : String)
  deriving DecidableEq, Repr

namespace Fault

def message : Fault → String
  | invalidAddress a => s!"invalid listen address {Text.quote a}"
  | portOutOfRange p => s!"port {p} outside 1-65535"
  | invalidMetricsAddress a => s!"invalid metrics address {Text.quote a}"

end Fault

/-- The message for all faults together. -/
def faultsMessage (faults : List Fault) : String :=
  "Validation failed: " ++ ", ".intercalate (faults.map Fault.message)

/-- A setting that was replaced by its default. -/
structure Replacement where
  field : String
  value : Int
  default : String
  isDeadline : Bool
  deriving DecidableEq, Repr

namespace Replacement

/-- How a replacement is reported. -/
def log (r : Replacement) : Log :=
  { level := .warn
    message :=
      if r.isDeadline then "Non-positive timeout replaced by default"
      else "Non-positive value replaced by default"
    fields := [("field", r.field), ("value", toString r.value), ("default", r.default)] }

end Replacement

namespace Effective

/-- The threads that serve on a machine with the given number of processors. -/
def workerCount (cpus : Nat) (e : Effective) : Nat := e.workers.getD cpus

/-- The address to listen on: a literal, or the name of the loopback in any case. -/
def listenIp? (address : String) : Option Address.Ip :=
  if Bytes.sameFolded (Text.Utf8.ofText address) (Bytes.ascii "localhost") then
    some Address.Ip.loopback
  else Address.Ip.ofText? address

/-- A port that can be listened on. -/
def listenPort? (port : Int) : Option Nat :=
  if 1 ≤ port ∧ port ≤ 65535 then some port.toNat else none

/-- The value if it is positive. -/
def positive? (n : Int) : Option Nat := if 0 < n then some n.toNat else none

/-- The faults of a file's settings, in the order address, port, metrics address. -/
def faults (file : File) : List Fault :=
  (if (listenIp? file.listener.address).isSome then []
    else [.invalidAddress file.listener.address])
  ++ (if (listenPort? file.listener.port).isSome then [] else [.portOutOfRange file.listener.port])
  ++ (match file.observability.metricsAddress with
    | none => []
    | some a => if (Address.Socket.ofText? a).isSome then [] else [.invalidMetricsAddress a])

/-- The report on a setting that is not positive. -/
def replacement (field : String) (value : Int) (default : String) (isDeadline : Bool) :
    List Replacement :=
  if 0 < value then [] else [⟨field, value, default, isDeadline⟩]

/-- What is replaced in a file's settings. -/
def replacements (file : File) : List Replacement :=
  let d : Effective := {}
  replacement "buffer_size" file.listener.bufferSize (toString d.bufferSize) false
  ++ replacement "read_secs" file.timeouts.readSecs d.readTimeout.text true
  ++ replacement "write_secs" file.timeouts.writeSecs d.writeTimeout.text true
  ++ replacement "handshake_secs" file.timeouts.handshakeSecs d.handshakeTimeout.text true
  ++ replacement "shutdown_secs" file.timeouts.shutdownSecs d.shutdownTimeout.text true

/-- A deadline in seconds, or the default. -/
def deadline (secs : Int) (default : Span) : Span :=
  ((positive? secs).map Span.seconds).getD default

/-- The settings in effect for a file's settings that listen on the given address. -/
def ofFile (file : File) (ip : Address.Ip) (port : Nat) : Effective :=
  let d : Effective := {}
  { listenAddress := ⟨ip, 0, port⟩
    bufferSize := (positive? file.listener.bufferSize).getD d.bufferSize
    readTimeout := deadline file.timeouts.readSecs d.readTimeout
    writeTimeout := deadline file.timeouts.writeSecs d.writeTimeout
    handshakeTimeout := deadline file.timeouts.handshakeSecs d.handshakeTimeout
    shutdownTimeout := deadline file.timeouts.shutdownSecs d.shutdownTimeout
    workers := positive? file.listener.workers
    maxConnections := positive? file.listener.maxConnections
    tlsTerminated := file.listener.tlsTerminated
    loggingEnabled := file.observability.loggingEnabled
    logLevel := file.observability.logLevel
    capturePayloads := file.observability.capturePayloads
    metricsAddress := file.observability.metricsAddress.bind Address.Socket.ofText? }

/-- Checks a file's settings: all their faults, or the settings in effect and what was replaced. -/
def validate (file : File) : Except (List Fault) (Effective × List Replacement) :=
  match faults file, listenIp? file.listener.address, listenPort? file.listener.port with
  | [], some ip, some port => .ok (ofFile file ip port, replacements file)
  | found, _, _ => .error found

/-- The entry that tells with which settings the proxy runs. -/
def loaded (e : Effective) : Log :=
  { level := .info
    message := "Configuration loaded"
    fields := [
      ("listen_address", e.listenAddress.text),
      ("max_connections", (e.maxConnections.map fun n => s!"Some({n})").getD "None"),
      ("workers", (e.workers.map toString).getD "one for each processor"),
      ("read_timeout_secs", toString (e.readTimeout.millis / 1000)),
      ("handshake_timeout_secs", toString (e.handshakeTimeout.millis / 1000))] }

end Effective

end Wiretap.Settings
