import Wiretap.Toml.Document
import Wiretap.Text.Utf8

/-!
# Settings as a file gives them

A settings file has three sections, and every setting has a default, so that an empty file is a
complete one.  Numbers are kept as the file gives them, signs and excess included; whether they make
sense is decided later.

A section may also be written as an array, which gives the settings in their order, and settings or
sections that are not known are ignored.  A setting of the wrong type refuses the whole file.
-/

namespace Wiretap.Settings

set_option autoImplicit false

/-- Where to listen, and what a connection may use. -/
structure Listening where
  /-- An address literal, or the name of the loopback. -/
  address : String := "127.0.0.1"
  port : Int := 8080
  /-- The capacity of each buffer of a connection, in bytes. -/
  bufferSize : Int := 32768
  /-- How many connections may be served at once; unlimited unless positive. -/
  maxConnections : Int := 10000
  /-- How many threads serve; one for each processor unless positive. -/
  workers : Int := 0
  /-- Whether the traffic arrives with its encryption already removed. -/
  tlsTerminated : Bool := false
  deriving DecidableEq, Repr, Inhabited

/-- Deadlines in seconds. -/
structure Deadlines where
  readSecs : Int := 30
  writeSecs : Int := 30
  handshakeSecs : Int := 10
  shutdownSecs : Int := 30
  deriving DecidableEq, Repr, Inhabited

/-- What the proxy reports about itself. -/
structure Reporting where
  loggingEnabled : Bool := true
  logLevel : String := "info"
  /-- Whether previews of payloads are logged. -/
  capturePayloads : Bool := false
  /-- Where metrics are served, if anywhere. -/
  metricsAddress : Option String := none
  deriving DecidableEq, Repr, Inhabited

/-- The contents of a settings file. -/
structure File where
  listener : Listening := {}
  timeouts : Deadlines := {}
  observability : Reporting := {}
  deriving DecidableEq, Repr, Inhabited

/-! ## Reading sections -/

open Toml (Value)

/-- The entries of a section whose settings have the given names in order.  An array gives them by
position, and a date gives none. -/
def sectionEntries (names : List String) : Value → Option (List (String × Value))
  | .table entries => some entries
  | .array items => some (names.zip items)
  | .datetime => some []
  | _ => none

/-- A setting that is a text. -/
def text (entries : List (String × Value)) (key default : String) : Option String :=
  match Value.entry? entries key with
  | none => some default
  | some (.string s) => some s
  | some _ => none

/-- A setting that is a number. -/
def number (entries : List (String × Value)) (key : String) (default : Int) : Option Int :=
  match Value.entry? entries key with
  | none => some default
  | some (.integer n) => some n
  | some _ => none

/-- A setting that is a switch. -/
def switch (entries : List (String × Value)) (key : String) (default : Bool) : Option Bool :=
  match Value.entry? entries key with
  | none => some default
  | some (.boolean b) => some b
  | some _ => none

/-- A setting that is a text or absent. -/
def optionalText (entries : List (String × Value)) (key : String) : Option (Option String) :=
  match Value.entry? entries key with
  | none => some none
  | some (.string s) => some (some s)
  | some _ => none

namespace Listening

def names : List String :=
  ["address", "port", "buffer_size", "max_connections", "workers", "tls_terminated"]

def ofEntries (entries : List (String × Value)) : Option Listening := do
  let d : Listening := {}
  return {
    address := ← text entries "address" d.address
    port := ← number entries "port" d.port
    bufferSize := ← number entries "buffer_size" d.bufferSize
    maxConnections := ← number entries "max_connections" d.maxConnections
    workers := ← number entries "workers" d.workers
    tlsTerminated := ← switch entries "tls_terminated" d.tlsTerminated }

end Listening

namespace Deadlines

def names : List String := ["read_secs", "write_secs", "handshake_secs", "shutdown_secs"]

def ofEntries (entries : List (String × Value)) : Option Deadlines := do
  let d : Deadlines := {}
  return {
    readSecs := ← number entries "read_secs" d.readSecs
    writeSecs := ← number entries "write_secs" d.writeSecs
    handshakeSecs := ← number entries "handshake_secs" d.handshakeSecs
    shutdownSecs := ← number entries "shutdown_secs" d.shutdownSecs }

end Deadlines

namespace Reporting

def names : List String := ["logging_enabled", "log_level", "capture_payloads", "metrics_address"]

def ofEntries (entries : List (String × Value)) : Option Reporting := do
  let d : Reporting := {}
  return {
    loggingEnabled := ← switch entries "logging_enabled" d.loggingEnabled
    logLevel := ← text entries "log_level" d.logLevel
    capturePayloads := ← switch entries "capture_payloads" d.capturePayloads
    metricsAddress := ← optionalText entries "metrics_address" }

end Reporting

/-- A section of the file, or its default where the file has none. -/
def fileSection {α : Type} [Inhabited α] (entries : List (String × Value)) (key : String)
    (names : List String) (read : List (String × Value) → Option α) : Option α :=
  match Value.entry? entries key with
  | none => some default
  | some v => (sectionEntries names v).bind read

namespace File

/-- Reads the text of a settings file. -/
def ofText? (content : String) : Option File := do
  let entries ← Toml.parse content
  return {
    listener := ← fileSection entries "listener" Listening.names Listening.ofEntries
    timeouts := ← fileSection entries "timeouts" Deadlines.names Deadlines.ofEntries
    observability := ← fileSection entries "observability" Reporting.names Reporting.ofEntries }

/-- Why a settings file could not be used. -/
inductive LoadError where
  /-- There is no such file. -/
  | missing
  /-- The file is not a text. -/
  | notText
  /-- The text is not a settings file. -/
  | malformed
  deriving DecidableEq, Repr

/-- The message for a file that cannot be read. -/
def unreadable (why : String) : String := "IO error: " ++ why

/-- Reads the bytes of a settings file. -/
def ofBytes (content : Bytes) : Except LoadError File :=
  match Text.Utf8.text? content with
  | none => .error .notText
  | some s =>
    match ofText? s with
    | none => .error .malformed
    | some file => .ok file

end File

end Wiretap.Settings
