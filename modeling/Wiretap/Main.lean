import Wiretap.Settings.Effective
import Wiretap.Settings.Flags

/-!
# The command line

The program reads its flags and its settings file, lays the one over the other, and checks what
comes out.  It reports every fault that it finds, or everything that it replaced and the settings in
effect.
-/

namespace Wiretap.CommandLine

set_option autoImplicit false

open Settings (Effective File Flags)

/-- The settings file that the flags name, or the defaults. -/
def loadFile (flags : Flags) : IO (Except String File) := do
  match flags.config with
  | none => return .ok {}
  | some path =>
    match ← (IO.FS.readBinFile path).toBaseIO with
    | .error e => return .error (File.unreadable (toString e))
    | .ok content =>
      match File.ofBytes content.toList with
      | .ok file => return .ok file
      | .error _ => return .error "the settings file is malformed"

/-- Reports on the settings in effect; the exit code is zero if there are any. -/
def reportSettings (file : File) : IO UInt32 := do
  match Effective.validate file with
  | .error faults =>
    IO.eprintln (Settings.faultsMessage faults)
    return 1
  | .ok (settings, replaced) =>
    for r in replaced do
      IO.println r.log.line
    IO.println settings.loaded.line
    return 0

end Wiretap.CommandLine

open Wiretap in
/-- Checks the settings that the arguments and the settings file give. -/
def main (args : List String) : IO UInt32 := do
  match Settings.Flags.parse args with
  | .error .helpWanted =>
    IO.println Settings.Flags.usage
    return 0
  | .error refusal =>
    IO.eprintln refusal.message
    return 2
  | .ok flags =>
    match ← CommandLine.loadFile flags with
    | .error why =>
      IO.eprintln why
      return 1
    | .ok file => CommandLine.reportSettings (flags.apply file)
