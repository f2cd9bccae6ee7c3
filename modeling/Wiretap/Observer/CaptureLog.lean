import Wiretap.Observer.Hook
import Wiretap.Text.Preview

/-!
# Capturing to the log

The executor that the proxy runs with writes every call to the log: the start and the end of a
connection, failures, and, if payloads are to be captured, a preview of each payload.
-/

namespace Wiretap.Observer

set_option autoImplicit false

namespace CaptureLog

/-- The entries for a call. -/
def entries (payloads : Bool) (peer : Peer) : HookCall → List Log
  | .started => [{
      level := .info
      message := "Capture started"
      fields := [("connection_id", peer.connection), ("peer_addr", peer.address)] }]
  | .handled => []
  | .packet direction data =>
    if payloads then [{
      level := .info
      message := "Captured payload"
      fields := [
        ("connection_id", peer.connection), ("direction", direction.name),
        ("len", toString data.length), ("preview", Text.preview data)] }]
    else []
  | .fault f context => [{
      level := .warn
      message := "Capture error"
      fields := [("error", f.message), ("context", context)] }]
  | .ended micros => [{
      level := .info
      message := "Capture finished"
      fields := [
        ("connection_id", peer.connection), ("duration_ms", toString (micros / 1000))] }]

end CaptureLog

/-- The executor that writes calls to the log. -/
def captureLog (payloads : Bool) : Executor where
  respond _ peer c := { logs := CaptureLog.entries payloads peer c }

end Wiretap.Observer
