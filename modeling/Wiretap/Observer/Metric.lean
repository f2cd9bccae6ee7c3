import Wiretap.Observer.Log

/-!
# Metrics

What is counted: connections being served and connections finished, the length of payloads, and
hosts that could not be reached.  A total is kept for each name with each choice of labels, and a
total that was touched is there even if it is zero.
-/

namespace Wiretap.Observer

set_option autoImplicit false

/-- One thing to be counted. -/
inductive Metric where
  | opened
  | closed (protocol outcome : String)
  | relayed (protocol : String) (direction : Direction) (bytes : Nat)
  | targetFailed (protocol : String)
  deriving DecidableEq, Repr

namespace Metric

/-- A name with its labels in order, as totals are reported. -/
def series (name : String) (labels : List (String × String)) : String :=
  if labels.isEmpty then name
  else name ++ "\x7b" ++ ",".intercalate (labels.map fun (k, v) => k ++ "=" ++ v) ++ "\x7d"

def activeSeries : String := series "capture_active_connections" []

/-- The totals that one thing changes, and by how much.  A finished connection also adds one sample
of its duration. -/
def changes : Metric → List (String × Int)
  | opened => [(activeSeries, 1)]
  | closed protocol outcome => [
      (activeSeries, -1),
      (series "capture_connections_total" [("outcome", outcome), ("protocol", protocol)], 1),
      (series "capture_connection_duration_seconds" [("protocol", protocol)], 1)]
  | relayed protocol direction bytes => [
      (series "capture_relayed_bytes_total"
        [("direction", direction.name), ("protocol", protocol)], bytes)]
  | targetFailed protocol => [
      (series "capture_upstream_failures_total" [("protocol", protocol)], 1)]

/-- Adds an amount to a total. -/
def add (totals : List (String × Int)) (change : String × Int) : List (String × Int) :=
  if totals.any (·.1 == change.1) then
    totals.map fun t => if t.1 == change.1 then (t.1, t.2 + change.2) else t
  else totals ++ [change]

/-- The totals of everything counted. -/
def totals (counted : List Metric) : List (String × Int) :=
  (counted.flatMap changes).foldl add []

end Metric

end Wiretap.Observer
