/-!
# Log entries and directions

What the proxy says about itself: a level, a message, and named fields that are already text.
Processors report what they do in messages at three levels, and one switch in the settings turns all
of these off.  What is reported of a payload names its direction: it goes from the client to the
other host, or back.
-/

namespace Wiretap.Observer

set_option autoImplicit false

/-- How much an entry matters. -/
inductive Level where
  | trace | debug | info | warn | error
  deriving DecidableEq, Repr

namespace Level

/-- The name under which a level is reported. -/
def name : Level → String
  | trace => "TRACE"
  | debug => "DEBUG"
  | info => "INFO"
  | warn => "WARN"
  | error => "ERROR"

end Level

/-- One entry of the log. -/
structure Log where
  level : Level
  message : String
  fields : List (String × String) := []
  deriving DecidableEq, Repr

namespace Log

/-- The entry on one line, with its fields behind the message. -/
def line (l : Log) : String :=
  " ".intercalate ([l.level.name, l.message] ++ l.fields.map fun (k, v) => k ++ "=" ++ v)

end Log

/-- The entries that a message gives rise to: one, or none when reporting is turned off. -/
def report (enabled : Bool) (level : Level) (message : String) : List Log :=
  if enabled then [{ level, message }] else []

/-- The way a payload goes. -/
inductive Direction where
  /-- To the client. -/
  | inbound
  /-- From the client. -/
  | outbound
  deriving DecidableEq, Repr

namespace Direction

def name : Direction → String
  | inbound => "inbound"
  | outbound => "outbound"

/-- The way back. -/
def other : Direction → Direction
  | inbound => outbound
  | outbound => inbound

end Direction

end Wiretap.Observer
