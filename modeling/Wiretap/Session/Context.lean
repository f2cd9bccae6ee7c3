import Wiretap.Message.Reply
import Wiretap.Observer.Log
import Wiretap.Session.Dialogue
import Wiretap.Settings.Effective

/-!
# What every processor uses

The settings and the facts of the connection, the messages it reports, and replies to the client.
-/

namespace Wiretap.Session

set_option autoImplicit false

open Observer (Level Peer)

/-- What is fixed while a connection is served. -/
structure Context where
  settings : Settings.Effective
  peer : Peer
  deriving DecidableEq, Repr

namespace Context

/-- Reports a message behind the name of the connection, unless reporting is turned off. -/
def announce (c : Context) (level : Level) (message : String) : Dialogue Unit :=
  (Observer.report c.settings.loggingEnabled level (c.peer.connection ++ " " ++ message)).forM
    fun entry => .note (.log entry)

/-- Reports a message in the course of a task. -/
def report (c : Context) (level : Level) (message : String) : Task Unit :=
  ExceptT.lift (c.announce level message)

end Context

/-- Writes a response under the deadline for writing. -/
def reply (response : Bytes) : Task Unit := do
  get (Reading.result .replyWritten (← ask (.reply response)))

/-- Writes a response with a line of text. -/
def replyText (status : Message.Status) (body : Bytes) : Task Unit :=
  reply (Message.Reply.plainText status body)

end Wiretap.Session
