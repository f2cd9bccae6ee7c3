import Wiretap.Message.HeadReader
import Wiretap.Message.Status
import Wiretap.Observer.Hook
import Wiretap.Observer.Metric
import Wiretap.WebSocket.Handshake
import Wiretap.WebSocket.Relay

/-!
# Dialogues

Serving a connection is a dialogue with the world: the proxy asks for the next thing to happen on
the client's stream or at another host, goes on according to the answer, and notes what it does for
its observers.  A dialogue is a finite tree, so it always ends once its questions are answered.
Observers are only told, never asked, so nothing they do can change the dialogue.

Deadlines are part of the questions: an answer may be that the deadline passed.
-/

namespace Wiretap.Session

set_option autoImplicit false

open Message (Fields HeadEnd Status Uri)
open Observer (HookCall Log Metric)

/-! ## Questions and answers -/

/-- How reading under a deadline ends. -/
inductive Reading (α : Type) where
  | got (a : α)
  | failed (e : IoFault)
  | expired
  deriving Repr

namespace Reading

/-- The value, or the fault that takes its place. -/
def result {α : Type} (awaited : Awaited) : Reading α → Except Fault α
  | got a => .ok a
  | failed e => .error (.io e)
  | expired => .error (.timeout awaited)

end Reading

/-- A request as it is passed on to another host. -/
structure Forwarded where
  method : Bytes
  uri : Uri
  fields : Fields
  body : Bytes
  deriving DecidableEq, Repr

/-- The head of another host's response. -/
structure ResponseHead where
  status : Status
  fields : Fields
  deriving DecidableEq, Repr

/-- What another host gives back, which may also be a failure with a text of its own. -/
inductive Received (α : Type) where
  | got (a : α)
  | failed (why : String)
  | expired
  deriving Repr

/-- How asking another host for an upgrade ends. -/
inductive Upgraded where
  /-- The host accepted, perhaps selecting a subprotocol. -/
  | accepted (protocol : Option Bytes)
  | failed (e : UpgradeFault)
  | expired
  deriving DecidableEq, Repr

/-- What a tunnel carried until it ended. -/
structure Carried where
  /-- How many bytes went from the client to the other host, without those sent ahead. -/
  sent : Nat
  /-- How many bytes went from the other host to the client. -/
  received : Nat
  /-- What ended the tunnel, unless both sides closed. -/
  fault : Option IoFault
  deriving DecidableEq, Repr

/-- What a dialogue asks the world. -/
inductive Question where
  /-- The first byte of the stream, which stays unread; nothing if the stream is empty. -/
  | firstByte
  /-- A request head, cut out of the stream. -/
  | head
  /-- The two bytes of a greeting and as many methods as the second says. -/
  | greeting
  /-- The next bytes of the stream, so many of them. -/
  | body (length : Nat)
  /-- To write a response and flush it, under the deadline for writing. -/
  | reply (response : Bytes)
  /-- To write a refusal and flush it, however long that takes. -/
  | refusal (response : Bytes)
  /-- To hand over the raw stream, with the bytes that were read ahead. -/
  | detach
  /-- To write to the raw stream and flush it, under the deadline for writing. -/
  | rawReply (response : Bytes)
  /-- To connect to a host for a tunnel. -/
  | dial (target : Bytes)
  /-- To send bytes to the host of the tunnel. -/
  | sendAhead (data : Bytes)
  /-- To carry bytes both ways until the tunnel ends. -/
  | carry
  /-- To send a request to another host, and the head of its response. -/
  | exchange (request : Forwarded)
  /-- The body of the response. -/
  | responseBody
  /-- A key for an upgrade, never used before. -/
  | freshKey
  /-- To ask another host for an upgrade; the deadline runs from the first time. -/
  | upgrade (request : WebSocket.UpgradeRequest)
  /-- To carry messages both ways, beginning with the bytes read ahead, until one way ends. -/
  | relay (ahead : Bytes)
  /-- To close the connection. -/
  | close
  /-- How many microseconds have passed since the connection began. -/
  | elapsed
  deriving DecidableEq, Repr

namespace Question

/-- The answers that a question can have. -/
def Answer : Question → Type
  | firstByte => Reading (Option UInt8)
  | head => Reading HeadEnd
  | greeting => Reading Bytes
  | body _ => Reading Bytes
  | reply _ => Reading Unit
  | refusal _ => Except IoFault Unit
  | detach => Except IoFault Bytes
  | rawReply _ => Reading Unit
  | dial _ => Reading Unit
  | sendAhead _ => Except IoFault Unit
  | carry => Carried
  | exchange _ => Received ResponseHead
  | responseBody => Received Bytes
  | freshKey => Bytes
  | upgrade _ => Upgraded
  | relay _ => WebSocket.Relayed
  | close => Except IoFault Unit
  | elapsed => Nat

end Question

/-! ## Dialogues -/

/-- What observers are told. -/
inductive Note where
  | log (entry : Log)
  | metric (m : Metric)
  | hook (call : HookCall)
  deriving DecidableEq, Repr

/-- A dialogue that ends with a value. -/
inductive Dialogue (α : Type) where
  | finish (a : α)
  | tell (n : Note) (rest : Dialogue α)
  | ask (q : Question) (next : q.Answer → Dialogue α)

namespace Dialogue

/-- Goes on with another dialogue behind the end of this one. -/
def bind {α β : Type} (d : Dialogue α) (f : α → Dialogue β) : Dialogue β :=
  match d with
  | finish a => f a
  | tell n rest => tell n (rest.bind f)
  | ask q next => ask q fun a => (next a).bind f

instance : Monad Dialogue where
  pure := finish
  bind := bind

/-- Tells the observers. -/
def note (n : Note) : Dialogue Unit := tell n (finish ())

/-- Asks a question. -/
def question (q : Question) : Dialogue q.Answer := ask q finish

end Dialogue

/-- A dialogue that may end with a fault. -/
abbrev Task : Type → Type := ExceptT Fault Dialogue

/-- Asks a question. -/
def ask (q : Question) : Task q.Answer := ExceptT.lift (.question q)

/-- Tells the observers. -/
def tell (n : Note) : Task Unit := ExceptT.lift (.note n)

/-- Goes on with a value, or ends with the fault. -/
def get {α : Type} (r : Except Fault α) : Task α := ExceptT.mk (.finish r)

end Wiretap.Session
