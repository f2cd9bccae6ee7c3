import Wiretap.Connection.Basic

/-!
# Where the proxy stands

While it serves a client the proxy holds the client's stream: behind the buffers of the connection
at first, raw once the stream has been handed over, or behind what is still to be written while it
is being closed.  For a tunnel it holds a second stream, the far side: another host, or whoever
takes the client's bytes apart into messages and puts messages together for the client.
-/

namespace Wiretap.Session

set_option autoImplicit false

open Transport (BufferedSink ByteSink)

/-- The streams that the proxy holds. -/
structure Post (σ τ : Type) where
  /-- The connection to the client. -/
  connection : Connection σ
  /-- The client's stream once it has been handed over. -/
  raw : Option σ := none
  /-- The client's stream once the connection has given it up, behind what is still to be
  written. -/
  leaving : Option (BufferedSink σ) := none
  /-- The far side of a tunnel. -/
  far : Option τ := none

namespace Post

variable {σ τ : Type}

/-- The post at the beginning: a connection over a stream. -/
def fresh (bufferSize : Nat) (stream : σ) : Post σ τ :=
  { connection := .fresh bufferSize stream }

/-- The client's stream, wherever it is. -/
def stream? (p : Post σ τ) : Option σ :=
  p.connection.stream?.or (p.raw.or (p.leaving.map (·.sink)))

/-- Lets the client act on its stream. -/
def onStream (f : σ → σ) (p : Post σ τ) : Post σ τ :=
  { p with
    connection := p.connection.onStream f
    raw := p.raw.map f
    leaving := p.leaving.map fun s => { s with sink := f s.sink } }

/-- What was read ahead. -/
def readAhead (p : Post σ τ) : Bytes :=
  match p.connection.link with
  | .attached _ r _ => r.held
  | _ => []

end Post

end Wiretap.Session
