import Courier.Trace
import Courier.Transport.Endpoint
import Courier.Transport.Operation

/-! Messages over HTTP. One is sent as the body of a request to a target; others arrive as requests to a
listener of one's own, which puts them into an inbox. The listener is bound between two looks at the
transport, so closing, or another listener, may come in between. -/

namespace Courier

inductive HttpAnswer where
  | accepted
  | malformed
  | tooLarge
  | full
deriving Repr, DecidableEq, Inhabited

namespace HttpAnswer

def status : HttpAnswer → Nat
  | accepted => 202
  | malformed => 400
  | tooLarge => 413
  | full => 503

/-- The body of an answer, where it is this library's own. -/
def body : HttpAnswer → String
  | malformed => "invalid message"
  | full => "inbox full"
  | _ => ""

end HttpAnswer

structure HttpRequest where
  target : String
  body : Bytes
  headers : List (String × String)
deriving Repr, DecidableEq, Inhabited

abbrev Listener := Nat

structure HttpTransport where
  target : String
  config : HttpConfig := {}
  /-- What has arrived and has not been received, the oldest first. -/
  inbox : List Message := []
  listener : Option Listener := none
  closed : Bool := false
deriving Repr, DecidableEq, Inhabited

namespace HttpTransport

def name : String := "http"

def ensureOpen (t : HttpTransport) : Except TransportError Unit :=
  if t.closed then .error (.closed name) else .ok ()

/-- The first part of every operation: the transport must be open and the context live. -/
def enter (t : HttpTransport) (ended : Option ContextError) : Except TransportError Unit := do
  t.ensureOpen
  match ended with
  | some e => throw (.context e)
  | none => return ()

/-- The request for a message; it names the caller's span, if there is one. -/
def prepare (t : HttpTransport) (ended : Option ContextError) (span : Option Span) (m : Message) :
    Except TransportError HttpRequest := do
  t.enter ended
  let body ← m.marshal.mapError (.marshal name)
  let trace :=
    match span with
    | none => []
    | some s =>
      [(Trace.parentHeaderName, s.parentHeader), (Trace.stateHeaderName, s.stateHeader)]
  return { target := t.target, body, headers := ("content-type", "application/json") :: trace }

/-- What the status of the answer means to the sender. -/
def ofStatus (status : Nat) : Reply := if 400 ≤ status then .error (.status status) else .ok none

def capacity (t : HttpTransport) : Nat := max t.config.inboxCapacity 1

/-- A request with a message arrives at the listener. -/
def accept (t : HttpTransport) (body : Bytes) : HttpAnswer × HttpTransport :=
  if t.config.maxBodyBytes < body.length then (.tooLarge, t)
  else
    match Message.unmarshal body with
    | .error _ => (.malformed, t)
    | .ok m =>
      if t.capacity ≤ t.inbox.length then (.full, t)
      else (.accepted, { t with inbox := t.inbox ++ [m] })

/-- A receiver looks around. Gives `none` while there is nothing to wake it. -/
def poll (t : HttpTransport) (ended : Option ContextError) :
    Option (Except TransportError Message) × HttpTransport :=
  match ended with
  | some e => (some (.error (.context e)), t)
  | none =>
    if t.closed then (some (.error (.closed name)), t)
    else
      match t.inbox with
      | [] => (none, t)
      | m :: rest => (some (.ok m), { t with inbox := rest })

/-- The first part of listening: refuses when the transport has been closed, or listens already at an
address, which `addressOf` tells. -/
def mayListen (t : HttpTransport) (addressOf : Listener → String) : Except TransportError Unit := do
  t.ensureOpen
  match t.listener with
  | some running => throw (.listenerRunning (addressOf running))
  | none => return ()

/-- The second part of listening, when a listener has been bound: installs it, or refuses; then whoever
has bound it stops it again. -/
def install (t : HttpTransport) (addressOf : Listener → String) (bound : Listener) :
    Except TransportError HttpTransport := do
  t.mayListen addressOf
  return { t with listener := some bound }

/-- Closes. The listener is taken out, to be stopped by whoever closes. -/
def close (t : HttpTransport) : Option Listener × HttpTransport :=
  (t.listener, { t with listener := none, closed := true })

end HttpTransport
end Courier
