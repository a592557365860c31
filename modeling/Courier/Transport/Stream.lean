import Courier.LineReader
import Courier.Transport.Lock
import Courier.Transport.Operation

/-! Transports over a pair of byte streams, one message a line. Receivers take turns: whoever holds the
reader's lock waits for a line, the others wait for the lock. A receiver that leaves keeps nothing:
the part of a line that has arrived stays with the transport. -/

namespace Courier

structure StreamTransport where
  lines : LineReader := {}
  /-- What has arrived and has not been looked at. -/
  input : Bytes := []
  inputEnded : Bool := false
  lock : Lock := {}
  output : Bytes := []
  outputBroken : Bool := false
deriving Repr, Inhabited

namespace StreamTransport

def name : String := "stdio"

def prepare (ended : Option ContextError) (m : Message) : Except TransportError Bytes :=
  match ended with
  | some e => .error (.context e)
  | none => m.toRecord name

def write (t : StreamTransport) (record : Bytes) : Except TransportError StreamTransport :=
  if t.outputBroken then .error (.io name "broken pipe")
  else .ok { t with output := t.output ++ record }

/-- Starts to receive: asks for the reader, unless the context has ended. -/
def enter (t : StreamTransport) (ended : Option ContextError) :
    Except TransportError (Nat × StreamTransport) :=
  match ended with
  | some e => .error (.context e)
  | none =>
    let (ticket, lock) := t.lock.acquire
    .ok (ticket, { t with lock })

def hasReader (t : StreamTransport) (ticket : Nat) : Bool := t.lock.isHeldBy ticket

def leave (t : StreamTransport) (ticket : Nat) : StreamTransport :=
  { t with lock := t.lock.release ticket }

/-- Looks at what has arrived. Gives `none` if more is needed for a line. -/
def nextLine (t : StreamTransport) : Option Line × StreamTransport :=
  let (line, lines, input) := t.lines.next t.input t.inputEnded
  (line, { t with lines, input })

def ofLine : Line → Except TransportError Message
  | .data bytes => Message.ofLine bytes
  | .tooLong => .error (.lineTooLong name maxLineBytes)
  | .finished => .error .inputClosed

/-- A receiver that has got the reader looks for a line. The end of its context comes first; only if
neither is there yet it goes on waiting. -/
def poll (t : StreamTransport) (ticket : Nat) (ended : Option ContextError) :
    Option (Except TransportError Message) × StreamTransport :=
  match ended with
  | some e => (some (.error (.context e)), t.leave ticket)
  | none =>
    match t.nextLine with
    | (some line, t) => (some (ofLine line), t.leave ticket)
    | (none, t) => (none, t)

def feed (t : StreamTransport) (bytes : Bytes) : StreamTransport := { t with input := t.input ++ bytes }

def takeOutput (t : StreamTransport) : Bytes × StreamTransport := (t.output, { t with output := [] })

end StreamTransport
end Courier
