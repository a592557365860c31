import Courier.Context
import Courier.Observation
import Courier.Trace
import Courier.Transport.Operation

/-! A wrapper around a transport that repeats failed sends, keeps counts and a log, and gives every send a
span of its own when its caller has one. Sending is a machine that asks for sends of the inner
transport and for waits, and is resumed with their outcomes. -/

namespace Courier

/-- How often a message is sent, and how long to wait in between. -/
structure SendRetry where
  maxAttempts : Nat := 3
  initialWait : Duration := .ofMillis 100
  /-- The longest single wait; zero stands for no bound. -/
  maxWait : Duration := .ofSeconds 5
  multiplier : Binary64 := .ofNat 2
deriving Repr, DecidableEq, Inhabited

def SendRetry.nextWait (r : SendRetry) (wait : Duration) : Duration :=
  let grown := wait.scale r.multiplier
  if r.maxWait.isZero then grown else min grown r.maxWait

structure Middleware where
  retry : Option SendRetry := none
  metered : Bool := false
deriving Repr, DecidableEq, Inhabited

namespace Middleware

/-- The wrapper with repeated sends; a single attempt is none. -/
def withRetry (w : Middleware) (r : SendRetry) : Middleware :=
  { w with retry := if 1 < r.maxAttempts then some r else none }

inductive Phase where
  /-- The outcome of an attempt. -/
  | sending (attempt : Nat) (wait : Duration)
  /-- The time of the next attempt; `last` is why the attempt failed. -/
  | resting (attempt : Nat) (wait : Duration) (last : TransportError)
deriving Repr, DecidableEq, Inhabited

inductive Next where
  /-- Ask the inner transport to send. -/
  | send (phase : Phase)
  | rest (wait : Duration) (phase : Phase)
  | finish (reply : Reply) (attempts : Nat)
deriving Repr

def counted (w : Middleware) (metrics : List Metric) : List Observation :=
  if w.metered then metrics.map .count else []

/-- Goes on to an attempt if one is left and the context has not ended; `last` is why the attempt
before failed. -/
def proceed (r : SendRetry) (attempt : Nat) (wait : Duration) (last : Option TransportError)
    (ended : Option ContextError) : Next :=
  if r.maxAttempts < attempt then
    match last with
    | some why => .finish (.error (.retriesExhausted (attempt - 1) why)) (attempt - 1)
    | none => .finish (.ok none) 1
  else
    match ended with
    | some e => .finish (.error (last.getD (.context e))) attempt
    | none => .send (.sending attempt wait)

/-- Starts to send. Only one who repeats sends looks at the context. -/
def start (w : Middleware) (ended : Option ContextError) : Next :=
  match w.retry with
  | none => .send (.sending 1 .zero)
  | some r => proceed r 1 r.initialWait none ended

/-- An attempt on the inner transport, which is called `inner`, has come to an end. -/
def afterSend (w : Middleware) (inner : String) (m : Message) (attempt : Nat) (wait : Duration)
    (reply : Reply) : Next × List Observation :=
  match w.retry, reply with
  | some r, .error why =>
    let failed := w.counted [.sendFailure inner]
    if attempt = r.maxAttempts then
      (.finish (.error (.retriesExhausted attempt why)) attempt, failed)
    else
      (.rest wait (.resting attempt wait why), failed ++
        [.event ⟨.debug, "send failed; retrying",
          [("msg_id", .text m.id), ("attempt", .integer attempt), ("wait_ms", .integer wait.millis),
            ("error", .text why.message)]⟩])
  | _, reply => (.finish reply attempt, [])

/-- A wait has come to an end, possibly by the end of the context. -/
def afterRest (w : Middleware) (attempt : Nat) (wait : Duration) (last : TransportError)
    (ended : Option ContextError) : Next :=
  match w.retry, ended with
  | some r, none => proceed r (attempt + 1) (r.nextWait wait) (some last) none
  | _, _ => .finish (.error last) attempt

/-- The log's line for a message that has passed. -/
def passed (direction : Direction) (inner : String) (m : Message) (attempts : Nat) : Observation :=
  .event ⟨.debug, "message",
    [("direction", .text direction.name), ("transport", .text inner), ("msg_id", .text m.id),
      ("msg_type", .text m.kind), ("msg_source", .text m.source),
      ("payload_bytes", .integer m.payload.length), ("attempts", .integer attempts)]⟩

/-- What is seen of a send that has come to an end. -/
def afterAll (w : Middleware) (inner : String) (m : Message) (attempts : Nat) :
    Reply → List Observation
  | .ok _ => passed .outbound inner m attempts :: w.counted [.sent inner, .sendLatency inner]
  | .error why =>
    .event ⟨.error, "send failed",
      [("transport", .text inner), ("msg_type", .text m.kind), ("msg_id", .text m.id),
        ("attempts", .integer attempts), ("error", .text why.message)]⟩
    :: if w.retry.isNone then w.counted [.sendFailure inner] else []

/-- What is seen of an end of receiving. -/
def afterReceive (w : Middleware) (inner : String) : Reply → List Observation
  | .ok (some m) => passed .inbound inner m 1 :: w.counted [.received inner]
  | _ => []

def openSpan (fresh : Fresh) (parent : Span) (m : Message) : Span :=
  ((Span.child fresh parent "transport.send").setAttribute "msg_type" (.text m.kind)).setAttribute
    "msg_source" (.text m.source)

def closeSpan (s : Span) (now : Int) (elapsed : Duration) (attempts : Nat) (reply : Reply) : Span :=
  let s := (s.setAttribute "duration_ms" (.integer elapsed.millis)).setAttribute "attempts"
    (.integer attempts)
  match reply with
  | .ok _ => s.close now "ok"
  | .error why => (s.setAttribute "error" (.text why.message)).close now "error"

end Middleware
end Courier
