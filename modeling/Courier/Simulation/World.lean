import Courier.Backpressure
import Courier.Channel
import Courier.Middleware
import Courier.Reconnecting
import Courier.Relay
import Courier.Reporter
import Courier.Simulation.Clock
import Courier.Simulation.Script
import Courier.Transport.Endpoint
import Courier.Transport.File
import Courier.Transport.Http
import Courier.Transport.Stream

/-! A world to run transports in: all of them with their states, the files, the clock, and what has been
seen so far. Transports are known by number. -/

namespace Courier.Simulation

abbrev Place := Nat

inductive DialOutcome where
  | refused (why : TransportError)
  /-- A new loopback channel, under a name. -/
  | channel (capacity : Nat) (label : String)
  | existing (place : Place)
  | address (url : String) (options : DialOptions)
deriving Repr, Inhabited

/-- A dial: what it gives, and after how long. -/
structure Dial where
  outcome : DialOutcome
  delay : Duration := .zero
deriving Repr, Inhabited

inductive Device where
  | channel (e : ChannelEnd)
  | file (t : FileTransport)
  | stream (t : StreamTransport)
  | script (s : Script)
  | middleware (w : Middleware) (inner : Place)
  /-- The last of the dials is repeated. -/
  | reconnecting (config : Reconnect) (slot : Reconnecting.Slot) (dials : List Dial)
  | http (t : HttpTransport)
deriving Inhabited

/-- What a context is made of: a span at its root, a timeout, and when it is cancelled. -/
structure ContextPlan where
  span : Option String := none
  timeout : Option Duration := none
  cancelAfter : Option Duration := none
  cancelled : Bool := false
deriving Repr, Inhabited

structure World where
  clock : Clock := {}
  devices : Array Device := #[]
  queues : Array Queue := #[]
  files : Config.Files := fun _ => .missing
  /-- The directory that relative paths start from. -/
  directory : String := ""
  standardInput : Bytes := []
  spans : Array Span := #[]
  /-- Events and counts, the newest first. -/
  seen : List Observation := []
  /-- Reports on connections, the newest first. -/
  states : List (ConnectionState × Instant) := []
  /-- When dials started, the newest first. -/
  dials : List Instant := []
  /-- Connections by the names under which they were dialed, the newest first. -/
  labels : List (String × Place) := []
  /-- The spans that sends of scripted transports were made under, the newest first. -/
  sendSpans : List (Option Nat) := []
  nextId : Nat := 0
deriving Inhabited

namespace World

def device (w : World) (p : Place) : Device := w.devices.getD p default

def setDevice (w : World) (p : Place) (d : Device) : World := { w with devices := w.devices.setIfInBounds p d }

def addDevice (w : World) (d : Device) : Place × World :=
  (w.devices.size, { w with devices := w.devices.push d })

def queue (w : World) (q : Nat) : Queue := w.queues.getD q default

def setQueue (w : World) (q : Nat) (queue : Queue) : World :=
  { w with queues := w.queues.setIfInBounds q queue }

def addQueue (w : World) (capacity : Nat) : Nat × World :=
  (w.queues.size, { w with queues := w.queues.push { capacity } })

def addLoopback (w : World) (capacity : Nat) : Place × World :=
  let (q, w) := w.addQueue capacity
  w.addDevice (.channel (.loopback q))

def addPair (w : World) (capacity : Nat) : Place × Place × World :=
  let (there, w) := w.addQueue capacity
  let (back, w) := w.addQueue capacity
  let (left, right) := ChannelEnd.pair there back
  let (a, w) := w.addDevice (.channel left)
  let (b, w) := w.addDevice (.channel right)
  (a, b, w)

def observe (w : World) (seen : List Observation) : World := { w with seen := seen.reverse ++ w.seen }

def log (w : World) (events : List LogEvent) : World := w.observe (events.map .event)

def events (w : World) : List LogEvent := Observation.events w.seen.reverse

def counts (w : World) : Counts := Observation.counts w.seen.reverse

/-- The instant at which the wall clock of a simulation starts. -/
def epoch : Int := 1000000000

def wallTime (w : World) : Int := epoch + w.clock.now

/-- Identifiers that nobody has yet. They have 32 digits, and no two end in the same 16. -/
def freshId (w : World) : String × World :=
  let number := w.nextId + 1
  (String.ofList (List.replicate 15 'f' ++ '0' :: Text.paddedHex 16 number), { w with nextId := number })

def fresh (w : World) : Fresh × World :=
  let (traceId, w) := w.freshId
  let (spanId, w) := w.freshId
  (⟨traceId, spanId, w.wallTime⟩, w)

def addSpan (w : World) (s : Span) : Nat × World := (w.spans.size, { w with spans := w.spans.push s })

def span (w : World) (n : Nat) : Span := w.spans.getD n default

def setSpan (w : World) (n : Nat) (s : Span) : World := { w with spans := w.spans.setIfInBounds n s }

def freshToken (w : World) : Token × World :=
  let (token, clock) := w.clock.freshToken
  (token, { w with clock })

def ended? (w : World) (ctx : Context) : Option ContextError := w.clock.ended? ctx

def context (w : World) (plan : ContextPlan) : Context × World :=
  let (token, w) := w.freshToken
  let ctx := Context.background token
  let (ctx, w) :=
    match plan.span with
    | none => (ctx, w)
    | some operation =>
      let (fresh, w) := w.fresh
      let (n, w) := w.addSpan (Span.root fresh operation)
      let (token, w) := w.freshToken
      (ctx.withSpan token n, w)
  let (ctx, w) :=
    match plan.timeout with
    | none => (ctx, w)
    | some timeout =>
      let (token, w) := w.freshToken
      (ctx.withTimeout token w.clock.now timeout, w)
  let token := ctx.tokens.headD 0
  let clock :=
    match plan.cancelAfter with
    | none => w.clock
    | some delay => w.clock.plan (w.clock.now + delay.nanos) token
  let clock := if plan.cancelled then clock.cancel token else clock
  (ctx, { w with clock })

/-- The name of the transport at a place. A wrapper that repeats sends has the name of what it wraps. -/
def nameOf (w : World) (p : Place) : String := go w p w.devices.size
where
  go (w : World) (p : Place) : Nat → String
    | 0 => ""
    | depth + 1 =>
      match w.device p with
      | .channel _ => "channel"
      | .file _ => FileTransport.name
      | .stream _ => StreamTransport.name
      | .script s => s.name
      | .middleware _ inner => go w inner depth
      | .reconnecting _ _ _ => Reconnecting.name
      | .http _ => HttpTransport.name

def dialAddress (w : World) (url : String) (options : DialOptions) : Except TransportError Place × World :=
  match Endpoint.parse url with
  | .error e => (.error e, w)
  | .ok endpoint =>
    let w := w.log [⟨.debug, "dialing transport",
      [("url", .text url), ("kind", .text endpoint.kind.name)]⟩]
    let (place, w) :=
      match endpoint.kind with
      | .channel => w.addLoopback options.channelCapacity
      | .file => w.addDevice (.file { path := Config.Files.absolute w.directory endpoint.address })
      | .stdio => w.addDevice (.stream { input := w.standardInput, inputEnded := true })
      | .http => w.addDevice (.http { target := url, config := options.http })
    (.ok place, w)

def dialed (w : World) (d : DialOutcome) : Except TransportError Place × World :=
  match d with
  | .refused why => (.error why, w)
  | .channel capacity label =>
    let (place, w) := w.addLoopback capacity
    (.ok place, { w with labels := (label, place) :: w.labels })
  | .existing place => (.ok place, w)
  | .address url options => w.dialAddress url options

end World
end Courier.Simulation
