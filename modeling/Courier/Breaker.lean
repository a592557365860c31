import Courier.Config
import Courier.Context
import Courier.Log
import Courier.Metrics

/-! A circuit breaker: it stops calling what keeps failing, and after a while lets a few probes find out
whether it has recovered. All operations are pure; a call is an admission and, later, the end of its
permit. -/

namespace Courier

inductive BreakerState where
  | closed
  | opened
  | halfOpen
deriving Repr, DecidableEq, Inhabited

def BreakerState.name : BreakerState → String
  | closed => "closed"
  | opened => "open"
  | halfOpen => "half-open"

structure BreakerConfig where
  /-- So many failures in a row open the breaker. -/
  threshold : Nat := 5
  /-- So long it stays open. -/
  timeout : Duration := .ofSeconds 30
  /-- So many probes may run at once. -/
  halfOpenMax : Nat := 1
deriving Repr, DecidableEq, Inhabited

def BreakerConfig.normalized (c : BreakerConfig) : BreakerConfig where
  threshold := if c.threshold = 0 then 5 else c.threshold
  timeout := if c.timeout.isZero then .ofSeconds 30 else c.timeout
  halfOpenMax := max c.halfOpenMax 1

def BreakerConfig.ofConfig (c : Config.Breaker) : BreakerConfig :=
  BreakerConfig.normalized ⟨c.threshold, c.timeout, c.halfOpenMax⟩

structure Breaker where
  config : BreakerConfig
  state : BreakerState := .closed
  consecutiveFailures : Nat := 0
  openedAt : Option Instant := none
  /-- Probes of the current round that are under way. -/
  inFlight : Nat := 0
  /-- The number of the current round of probes; it wraps at 64 bits. -/
  generation : Nat := 0
  successes : Nat := 0
  failures : Nat := 0
deriving Repr, DecidableEq, Inhabited

/-- Leave for one call; a probe remembers its round. -/
structure Permit where
  round : Option Nat
deriving Repr, DecidableEq, Inhabited

inductive BreakerEvent where
  | transition (source target : BreakerState) (consecutiveFailures : Nat)
  | rejection
deriving Repr, DecidableEq

namespace Breaker

def rejectionMessage : String := "circuit breaker is open"

def rejectionCode : ErrorCode := .unavailable

def new (config : BreakerConfig) : Breaker := { config := config.normalized }

def moveTo (b : Breaker) (target : BreakerState) : Breaker × List BreakerEvent :=
  if b.state = target then (b, [])
  else ({ b with state := target }, [.transition b.state target b.consecutiveFailures])

def hasExpired (b : Breaker) (now : Instant) : Bool :=
  match b.openedAt with
  | some opened => b.config.timeout.nanos ≤ now - opened
  | none => true

/-- Rounds of probes are counted modulo 2^64. -/
def roundLimit : Nat := 18446744073709551616

/-- Looks at the state. An open breaker that has been open long enough starts a round of probes. -/
def read (b : Breaker) (now : Instant) : Breaker × List BreakerEvent :=
  if b.state = .opened && b.hasExpired now then
    { b with inFlight := 0, generation := (b.generation + 1) % roundLimit }.moveTo .halfOpen
  else (b, [])

def allow (b : Breaker) (now : Instant) : Option Permit × Breaker × List BreakerEvent :=
  let (b, events) := b.read now
  match b.state with
  | .closed => (some ⟨none⟩, b, events)
  | .opened => (none, b, events ++ [.rejection])
  | .halfOpen =>
    if b.config.halfOpenMax ≤ b.inFlight then (none, b, events ++ [.rejection])
    else (some ⟨some b.generation⟩, { b with inFlight := b.inFlight + 1 }, events)

def succeed (b : Breaker) : Breaker × List BreakerEvent :=
  let b := { b with successes := b.successes + 1 }
  match b.state with
  | .closed => ({ b with consecutiveFailures := 0 }, [])
  | .halfOpen => { b with consecutiveFailures := 0, inFlight := 0 }.moveTo .closed
  | .opened => (b, [])

def fail (b : Breaker) (now : Instant) : Breaker × List BreakerEvent :=
  let b := { b with failures := b.failures + 1 }
  match b.state with
  | .closed =>
    let b := { b with consecutiveFailures := b.consecutiveFailures + 1 }
    if b.config.threshold ≤ b.consecutiveFailures then
      { b with openedAt := some now }.moveTo .opened
    else (b, [])
  | .halfOpen => { b with openedAt := some now, inFlight := 0 }.moveTo .opened
  | .opened => (b, [])

/-- Gives a permit back without an outcome: a probe of the current round frees its slot. -/
def drop (b : Breaker) (p : Permit) : Breaker :=
  match p.round with
  | none => b
  | some round =>
    if b.state = .halfOpen && b.generation = round then { b with inFlight := b.inFlight - 1 } else b

/-- Ends a call. A failure under a context that has ended says nothing about what was called. -/
def complete (b : Breaker) (p : Permit) (ok : Bool) (ended : Option ContextError) (now : Instant) :
    Breaker × List BreakerEvent :=
  if !ok && ended.isSome then (b.drop p, [])
  else if ok then b.succeed
  else b.fail now

inductive Outcome (ε α : Type) where
  | rejected
  | returned (result : Except ε α)

def Outcome.orElse {ε α : Type} (o : Outcome ε α) (fallback : Except ε α) : Except ε α :=
  match o with
  | .rejected => fallback
  | .returned result => result

end Breaker

def BreakerEvent.log? (breaker : String) : BreakerEvent → Option LogEvent
  | transition source .opened failures =>
    some ⟨.warn, "circuit breaker opened", [("breaker", .text breaker),
      ("from", .text source.name), ("consecutive_failures", .integer failures)]⟩
  | transition source target _ =>
    some ⟨.info, "circuit breaker state change", [("breaker", .text breaker),
      ("from", .text source.name), ("to", .text target.name)]⟩
  | rejection => none

def BreakerEvent.metric (breaker : String) : BreakerEvent → Metric
  | transition _ target _ => .transition breaker target.name
  | rejection => .rejection breaker

end Courier
