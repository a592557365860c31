import Courier.Config
import Courier.Context
import Courier.Log

/-! Repeating an operation with growing waits. An executor asks for calls and waits and is resumed with
their outcomes, so it does not know what it repeats, nor how time passes. -/

namespace Courier

structure RetryPolicy where
  /-- All attempts, the first included; zero counts as one. -/
  maxAttempts : Nat
  initialWait : Duration
  /-- The longest single wait; zero stands for no bound. -/
  maxWait : Duration
  /-- By what each wait grows into the next. -/
  multiplier : Binary64
  /-- The part of each wait, up or down, that is left to chance. -/
  jitter : Binary64
deriving Repr, DecidableEq, Inhabited

namespace RetryPolicy

def standard : RetryPolicy :=
  ⟨3, .ofMillis 100, .ofSeconds 5, .ofNat 2, .ofDecimal false 25 (-2)⟩

def aggressive : RetryPolicy :=
  ⟨5, .ofMillis 50, .ofSeconds 10, .ofNat 2, .ofDecimal false 25 (-2)⟩

def ofConfig (c : Config.Retry) : RetryPolicy :=
  ⟨c.maxAttempts, c.initialWait, c.maxWait, c.multiplier, c.jitter⟩

def attempts (p : RetryPolicy) : Nat := max p.maxAttempts 1

def nextWait (p : RetryPolicy) (wait : Duration) : Duration :=
  let grown := wait.scale p.multiplier
  if p.maxWait.isZero then grown else min grown p.maxWait

def sumWaits (p : RetryPolicy) : Nat → Duration → Duration → Duration
  | 0, _, total => total
  | n + 1, wait, total => sumWaits p n (p.nextWait wait) (total.saturatingAdd wait)

def totalMaxWait (p : RetryPolicy) : Duration := p.sumWaits (p.attempts - 1) p.initialWait .zero

/-- A wait changed by chance, which draws a factor near one. -/
def jittered (p : RetryPolicy) (chance : Binary64) (wait : Duration) : Duration :=
  if p.jitter.le .zero then wait
  else if p.jitter.isFinite then wait.scale chance
  else .zero

inductive Phase (ε : Type) where
  /-- An attempt is under way; `last` is the error of the attempt before. -/
  | calling (attempt : Nat) (wait : Duration)
  | resting (attempt : Nat) (wait : Duration) (last : ε)
deriving Repr

inductive Action (ε α : Type) where
  | call (phase : Phase ε)
  | rest (delay : Duration) (phase : Phase ε) (event : LogEvent)
  | finish (result : Except ε α) (event : Option LogEvent)

/-- Goes on to an attempt if one is left and the context has not ended. If not, `failure` tells what
comes of it: the error of the attempt before, or that of the context before the first one. -/
def proceed {ε α : Type} (p : RetryPolicy) (failure : ContextError → ε) (attempt : Nat)
    (wait : Duration) (ended : Option ContextError) : Action ε α :=
  if p.attempts < attempt then .finish (.error (failure .cancelled)) none
  else
    match ended with
    | some e => .finish (.error (failure e)) none
    | none => .call (.calling attempt wait)

def start {ε α : Type} (p : RetryPolicy) (ofContext : ContextError → ε)
    (ended : Option ContextError) : Action ε α :=
  p.proceed ofContext 1 p.initialWait ended

def afterCall {ε α : Type} (p : RetryPolicy) (retryable : ε → Bool) (chance : Binary64)
    (attempt : Nat) (wait : Duration) (outcome : Except ε α) : Action ε α :=
  match outcome with
  | .ok a => .finish (.ok a) none
  | .error e =>
    if !retryable e then
      .finish (.error e)
        (some ⟨.debug, "permanent error; not retrying", [("attempt", .integer attempt)]⟩)
    else if attempt = p.attempts then .finish (.error e) none
    else
      let delay := p.jittered chance wait
      .rest delay (.resting attempt wait e)
        ⟨.debug, "retrying after failure",
          [("attempt", .integer attempt), ("delay_ms", .integer delay.millis)]⟩

/-- A wait has come to an end, possibly by the end of the context; `ended` tells whether the context
has ended by now. -/
def afterRest {ε α : Type} (p : RetryPolicy) (attempt : Nat) (wait : Duration) (last : ε)
    (ended : Option ContextError) : Action ε α :=
  p.proceed (fun _ => last) (attempt + 1) (p.nextWait wait) ended

end RetryPolicy
end Courier
