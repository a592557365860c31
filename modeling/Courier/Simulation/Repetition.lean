import Courier.CodedError
import Courier.Retry
import Courier.Simulation.Clock

/-! A retry policy at work on an operation whose outcomes are laid down beforehand. -/

namespace Courier.Simulation

structure Repetition where
  policy : RetryPolicy
  retryable : CodedError → Bool := fun _ => true
  /-- What becomes of each call; the last is repeated, and without any all calls succeed. -/
  outcomes : List (Except CodedError Unit) := []
  callTime : Duration := .zero
  /-- The call, from 1, that cancels the context before it returns. -/
  cancelInCall : Option Nat := none

structure RepetitionLog where
  /-- When the calls started, the last first. -/
  calls : List Instant := []
  events : List LogEvent := []
  clock : Clock
  /-- The number of the call that succeeded, or the error. -/
  result : Except CodedError Nat

namespace Repetition

def outcome (r : Repetition) (call : Nat) : Except CodedError Nat :=
  match r.outcomes[call - 1]? with
  | some o => o.map fun _ => call
  | none => (r.outcomes.getLastD (.ok ())).map fun _ => call

def makeCall (r : Repetition) (ctx : Context) (clock : Clock) (call : Nat) : Clock :=
  let clock := clock.sleep r.callTime none
  if r.cancelInCall = some call then clock.cancel (ctx.tokens.headD 0) else clock

/-- Does what the policy asks for, at most `fuel` calls and waits. -/
def go (r : Repetition) (ctx : Context) (calls : List Instant) (events : List LogEvent) (clock : Clock)
    (action : RetryPolicy.Action CodedError Nat) : Nat → RepetitionLog
  | 0 => { calls, events, clock, result := .error (CodedError.ofCode .internal "") }
  | fuel + 1 =>
    match action with
    | .finish result event => { calls, events := events ++ event.toList, clock, result }
    | .rest delay phase event =>
      let clock := if (clock.ended? ctx).isSome then clock else clock.sleep delay (some ctx)
      let next :=
        match phase with
        | .resting attempt wait last => r.policy.afterRest attempt wait last (clock.ended? ctx)
        | .calling _ _ => .call phase
      r.go ctx calls (events ++ [event]) clock next fuel
    | .call phase =>
      let call := calls.length + 1
      let start := clock.now
      let clock := r.makeCall ctx clock call
      let next :=
        match phase with
        | .calling attempt wait =>
          r.policy.afterCall r.retryable (.ofNat 1) attempt wait (r.outcome call)
        | .resting _ _ _ => .call phase
      r.go ctx (start :: calls) events clock next fuel

def run (r : Repetition) (ctx : Context) (clock : Clock) : RepetitionLog :=
  r.go ctx [] [] clock (r.policy.start ContextError.toCoded (clock.ended? ctx))
    (2 * r.policy.attempts + 2)

end Repetition
end Courier.Simulation
