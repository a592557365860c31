import Courier.Context
import Courier.Log
import Courier.Transport.Operation

/-! Sending for those who rather wait than drop a message: after each refusal the sender waits, at first
for one millisecond, then twice as long as before, up to a tenth of a second. Only the end of the
context ends it without success. -/

namespace Courier.Backpressure

def firstWait : Duration := .ofMillis 1
def longestWait : Duration := .ofMillis 100

def nextWait (wait : Duration) : Duration := min wait.doubled longestWait

inductive Phase where
  | sending (wait : Duration)
  | resting (wait : Duration)
deriving Repr, DecidableEq, Inhabited

inductive Next where
  | send (wait : Duration)
  | rest (wait : Duration) (event : LogEvent)
  | finish (reply : Reply)
deriving Repr

def start : Next := .send firstWait

def afterSend (wait : Duration) : Reply → Next
  | .ok m => .finish (.ok m)
  | .error why =>
    .rest wait
      ⟨.trace, "send rejected; backing off",
        [("error", .text why.message), ("wait_ms", .integer wait.millis)]⟩

/-- A wait has come to an end, possibly by the end of the context. -/
def afterRest (wait : Duration) : Option ContextError → Next
  | some e => .finish (.error (.context e))
  | none => .send (nextWait wait)

end Courier.Backpressure
