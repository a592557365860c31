import Courier.Observation
import Courier.Payload
import Courier.Transport.Operation

/-! Sending finished spans to a collector. Spans are worth less than the work that they are about, so
a failure is counted and never returned. -/

namespace Courier

def messagePath : String := "/mist"

/-- A sender of spans. One that is not enabled discards them. -/
structure Reporter where
  source : String
  enabled : Bool := true
  metered : Bool := false
  dropped : Nat := 0
deriving Repr, DecidableEq, Inhabited

namespace Reporter

/-- Where the collector at an address takes messages; an empty address stands for no collector. -/
def target? (collector : String) : Option String :=
  if collector.isEmpty then none
  else
    some (String.ofList (collector.toList.reverse.dropWhile (· = '/')).reverse ++ messagePath)

def ofCollector (source collector : String) : Reporter :=
  { source, enabled := (target? collector).isSome }

def withMetrics (r : Reporter) : Reporter := { r with metered := true }

def message (r : Reporter) (id : String) (now : Int) (span : Payload.TraceSpan) : Message :=
  .ofPayload Payload.TraceSpan.codec id now r.source Payload.Kind.traceSpan.name span

/-- What a report asks its transport to send. -/
def start (r : Reporter) (id : String) (now : Int) (span : Payload.TraceSpan) : Option Message :=
  if r.enabled then some (r.message id now span) else none

/-- Sending has come to an end on a transport that is called `transport`. -/
def afterSend (r : Reporter) (transport : String) : Reply → Reporter × List Observation
  | .ok _ => (r, [])
  | .error why =>
    ({ r with dropped := r.dropped + 1 },
      (if r.metered then [.count (.dropped transport)] else []) ++
        [.event ⟨.debug, "dropping span",
          [("transport", .text transport), ("error", .text why.message)]⟩])

def describe (r : Reporter) : String :=
  s!"SpanReporter \x7b source: {Text.quoted r.source}, enabled: {r.enabled}" ++
    s!", dropped: {r.dropped} \x7d"

end Reporter
end Courier
