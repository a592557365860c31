import Courier.Log
import Courier.Metrics

/-! What an operation lets others see: events for the log and counts. -/

namespace Courier

inductive Observation where
  | event (e : LogEvent)
  | count (m : Metric)
deriving Repr

namespace Observation

def counts (seen : List Observation) : Counts := seen.filterMap fun
  | count m => some m
  | event _ => none

def events (seen : List Observation) : List LogEvent := seen.filterMap fun
  | event e => some e
  | count _ => none

end Observation
end Courier
