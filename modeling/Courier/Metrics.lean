import Courier.Json.Value

/-! Counters by labels. What is counted is said by `Metric`; a registry holds how often. -/

namespace Courier

/-- Something that is counted, with the labels that tell counts apart. -/
inductive Metric where
  | transition (breaker toState : String)
  | rejection (breaker : String)
  | sent (transport : String)
  | received (transport : String)
  | sendFailure (transport : String)
  | dropped (transport : String)
  /-- A sample of the time that a send took. -/
  | sendLatency (transport : String)
deriving Repr, DecidableEq

namespace Metric

def family : Metric → String
  | transition _ _ => "mist_circuit_breaker_transitions_total"
  | rejection _ => "mist_circuit_breaker_rejections_total"
  | sent _ => "mist_transport_messages_sent_total"
  | received _ => "mist_transport_messages_received_total"
  | sendFailure _ => "mist_transport_send_failures_total"
  | dropped _ => "mist_transport_messages_dropped_total"
  | sendLatency _ => "mist_transport_send_latency_seconds"

def help : Metric → String
  | transition _ _ => "State transitions performed by circuit breakers"
  | rejection _ => "Calls rejected without invoking the guarded function"
  | sent _ => "Messages delivered by transports"
  | received _ => "Messages received from transports"
  | sendFailure _ => "Send attempts that returned an error"
  | dropped _ => "Best-effort messages discarded after a failed send"
  | sendLatency _ => "Wall time of a send including retries"

def labels : Metric → List (String × String)
  | transition breaker toState => [("breaker", breaker), ("to", toState)]
  | rejection breaker => [("breaker", breaker)]
  | sent transport => [("transport", transport)]
  | received transport => [("transport", transport)]
  | sendFailure transport => [("transport", transport)]
  | dropped transport => [("transport", transport)]
  | sendLatency transport => [("transport", transport)]

end Metric

abbrev Counts := List Metric

namespace Counts

def value (counts : Counts) (m : Metric) : Nat := counts.count m

/-- Whether one metric comes before another: by family, then by the values of the labels. -/
def before (a b : Metric) : Bool :=
  let key (m : Metric) : List String := m.family :: m.labels.map (·.2)
  key a < key b

def insert (m : Metric) : List Metric → List Metric
  | [] => [m]
  | other :: rest =>
    if m = other then other :: rest
    else if before m other then m :: other :: rest
    else other :: insert m rest

/-- All metrics that were counted, families by name and then by the values of their labels. -/
def gather (counts : Counts) : List (Metric × Nat) :=
  (counts.foldl (fun done m => insert m done) []).map fun m => (m, counts.value m)

end Counts
end Courier
