import Courier.Breaker
import Courier.CodedError
import Courier.Observation
import Courier.Simulation.Clock

/-! A circuit breaker at work: calls that overlap, on a virtual clock. -/

namespace Courier.Simulation

/-- A named breaker with the calls that are under way. -/
structure Guarded where
  name : String := "default"
  breaker : Breaker
  clock : Clock := {}
  running : List (String × Permit × Context) := []
  seen : List Observation := []

namespace Guarded

/-- Takes over a breaker and what it made known. -/
def take (g : Guarded) (breaker : Breaker) (events : List BreakerEvent) : Guarded :=
  let seen := events.flatMap fun e =>
    ((e.log? g.name).map Observation.event).toList ++ [.count (e.metric g.name)]
  { g with breaker, seen := g.seen ++ seen }

def read (g : Guarded) : Guarded :=
  let (breaker, events) := g.breaker.read g.clock.now
  g.take breaker events

def allow (g : Guarded) : Option Permit × Guarded :=
  let (permit, breaker, events) := g.breaker.allow g.clock.now
  (permit, g.take breaker events)

def complete (g : Guarded) (permit : Permit) (ctx : Context) (result : Except CodedError Unit) :
    Guarded :=
  let ok := result matches .ok _
  let (breaker, events) := g.breaker.complete permit ok (g.clock.ended? ctx) g.clock.now
  g.take breaker events

def call (g : Guarded) (ctx : Context) (takes : Duration) (result : Except CodedError Unit) :
    Breaker.Outcome CodedError Unit × Guarded :=
  match g.allow with
  | (none, g) => (.rejected, g)
  | (some permit, g) =>
    let g := { g with clock := g.clock.sleep takes none }
    (.returned result, g.complete permit ctx result)

/-- Starts a call that stays under way; tells whether it was admitted. -/
def start (g : Guarded) (id : String) (ctx : Context) : Bool × Guarded :=
  match g.allow with
  | (none, g) => (false, g)
  | (some permit, g) => (true, { g with running := (id, permit, ctx) :: g.running })

/-- Takes a call out of those under way. -/
def takeOut (g : Guarded) (id : String) : Option (Permit × Context) × Guarded :=
  (g.running.lookup id, { g with running := g.running.filter (·.1 ≠ id) })

/-- A call under way comes to an end. -/
def finish (g : Guarded) (id : String) (result : Except CodedError Unit) : Guarded :=
  match g.takeOut id with
  | (some (permit, ctx), g) => g.complete permit ctx result
  | (none, g) => g

def abort (g : Guarded) (id : String) : Guarded :=
  match g.takeOut id with
  | (some (permit, _), g) => { g with breaker := g.breaker.drop permit }
  | (none, g) => g

def cancel (g : Guarded) (id : String) : Guarded :=
  match g.running.lookup id with
  | some (_, ctx) => { g with clock := g.clock.cancel (ctx.tokens.headD 0) }
  | none => g

end Guarded
end Courier.Simulation
