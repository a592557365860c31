import Courier.Context
import Courier.Transport.Operation

/-! A transport that follows a script: what becomes of each operation is laid down beforehand. What it
accepts it gives out again. -/

namespace Courier.Simulation

inductive Outcome where
  | ok
  /-- It never ends by itself. -/
  | block
  | fail (why : TransportError)
  | message (m : Message)
  | after (delay : Duration) (next : Outcome)
deriving Repr, Inhabited

/-- A transport with a script. When the script is at its end, sends succeed, and receives give what was
accepted. -/
structure Script where
  name : String := "script"
  sends : List Outcome := []
  receives : List Outcome := []
  closing : Outcome := .ok
  accepted : List Message := []
  calls : List (Operation × Instant) := []
deriving Repr, Inhabited

namespace Script

/-- What becomes of an operation, and the script after it. -/
def call (s : Script) (op : Operation) (now : Instant) : Outcome × Script :=
  let s := { s with calls := s.calls ++ [(op, now)] }
  match op with
  | .send _ =>
    match s.sends with
    | [] => (.ok, s)
    | o :: rest => (o, { s with sends := rest })
  | .receive =>
    match s.receives with
    | [] => (.ok, s)
    | o :: rest => (o, { s with receives := rest })
  | .close => (s.closing, s)

/-- The end of an operation with a good outcome. A receive that finds nothing has none. -/
def settle (s : Script) : Operation → Option Reply × Script
  | .send m => (some (.ok none), { s with accepted := s.accepted ++ [m] })
  | .receive =>
    match s.accepted with
    | [] => (none, s)
    | m :: rest => (some (.ok (some m)), { s with accepted := rest })
  | .close => (some (.ok none), s)

end Script
end Courier.Simulation
