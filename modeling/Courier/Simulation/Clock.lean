import Courier.Context

/-! A virtual clock. Time stands still while something can run, and then jumps to the next point at which
something happens. Sleeps and waits for a deadline end on whole milliseconds. -/

namespace Courier.Simulation

def millisecond : Nat := 1000000

/-- The first whole millisecond that is not before an instant. -/
def wholeMillis (t : Instant) : Instant := (t + millisecond - 1) / millisecond * millisecond

/-- The time, what has been cancelled by now, and what will be cancelled when. -/
structure Clock where
  now : Instant := 0
  cancelled : List Token := []
  planned : List (Instant × Token) := []
  nextToken : Token := 0
deriving Repr, Inhabited

namespace Clock

def freshToken (c : Clock) : Token × Clock := (c.nextToken, { c with nextToken := c.nextToken + 1 })

def cancel (c : Clock) (token : Token) : Clock := { c with cancelled := token :: c.cancelled }

/-- Has a token cancelled at a later time. -/
def plan (c : Clock) (at_ : Instant) (token : Token) : Clock :=
  { c with planned := (wholeMillis at_, token) :: c.planned }

/-- Lets the time go on to an instant, and does what was planned for it. -/
def advanceTo (c : Clock) (t : Instant) : Clock :=
  let now := max c.now t
  let (due, later) := c.planned.partition fun (t, _) => t ≤ now
  { c with now, planned := later, cancelled := due.map (·.2) ++ c.cancelled }

def ended? (c : Clock) (ctx : Context) : Option ContextError := ctx.ended? c.cancelled c.now

/-- The earlier of two instants, of which either may be missing. -/
def earlier (a b : Option Instant) : Option Instant :=
  match a, b with
  | some a, some b => some (min a b)
  | some a, none => some a
  | none, b => b

/-- The instant at which someone who waits for the end of a context is woken, if that is known. -/
def endOf (c : Clock) (ctx : Context) : Option Instant :=
  if (c.ended? ctx).isSome then some c.now
  else
    (c.planned.filter fun (_, token) => ctx.tokens.contains token).foldl
      (fun found (t, _) => earlier found (some t)) (ctx.deadline.map wholeMillis)

def after (c : Clock) (d : Duration) : Instant := wholeMillis (c.now + d.nanos)

/-- Sleeps for a while, or until a context ends if one is given. -/
def sleep (c : Clock) (d : Duration) (ctx : Option Context) : Clock :=
  let wake := c.after d
  c.advanceTo ((earlier (ctx.bind c.endOf) (some wake)).getD wake)

end Clock

end Courier.Simulation
