/-! Locks that are handed on in the order in which they were asked for. -/

namespace Courier

/-- Who holds a lock and who waits for it, the first to have asked first. Everyone who asks gets a
ticket of their own. -/
structure Lock where
  holder : Option Nat := none
  waiting : List Nat := []
  nextTicket : Nat := 0
deriving Repr, DecidableEq, Inhabited

namespace Lock

/-- Asks for the lock. A free lock is held at once. -/
def acquire (l : Lock) : Nat × Lock :=
  let l' := { l with nextTicket := l.nextTicket + 1 }
  match l.holder with
  | none => (l.nextTicket, { l' with holder := some l.nextTicket })
  | some _ => (l.nextTicket, { l' with waiting := l.waiting ++ [l.nextTicket] })

def isHeldBy (l : Lock) (ticket : Nat) : Bool := l.holder = some ticket

/-- Gives the lock to the first who waits. -/
def handOn (l : Lock) : Lock :=
  match l.waiting with
  | [] => { l with holder := none }
  | ticket :: rest => { l with holder := some ticket, waiting := rest }

/-- Gives up a ticket, whether it holds the lock or still waits for it. -/
def release (l : Lock) (ticket : Nat) : Lock :=
  if l.isHeldBy ticket then l.handOn else { l with waiting := l.waiting.erase ticket }

end Lock
end Courier
