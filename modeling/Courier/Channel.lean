import Courier.Transport.Operation

/-! Bounded queues of messages in memory. A sender never waits: a full queue refuses. A receiver that
finds the queue empty takes a ticket and sleeps until the ticket is called or its context ends. A
message calls one ticket, in the order in which they were taken, or leaves one permit for the next
taker; closing calls all of them. A caller that leaves after its ticket was called passes the call on. -/

namespace Courier

abbrev Ticket := Nat

structure Queue where
  capacity : Nat
  items : List Message := []
  closed : Bool := false
  /-- Tickets of sleeping receivers, the first taken first. -/
  waiting : List Ticket := []
  /-- Tickets called by a message, whose receivers have not woken yet. -/
  called : List Ticket := []
  /-- Tickets called by closing, whose receivers have not woken yet. -/
  released : List Ticket := []
  /-- A call that found nobody asleep. -/
  permit : Bool := false
  nextTicket : Ticket := 0
deriving Repr, Inhabited

namespace Queue

/-- Calls the first ticket, or leaves a permit. -/
def callOne (q : Queue) : Queue :=
  match q.waiting with
  | [] => { q with permit := true }
  | ticket :: rest => { q with waiting := rest, called := q.called ++ [ticket] }

/-- Takes a message in if there is room. Nobody is called yet. -/
def accept (q : Queue) (m : Message) : Except TransportError Queue :=
  if q.closed then .error (.closed "channel")
  else if q.capacity ≤ q.items.length then .error .bufferFull
  else .ok { q with items := q.items ++ [m] }

def push (q : Queue) (m : Message) : Except TransportError Queue := (q.accept m).map callOne

/-- Closes the queue for senders. What is queued can still be received. -/
def shut (q : Queue) : Queue := { q with closed := true }

def callAll (q : Queue) : Queue := { q with waiting := [], released := q.released ++ q.waiting }

def close (q : Queue) : Queue := q.shut.callAll

/-- Takes out the first message; there is none to take while the queue is empty and open. -/
def take (q : Queue) : Except TransportError (Option Message) × Queue :=
  match q.items with
  | m :: rest => (.ok (some m), { q with items := rest })
  | [] => (if q.closed then .error (.closed "channel") else .ok none, q)

/-- Takes a ticket; `none` uses up the permit and need not sleep. -/
def takeTicket (q : Queue) : Option Ticket × Queue :=
  if q.permit then (none, { q with permit := false })
  else
    (some q.nextTicket,
      { q with waiting := q.waiting ++ [q.nextTicket], nextTicket := q.nextTicket + 1 })

def isCalled (q : Queue) : Option Ticket → Bool
  | some ticket => q.called.contains ticket || q.released.contains ticket
  | none => true

/-- Forgets the ticket of a receiver that has woken because of it. -/
def redeem (q : Queue) : Option Ticket → Queue
  | some ticket => { q with called := q.called.erase ticket, released := q.released.erase ticket }
  | none => q

/-- Forgets a ticket whose receiver left for another reason; the call of a message goes to the next. -/
def leave (q : Queue) (ticket : Ticket) : Queue :=
  let passesOn := q.called.contains ticket
  let q := { q with waiting := q.waiting.erase ticket, called := q.called.erase ticket,
                    released := q.released.erase ticket }
  if passesOn then q.callOne else q

def giveUp (q : Queue) : Option Ticket → Queue
  | some ticket => q.leave ticket
  | none => q

inductive Poll where
  | got (m : Message)
  | failed (e : TransportError)
  /-- Nothing yet: sleep, unless there is no ticket to sleep on. -/
  | sleep (ticket : Option Ticket)
deriving Repr

/-- Takes a ticket, then looks for a message. A ticket that turns out not to be needed is given back. -/
def poll (q : Queue) : Poll × Queue :=
  let (ticket, q) := q.takeTicket
  match q.take with
  | (.ok (some m), q) => (.got m, q.giveUp ticket)
  | (.error e, q) => (.failed e, q.giveUp ticket)
  | (.ok none, q) => (.sleep ticket, q)

def receive (q : Queue) (ended : Option ContextError) : Poll × Queue :=
  match ended with
  | some e => (.failed (.context e), q)
  | none => q.poll

def wake (q : Queue) (ticket : Option Ticket) : Poll × Queue := (q.redeem ticket).poll

def send (q : Queue) (ended : Option ContextError) (m : Message) : Except TransportError Queue :=
  match ended with
  | some e => .error (.context e)
  | none => q.push m

end Queue

/-- One end of a channel: the queue that it sends to and the one that it receives from, by number. A
loopback has the same queue for both. -/
structure ChannelEnd where
  outbound : Nat
  inbound : Nat
deriving Repr, DecidableEq, Inhabited

namespace ChannelEnd

def loopback (q : Nat) : ChannelEnd := ⟨q, q⟩

/-- Two ends, each of which receives what the other sends. -/
def pair (there back : Nat) : ChannelEnd × ChannelEnd := (⟨there, back⟩, ⟨back, there⟩)

def queueOf (e : ChannelEnd) : Operation → Nat
  | .receive => e.inbound
  | .send _ | .close => e.outbound

end ChannelEnd
end Courier
