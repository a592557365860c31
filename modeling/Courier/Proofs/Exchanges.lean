import Courier.Simulation.Task

/-! What a task hears of the transports that it calls. A call may take its time, and others may do to the world
what they like meanwhile: the task learns how the operation has ended, and looks at its context when it does. -/

namespace Courier.Proofs.Exchanges
open Simulation

/-- An operation that a transport was asked for, how it ended, and how the caller's context stood by then. -/
structure Exchange where
  place : Place
  op : Operation
  reply : Reply
  ended : Option ContextError

/-- Where it succeeds, a receive gives a message, and other operations give nothing. -/
def fits : Operation → Reply → Bool
  | _, .error _ => true
  | .receive, .ok found => found.isSome
  | .send _, .ok found => found.isNone
  | .close, .ok found => found.isNone

/-- A task that waits for an operation hears how it has ended, and goes on. -/
def hear (w : World) (next : Next) (reply : Reply) : Option ((World × Next) × Exchange) :=
  match next with
  | .call ctx frame place op =>
    if fits op reply then some (w.resume ctx reply frame, ⟨place, op, reply, w.ended? ctx⟩) else none
  | _ => none

theorem hear_cases {w : World} {next : Next} {reply : Reply} {result : World × Next} {heard : Exchange}
    (hears : hear w next reply = some (result, heard)) :
    ∃ ctx frame place op, next = .call ctx frame place op ∧ fits op reply = true ∧
      result = w.resume ctx reply frame ∧ heard = ⟨place, op, reply, w.ended? ctx⟩ := by
  unfold hear at hears
  split at hears
  next ctx frame place op =>
    split at hears
    next answers =>
      cases hears
      exact ⟨ctx, frame, place, op, rfl, answers, rfl, rfl⟩
    next => cases hears
  next => cases hears

def Exchange.received? (source : Place) : Exchange → Option Message
  | ⟨place, .receive, .ok found, _⟩ => if place = source then found else none
  | _ => none

def Exchange.delivered? (destination : Place) : Exchange → Option Message
  | ⟨place, .send m, .ok _, _⟩ => if place = destination then some m else none
  | _ => none

def received (source : Place) (log : List Exchange) : List Message := log.filterMap (Exchange.received? source)

def delivered (destination : Place) (log : List Exchange) : List Message :=
  log.filterMap (Exchange.delivered? destination)

section
variable (at_ : Place) (log : List Exchange)

theorem received_concat (e : Exchange) :
    received at_ (log ++ [e]) = received at_ log ++ (e.received? at_).toList := by
  rw [received, List.filterMap_append, List.filterMap_cons]
  cases e.received? at_ <;> rfl

theorem delivered_concat (e : Exchange) :
    delivered at_ (log ++ [e]) = delivered at_ log ++ (e.delivered? at_).toList := by
  rw [delivered, List.filterMap_append, List.filterMap_cons]
  cases e.delivered? at_ <;> rfl

variable (place : Place) (op : Operation) (why : TransportError) (ended : Option ContextError)

theorem received_failed : received at_ (log ++ [⟨place, op, .error why, ended⟩]) = received at_ log := by
  rw [received_concat]
  cases op <;> exact List.append_nil _

theorem delivered_failed : delivered at_ (log ++ [⟨place, op, .error why, ended⟩]) = delivered at_ log := by
  rw [delivered_concat]
  cases op <;> exact List.append_nil _

end

end Courier.Proofs.Exchanges
