import Courier.Proofs.ReconnectingSections

/-! One send or receive that has a reconnecting transport for itself, with a record of what it makes known, what
it asks and what it is answered. Its context may end at any moment, also between two looks. -/

namespace Courier.Proofs.ReconnectingCalls
open Reconnecting ReconnectingSections

inductive Entry where
  | told (r : Report)
  /-- The slot is as it is when the request is made. -/
  | asked (slot : Slot) (request : Request)
  | answered (request : Request) (a : Answer)

structure Call where
  slot : Slot
  ended : Option ContextError
  stage : Stage
  log : List Entry := []

inductive Event where
  | ends (e : ContextError)
  | look
  | answer (a : Answer)

/-- Who looks at the context finds it as it is, and a rest is interrupted only by its end. -/
def admits (ended : Option ContextError) : Answer → Bool
  | .replied _ seen => seen = ended
  | .interrupted => ended.isSome
  | _ => true

namespace Call

def start (slot : Slot) (ended : Option ContextError) (goal : Goal) : Call :=
  { slot, ended, stage := .entering goal }

def turn (c : Call) (heard : List Entry) (t : Turn) : Call where
  slot := t.slot
  ended := c.ended
  stage := t.stage
  log := c.log ++ (heard ++ (t.reports.map .told ++ (requests t.stage).map (.asked t.slot)))

def step (config : Reconnect) (c : Call) : Event → Option Call
  | .ends e => if c.ended.isSome then none else some { c with ended := some e }
  | .look => (c.stage.step config c.slot c.ended).map (c.turn [])
  | .answer a =>
    match c.stage with
    | .standing (.ask request phase) =>
      if admits c.ended a then (answer config c.slot phase a).map (c.turn [.answered request a]) else none
    | _ => none

end Call

inductive Moved (config : Reconnect) (c : Call) : Event → Call → Prop where
  | ends {e : ContextError} : c.ended = none → Moved config c (.ends e) { c with ended := some e }
  | look {t : Turn} : c.stage.step config c.slot c.ended = some t → Moved config c .look (c.turn [] t)
  | answer {request : Request} {phase : Phase} {a : Answer} {t : Turn} : c.stage = .standing (.ask request phase) →
      admits c.ended a = true → answer config c.slot phase a = some t →
      Moved config c (.answer a) (c.turn [.answered request a] t)

section
variable {config : Reconnect} {c after : Call} {event : Event}

theorem step_moved (moved : c.step config event = some after) : Moved config c event after := by
  cases event with
  | ends e =>
    simp only [Call.step] at moved
    split at moved <;> cases moved
    next live => exact .ends (by simpa using live)
  | look =>
    obtain ⟨t, stepped, rfl⟩ := Option.map_eq_some_iff.mp moved
    exact .look stepped
  | answer a =>
    simp only [Call.step] at moved
    split at moved
    next request phase waits =>
      split at moved
      next admitted =>
        obtain ⟨t, answered, rfl⟩ := Option.map_eq_some_iff.mp moved
        exact .answer waits admitted answered
      next => cases moved
    next => cases moved

theorem Moved.finished {reply : Reply} (moved : Moved config c event after)
    (finished : c.stage = .standing (.finish reply)) : after = { c with ended := after.ended } := by
  cases moved with
  | ends _ => rfl
  | look stepped =>
    rw [finished] at stepped
    cases stepped
  | answer waits _ _ =>
    rw [finished] at waits
    cases waits

end

/-! ### Looks that nothing comes between -/

section
variable {config : Reconnect} {slot : Slot} {ended : Option ContextError}

private theorem alone_leads {t last : Turn} (led : Leads (alone config ended) t last) (log : List Entry) :
    ∃ c, Leads (Call.step config) ⟨t.slot, ended, t.stage, log⟩ c ∧ c.slot = last.slot ∧ c.ended = ended ∧
      c.stage = last.stage := by
  obtain ⟨events, ran⟩ := led
  induction events generalizing t log with
  | nil =>
    cases ran
    exact ⟨_, ⟨[], rfl⟩, rfl, rfl, rfl⟩
  | cons event events ih =>
    rw [List.foldlM_cons] at ran
    obtain ⟨next, moved, ran⟩ := Option.bind_eq_some_iff.mp ran
    obtain ⟨turn, stepped, rfl⟩ := Option.map_eq_some_iff.mp moved
    obtain ⟨c, led, ends⟩ := ih (Call.turn ⟨t.slot, ended, t.stage, log⟩ [] turn).log ran
    have looked : Call.step config ⟨t.slot, ended, t.stage, log⟩ .look =
        some (Call.turn ⟨t.slot, ended, t.stage, log⟩ [] turn) := by
      simp only [Call.step, stepped, Option.map_some]
    exact ⟨c, Leads.trans (Leads.step ⟨[], rfl⟩ .look looked) led, ends⟩

/-- A call begins with the first step of its operation, if nothing comes between its looks. -/
theorem perform_leads (goal : Goal) : ∃ c, Leads (Call.step config) (.start slot ended goal) c ∧
    c.slot = (perform config slot ended goal.operation).slot ∧ c.ended = ended ∧
    c.stage = .standing (perform config slot ended goal.operation).next := by
  cases goal with
  | send m => exact alone_leads (perform_alone config ended slot (.send m)) []
  | receive => exact alone_leads (perform_alone config ended slot .receive) []

/-- A call that is answered goes on with a further step of its operation. -/
theorem resume_leads {c : Call} {request : Request} {phase : Phase}
    (waits : c.stage = .standing (.ask request phase)) (dialed : Except TransportError Connection) (reply : Reply) :
    ∃ after, Leads (Call.step config) c after ∧
      after.slot = (resume config c.slot c.ended phase dialed reply).slot ∧ after.ended = c.ended ∧
      after.stage = .standing (resume config c.slot c.ended phase dialed reply).next := by
  obtain ⟨t, answered, led⟩ := resume_alone config c.ended c.slot phase dialed reply
  have admitted : admits c.ended (answerOf c.ended dialed reply phase) = true := by
    cases phase with
    | resting _ _ _ => cases ended : c.ended <;> rfl
    | dialing _ _ => rfl
    | _ => simp [admits, answerOf]
  have heard : c.step config (.answer (answerOf c.ended dialed reply phase)) =
      some (c.turn [.answered request (answerOf c.ended dialed reply phase)] t) := by
    simp only [Call.step, waits, admitted, if_true, answered, Option.map_some]
  obtain ⟨after, led, ends⟩ :=
    alone_leads led (c.turn [.answered request (answerOf c.ended dialed reply phase)] t).log
  exact ⟨after, Leads.trans (Leads.step ⟨[], rfl⟩ _ heard) led, ends⟩

end

end Courier.Proofs.ReconnectingCalls
