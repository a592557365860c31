import Courier.Reconnecting
import Courier.Proofs.Runs

/-! Any number of operations on one reconnecting transport. Each runs alone up to the point where it has
to wait, and in between any other may go on; dials, connections and contexts answer as they like. What
one step can do to the slot and to connections is said once, and holds of every operation. -/

namespace Courier.Proofs.ReconnectingTasks
open Reconnecting

/-- A step leaves the slot as it is, and asks nobody to close. -/
structure Quiet (slot : Slot) (s : Step) : Prop where
  slot : s.slot = slot
  calm : ∀ c phase, s.next ≠ .ask (.operate c .close) phase

/-- How a step changes who is responsible for connections, given what a dial has just brought. -/
inductive Effect (slot : Slot) : Option Connection → Step → Prop where
  | keep {s : Step} : Quiet slot s → Effect slot none s
  | install {c : Connection} {s : Step} : slot.closed = false → slot.connection = none →
      Quiet { slot with connection := some c } s → Effect slot (some c) s
  | reject {c : Connection} {s : Step} {phase : Phase} : s.slot = slot →
      s.next = .ask (.operate c .close) phase → Effect slot (some c) s
  | remove {c : Connection} {s : Step} {phase : Phase} : slot.connection = some c →
      s.slot = { slot with connection := none } →
      s.next = .ask (.operate c .close) phase → Effect slot none s
  | retire {c : Connection} {s : Step} {phase : Phase} : slot.connection = some c →
      s.slot = { connection := none, closed := true } →
      s.next = .ask (.operate c .close) phase → Effect slot none s
  | shut {s : Step} : slot.connection = none →
      Quiet { connection := none, closed := true } s → Effect slot none s

def gained : Except TransportError Connection → Option Connection
  | .ok c => some c
  | .error _ => none

section
variable (config : Reconnect) (slot : Slot) (ended : Option ContextError)

theorem Quiet.after {slot : Slot} {s : Step} (quiet : Quiet slot s) (reports : List Report) :
    Quiet slot (s.after reports) := ⟨quiet.slot, quiet.calm⟩

private theorem giveUp_quiet (s : Search) (why : TransportError) : Quiet slot (giveUp slot s why) :=
  ⟨rfl, fun _ _ asked => by cases asked⟩

private theorem use_quiet (goal : Goal) (c : Connection) (replaced : Bool) :
    Quiet slot (use slot goal c replaced) := by
  refine ⟨rfl, ?_⟩
  intro other phase asked
  cases goal <;> cases asked

private theorem dialUnless_quiet (s : Search) (wait : Duration) (last : Option TransportError)
    {go : Connection → Step} (found : ∀ c, Quiet slot (go c)) :
    Quiet slot (dialUnless slot ended s wait last go) := by
  unfold dialUnless
  split
  · exact giveUp_quiet slot s _
  · split
    · exact giveUp_quiet slot s _
    · split
      · exact found _
      · exact ⟨rfl, fun _ _ asked => by cases asked⟩

private theorem start_quiet (goal : Goal) : Quiet slot (start config slot ended goal) := by
  unfold start
  simp only
  split
  · exact giveUp_quiet slot _ _
  · split
    · exact use_quiet slot goal _ false
    · exact dialUnless_quiet slot ended _ _ _ (fun c => use_quiet slot goal c false)

private theorem found_quiet (s : Search) (c : Connection) : Quiet slot (found config slot ended s c) := by
  unfold found
  split
  · exact use_quiet slot _ c false
  · exact use_quiet slot _ c true
  · exact start_quiet config slot ended .receive

theorem search_quiet (s : Search) (wait : Duration) (last : Option TransportError) :
    Quiet slot (search config slot ended s wait last) :=
  dialUnless_quiet slot ended s wait last (found_quiet config slot ended s)

private theorem afterDial_effect (s : Search) (wait : Duration) (result : Except TransportError Connection) :
    Effect slot (gained result) (afterDial config slot ended s wait result) := by
  unfold afterDial
  cases result with
  | error why => exact .keep ⟨rfl, fun _ _ asked => by cases asked⟩
  | ok c =>
    simp only
    split
    · exact .reject rfl rfl
    next live =>
      split
      · exact .reject rfl rfl
      next empty =>
        exact .install (by simpa using live) empty ((found_quiet config _ ended s c).after _)

private theorem afterUse_effect (goal : Goal) (c : Connection) (replaced : Bool) (reply : Reply) :
    Effect slot none (afterUse config slot ended goal c replaced reply) := by
  unfold afterUse
  cases reply with
  | ok message => exact .keep ⟨rfl, fun _ _ asked => by cases asked⟩
  | error why =>
    simp only
    split
    · exact .keep ⟨rfl, fun _ _ asked => by cases asked⟩
    · split
      next held => exact .remove held rfl rfl
      next => exact .keep (search_quiet config slot ended _ _ none)

private theorem close_effect : Effect slot none (close slot) := by
  unfold close
  split
  · exact .keep ⟨rfl, fun _ _ asked => by cases asked⟩
  · cases held : slot.connection with
    | some c => exact .retire held rfl rfl
    | none => exact .shut held ⟨rfl, fun _ _ asked => by cases asked⟩

theorem perform_effect (op : Operation) : Effect slot none (perform config slot ended op) := by
  cases op with
  | send m => exact .keep (start_quiet config slot ended (.send m))
  | receive => exact .keep (start_quiet config slot ended .receive)
  | close => exact close_effect slot

/-- What an operation gains by going on; only a dial brings a connection. -/
def gain : Phase → Except TransportError Connection → Option Connection
  | .dialing _ _, result => gained result
  | _, _ => none

theorem resume_effect (phase : Phase) (dialed : Except TransportError Connection) (reply : Reply) :
    Effect slot (gain phase dialed) (resume config slot ended phase dialed reply) := by
  cases phase with
  | dialing s wait => exact afterDial_effect config slot ended s wait dialed
  | resting s wait last => exact .keep (search_quiet config slot ended s _ _)
  | discarding s winner =>
    cases winner with
    | some c => exact .keep ((found_quiet config slot ended s c).after _)
    | none => exact .keep (giveUp_quiet slot s closedError)
  | «using» goal c replaced => exact afterUse_effect config slot ended goal c replaced reply
  | dropping goal cause => exact .keep ((search_quiet config slot ended _ _ none).after _)
  | closing => exact .keep ⟨rfl, fun _ _ asked => by cases asked⟩

theorem Effect.closed {slot : Slot} {new : Option Connection} {s : Step} (effect : Effect slot new s)
    (closed : slot.closed = true) : s.slot.closed = true := by
  cases effect with
  | keep quiet => rw [quiet.slot, closed]
  | install _ _ quiet => rw [quiet.slot]; exact closed
  | reject same _ => rw [same, closed]
  | remove _ same _ => rw [same]; exact closed
  | retire _ same _ => rw [same]
  | shut _ quiet => rw [quiet.slot]

/-- A transport that is closed, and holds no connection any more, stays so. -/
theorem Effect.final {new : Option Connection} {s : Step} (effect : Effect { closed := true } new s) :
    s.slot = { closed := true } := by
  cases effect with
  | keep quiet => exact quiet.slot
  | install live _ _ => cases live
  | reject same _ => exact same
  | remove found _ _ => cases found
  | retire found _ _ => cases found
  | shut _ quiet => exact quiet.slot

private theorem close_closed : (close slot).slot.closed = true := by
  unfold close
  split
  next closed => exact closed
  next => rfl

end

/-- A transport and what has been done with it: the operations that were begun and where each of them
stands, the connections that dials brought, and what was asked for and what was answered. -/
structure System where
  slot : Slot := {}
  begun : List Operation := []
  tasks : List Next := []
  dialed : List Connection := []
  asked : List Request := []
  answered : List Request := []

inductive Event where
  | start (op : Operation) (ended : Option ContextError)
  | answer (task : Nat) (ended : Option ContextError) (dialed : Except TransportError Connection)
      (reply : Reply)

def requests : Next → List Request
  | .ask request _ => [request]
  | .finish _ => []

/-- The state after an event. A task goes on only if it waits. -/
def System.move (config : Reconnect) (s : System) : Event → Option System
  | .start op ended =>
    let r := perform config s.slot ended op
    some { s with
      slot := r.slot
      begun := s.begun ++ [op]
      tasks := s.tasks ++ [r.next]
      asked := s.asked ++ requests r.next }
  | .answer task ended dialed reply =>
    match s.tasks[task]? with
    | some (.ask request phase) =>
      let r := resume config s.slot ended phase dialed reply
      some { s with
        slot := r.slot
        tasks := s.tasks.set task r.next
        dialed := s.dialed ++ (gain phase dialed).toList
        asked := s.asked ++ requests r.next
        answered := s.answered ++ [request] }
    | _ => none

def System.brought (s : System) : Event → Option Connection
  | .start _ _ => none
  | .answer task _ dialed _ =>
    match s.tasks[task]? with
    | some (.ask _ phase) => gain phase dialed
    | _ => none

/-- The state after an event, where no dial brings a connection that another has brought. -/
def System.step (config : Reconnect) (s : System) (event : Event) : Option System :=
  if ∀ c ∈ s.brought event, c ∉ s.dialed then s.move config event else none

abbrev Reachable (config : Reconnect) (s : System) : Prop := Leads (System.step config) {} s

section
variable {config : Reconnect} {s after : System} {event : Event} {task : Nat} {ended : Option ContextError}
  {dialed : Except TransportError Connection} {reply : Reply}

theorem step_iff :
    s.step config event = some after ↔
      (∀ c ∈ s.brought event, c ∉ s.dialed) ∧ s.move config event = some after :=
  Option.ite_none_right_eq_some

/-- A task that is answered was waiting, and resumes. -/
theorem move_answer (moved : s.move config (.answer task ended dialed reply) = some after) :
    ∃ request phase, s.tasks[task]? = some (.ask request phase) ∧
      s.brought (.answer task ended dialed reply) = gain phase dialed ∧ after =
      { s with
        slot := (resume config s.slot ended phase dialed reply).slot
        tasks := s.tasks.set task (resume config s.slot ended phase dialed reply).next
        dialed := s.dialed ++ (gain phase dialed).toList
        asked := s.asked ++ requests (resume config s.slot ended phase dialed reply).next
        answered := s.answered ++ [request] } := by
  simp only [System.move] at moved
  split at moved
  next request phase waits =>
    cases moved
    exact ⟨request, phase, waits, by simp only [System.brought, waits], rfl⟩
  next => cases moved

theorem answer_cases (stepped : s.step config (.answer task ended dialed reply) = some after) :
    ∃ request phase, s.tasks[task]? = some (.ask request phase) ∧
      (∀ c ∈ gain phase dialed, c ∉ s.dialed) ∧ after =
      { s with
        slot := (resume config s.slot ended phase dialed reply).slot
        tasks := s.tasks.set task (resume config s.slot ended phase dialed reply).next
        dialed := s.dialed ++ (gain phase dialed).toList
        asked := s.asked ++ requests (resume config s.slot ended phase dialed reply).next
        answered := s.answered ++ [request] } := by
  obtain ⟨fresh, moved⟩ := step_iff.mp stepped
  obtain ⟨request, phase, waits, brought, rfl⟩ := move_answer moved
  exact ⟨request, phase, waits, brought ▸ fresh, rfl⟩

/-- What an event can be: the first step of a new task, or a further step of one that waits. -/
theorem move_cases (moved : s.move config event = some after) :
    (∃ op r, Effect s.slot none r ∧ (op = .close → r.slot.closed = true) ∧ after =
      { s with
        slot := r.slot
        begun := s.begun ++ [op]
        tasks := s.tasks ++ [r.next]
        asked := s.asked ++ requests r.next }) ∨
    (∃ task request phase r, s.tasks[task]? = some (.ask request phase) ∧
      Effect s.slot (s.brought event) r ∧ after =
      { s with
        slot := r.slot
        tasks := s.tasks.set task r.next
        dialed := s.dialed ++ (s.brought event).toList
        asked := s.asked ++ requests r.next
        answered := s.answered ++ [request] }) := by
  cases event with
  | start op ended =>
    cases moved
    refine .inl ⟨op, _, perform_effect config s.slot ended op, ?_, rfl⟩
    rintro rfl
    exact close_closed s.slot
  | answer task ended dialed reply =>
    obtain ⟨request, phase, waits, brought, rfl⟩ := move_answer moved
    rw [brought]
    exact .inr ⟨task, request, phase, _, waits, resume_effect config s.slot ended phase dialed reply, rfl⟩

theorem step_cases (stepped : s.step config event = some after) :
    (∃ op r, Effect s.slot none r ∧ (op = .close → r.slot.closed = true) ∧ after =
      { s with
        slot := r.slot
        begun := s.begun ++ [op]
        tasks := s.tasks ++ [r.next]
        asked := s.asked ++ requests r.next }) ∨
    (∃ task request phase new r, s.tasks[task]? = some (.ask request phase) ∧ Effect s.slot new r ∧
      (∀ c ∈ new, c ∉ s.dialed) ∧ after =
      { s with
        slot := r.slot
        tasks := s.tasks.set task r.next
        dialed := s.dialed ++ new.toList
        asked := s.asked ++ requests r.next
        answered := s.answered ++ [request] }) := by
  obtain ⟨fresh, moved⟩ := step_iff.mp stepped
  rcases move_cases moved with began | ⟨task, request, phase, r, waits, effect, rfl⟩
  · exact .inl began
  · exact .inr ⟨task, request, phase, _, r, waits, effect, fresh, rfl⟩

end

end Courier.Proofs.ReconnectingTasks
