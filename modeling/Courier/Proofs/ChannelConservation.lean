import Courier.Proofs.ChannelTasks

/-! Channels neither lose nor repeat a message, and keep messages in order. At every moment, what a
direction has accepted is what its receivers were handed, followed by what is queued; and what was
accepted and handed is what the callers know of. -/

namespace Courier.Proofs.ChannelConservation
open ChannelTasks

def accepted? : Deed → Option Message
  | .accepted m => some m
  | _ => none

def handed? : Deed → Option Message
  | .handed m => some m
  | _ => none

structure Conserved (capacity : Nat) (l : Lane) : Prop where
  order : l.sent = l.received ++ l.queue.items
  senders : l.sent.Perm (l.deeds.filterMap accepted?)
  receivers : l.received.Perm (l.deeds.filterMap handed?)
  unchanged : l.queue.capacity = capacity
  bounded : l.queue.items.length ≤ capacity
  closed_iff : l.queue.closed = true ↔ .shut ∈ l.deeds
  drained : .drained ∈ l.deeds → l.queue.closed = true ∧ l.queue.items = []

section
variable {q : Queue} {before : Task} {turn : Turn}

/-- A task does one thing for good, and the step that does it is the one that is noted. -/
theorem Change.fresh (change : Change q before turn) :
    turn.task.deed = before.deed ∧ turn.accepted = none ∧ turn.handed = none ∨
    before.deed = .none ∧ turn.accepted = accepted? turn.task.deed ∧
      turn.handed = handed? turn.task.deed := by
  cases change with
  | keep _ done => exact .inl ⟨done, rfl, rfl⟩
  | accept | hand | drain | shut => exact .inr ⟨rfl, rfl, rfl⟩

private theorem Change.order (change : Change q before turn) {sent received : List Message}
    (order : sent = received ++ q.items) :
    sent ++ turn.accepted.toList = received ++ turn.handed.toList ++ turn.queue.items := by
  cases change with
  | keep same => simpa [same.items] using order
  | accept => simp [order]
  | hand first => simp [order, first]
  | drain => simpa using order
  | shut => simpa [Queue.shut] using order

theorem Change.unchanged (change : Change q before turn) : turn.queue.capacity = q.capacity := by
  cases change with
  | keep same => exact same.unchanged
  | accept | hand | drain | shut => rfl

private theorem Change.bounded (change : Change q before turn) (bounded : q.items.length ≤ q.capacity) :
    turn.queue.items.length ≤ q.capacity := by
  cases change with
  | keep same => rwa [same.items]
  | accept _ room => simpa using Nat.succ_le_of_lt room
  | hand first =>
    rw [first] at bounded
    exact Nat.le_of_succ_le bounded
  | drain => exact bounded
  | shut => exact bounded

/-- Once the direction is closed nothing more is accepted. -/
theorem Change.refused (change : Change q before turn) (closed : q.closed = true) :
    turn.queue.closed = true ∧ turn.accepted = none := by
  cases change with
  | keep same => exact ⟨same.closed.trans closed, rfl⟩
  | accept live =>
    rw [live] at closed
    cases closed
  | hand => exact ⟨closed, rfl⟩
  | drain => exact ⟨closed, rfl⟩
  | shut => exact ⟨rfl, rfl⟩

section
variable {deeds : List Deed} {n : Nat} (held : deeds[n]? = some before.deed)
include held

private theorem counted {f : Deed → Option Message} {passed : Option Message} {log : List Message}
    (blank : f .none = none)
    (noted : turn.task.deed = before.deed ∧ passed = none ∨
      before.deed = .none ∧ passed = f turn.task.deed)
    (same : log.Perm (deeds.filterMap f)) :
    (log ++ passed.toList).Perm ((deeds.set n turn.task.deed).filterMap f) := by
  rcases noted with ⟨still, rfl⟩ | ⟨none, rfl⟩
  · obtain ⟨front, back, split, set⟩ := split_set held turn.task.deed
    rw [set, still, ← split]
    simpa using same
  · have fresh : f before.deed = .none := by rw [none, blank]
    exact (same.append_right _).trans (filterMap_set_perm held turn.task.deed fresh).symm

private theorem Change.senders (change : Change q before turn) {sent : List Message}
    (same : sent.Perm (deeds.filterMap accepted?)) :
    (sent ++ turn.accepted.toList).Perm ((deeds.set n turn.task.deed).filterMap accepted?) :=
  counted held rfl
    ((Change.fresh change).imp (fun still => ⟨still.1, still.2.1⟩) (fun new => ⟨new.1, new.2.1⟩)) same

private theorem Change.receivers (change : Change q before turn) {received : List Message}
    (same : received.Perm (deeds.filterMap handed?)) :
    (received ++ turn.handed.toList).Perm ((deeds.set n turn.task.deed).filterMap handed?) :=
  counted held rfl
    ((Change.fresh change).imp (fun still => ⟨still.1, still.2.2⟩) (fun new => ⟨new.1, new.2.2⟩)) same

/-- The deeds after a step are those before it, and what the step has done. -/
theorem Change.mem_set (change : Change q before turn) (other : Deed) (some : other ≠ .none) :
    other ∈ deeds.set n turn.task.deed ↔ other ∈ deeds ∨ other = turn.task.deed := by
  obtain ⟨front, back, split, set⟩ := split_set held turn.task.deed
  rw [set, split]
  simp only [List.mem_append, List.mem_cons]
  rcases Change.fresh change with ⟨still, _⟩ | ⟨none, _⟩
  · rw [still]
    refine ⟨.inl, ?_⟩
    rintro (member | rfl)
    · exact member
    · exact .inr (.inl rfl)
  · simp only [none, some, false_or]
    rw [or_assoc, or_comm (a := other = turn.task.deed)]

private theorem Change.closed_iff (change : Change q before turn) (iff : q.closed = true ↔ .shut ∈ deeds) :
    turn.queue.closed = true ↔ .shut ∈ deeds.set n turn.task.deed := by
  rw [Change.mem_set held change .shut nofun, ← iff]
  cases change with
  | keep same done =>
    rw [same.closed]
    refine ⟨.inl, ?_⟩
    rintro (closed | shut)
    · exact closed
    · have mine : deeds[n]? = some .shut := by rw [held, ← done, shut]
      exact iff.mpr (List.mem_of_getElem? mine)
  | accept | hand | drain => simp [Task.deed]
  | shut => simp [Task.deed, Queue.shut]

theorem Change.drained (change : Change q before turn)
    (drained : .drained ∈ deeds → q.closed = true ∧ q.items = [])
    (member : .drained ∈ deeds.set n turn.task.deed) :
    turn.queue.closed = true ∧ turn.queue.items = [] := by
  rw [Change.mem_set held change .drained nofun] at member
  -- Once a receive has failed there is nothing to take and nothing is accepted, so those steps are over.
  cases change with
  | keep same done =>
    rw [same.closed, same.items]
    rcases member with member | now
    · exact drained member
    · have mine : deeds[n]? = some .drained := by rw [held, ← done, now]
      exact drained (List.mem_of_getElem? mine)
  | accept live =>
    have := drained (by simpa [Task.deed] using member)
    simp [live] at this
  | hand first =>
    have := drained (by simpa [Task.deed] using member)
    simp [first] at this
  | drain closed empty => exact ⟨closed, empty⟩
  | shut =>
    have := drained (by simpa [Task.deed] using member)
    exact ⟨rfl, this.2⟩

end
end

section
variable {capacity : Nat} {l after : Lane} {event : Event}

private theorem fresh_conserved (capacity : Nat) : Conserved capacity (.fresh capacity) where
  order := rfl
  senders := .nil
  receivers := .nil
  unchanged := rfl
  bounded := Nat.zero_le capacity
  closed_iff := by simp [Lane.fresh, Lane.deeds]
  drained := by simp [Lane.fresh, Lane.deeds]

private theorem begin_preserves (valid : Conserved capacity l) (job : Job) :
    Conserved capacity (l.begin job) := by
  refine ⟨valid.order, ?_, ?_, valid.unchanged, valid.bounded, ?_, ?_⟩ <;> rw [Lane.deeds_begin]
  · simpa [accepted?, List.filterMap_cons] using valid.senders
  · simpa [handed?, List.filterMap_cons] using valid.receivers
  · simpa using valid.closed_iff
  · simpa using valid.drained

theorem step_preserves (valid : Conserved capacity l) (stepped : l.step event = some after) :
    Conserved capacity after := by
  rcases Lane.step_cases stepped with ⟨job, _, rfl⟩ | ⟨n, _, task, turn, _, found, change, rfl⟩
  · exact begin_preserves valid job
  · have held := Lane.deed_of_task found
    have noted := l.deeds_record n turn
    have same := valid.unchanged
    subst same
    exact
      { order := Change.order change valid.order
        senders := noted ▸ Change.senders held change valid.senders
        receivers := noted ▸ Change.receivers held change valid.receivers
        unchanged := Change.unchanged change
        bounded := Change.bounded change valid.bounded
        closed_iff := noted ▸ Change.closed_iff held change valid.closed_iff
        drained := noted ▸ Change.drained held change valid.drained }

private theorem conserved_of_leads (led : Leads Lane.step (.fresh capacity) l) : Conserved capacity l :=
  led.invariant (Conserved capacity) (fresh_conserved capacity) fun _ _ _ => step_preserves

end

/-- What a later state of a direction owes to an earlier one. -/
structure Continues (l after : Lane) : Prop where
  sent : l.sent <+: after.sent
  received : l.received <+: after.received
  refused : l.queue.closed = true → after.queue.closed = true ∧ after.sent = l.sent
  deeds : ∀ (n : Nat) (d : Deed), d ≠ .none → l.deeds[n]? = some d → after.deeds[n]? = some d

section
variable {l middle after : Lane} {event : Event}

private theorem Continues.refl (l : Lane) : Continues l l where
  sent := List.prefix_refl _
  received := List.prefix_refl _
  refused closed := ⟨closed, rfl⟩
  deeds _ _ _ held := held

private theorem Continues.trans (first : Continues l middle) (second : Continues middle after) :
    Continues l after where
  sent := first.sent.trans second.sent
  received := first.received.trans second.received
  refused closed := by
    obtain ⟨still, same⟩ := first.refused closed
    obtain ⟨last, equal⟩ := second.refused still
    exact ⟨last, equal.trans same⟩
  deeds n d some held := second.deeds n d some (first.deeds n d some held)

private theorem continues_step (stepped : l.step event = some after) : Continues l after := by
  rcases Lane.step_cases stepped with ⟨job, _, rfl⟩ | ⟨n, _, task, turn, _, found, change, rfl⟩
  · refine ⟨List.prefix_refl _, List.prefix_refl _, fun closed => ⟨closed, rfl⟩, ?_⟩
    intro n d _ held
    rw [Lane.deeds_begin, List.getElem?_append_left (List.getElem?_eq_some_iff.mp held).1]
    exact held
  · refine ⟨List.prefix_append _ _, List.prefix_append _ _, ?_, ?_⟩
    · intro closed
      obtain ⟨still, nothing⟩ := Change.refused change closed
      exact ⟨still, by simp [nothing]⟩
    · intro other d some held
      rw [Lane.deeds_record]
      by_cases same : n = other
      · subst same
        have mine : d = task.deed := by
          rw [Lane.deed_of_task found] at held
          exact (Option.some.inj held).symm
        rcases Change.fresh change with ⟨still, _⟩ | ⟨none, _⟩
        · rw [List.getElem?_set_self (List.getElem?_eq_some_iff.mp held).1, still, mine]
        · exact absurd (mine.trans none) some
      · rwa [List.getElem?_set_ne same]

private theorem continues_of_leads (led : Leads Lane.step l after) : Continues l after :=
  led.invariant (Continues l) (Continues.refl l)
    fun _ _ _ thusFar stepped => thusFar.trans (continues_step stepped)

end

/-- What a send with a live context comes to when it reaches the queue. -/
def Verdicts (capacity : Nat) (l : Lane) : Prop :=
  ∀ (n : Nat) (m : Message) (patience : Option Duration) (ended : Option ContextError),
    l.tasks[n]? = some (.send m (.pushing patience)) →
    ∃ after, l.step (.act n ended) = some after ∧
      if l.queue.closed then
        after.tasks[n]? = some (.send m (.answer patience (.error (.closed "channel")))) ∧
          after.sent = l.sent
      else if l.queue.items.length = capacity then
        after.tasks[n]? = some (.send m (.answer patience (.error .bufferFull))) ∧ after.sent = l.sent
      else after.tasks[n]? = some (.send m (.calling patience)) ∧ after.sent = l.sent ++ [m]

/-- How messages leave a queue: by receivers that look at it, and in no other way. -/
structure Deliveries (l : Lane) : Prop where
  look : ∀ (n : Nat) (ticket : Option Ticket) (ended : Option ContextError),
    l.tasks[n]? = some (.receive (.looking ticket)) →
    ∃ after, l.step (.act n ended) = some after ∧
      match l.queue.items with
      | m :: rest =>
        after.tasks[n]? = some (.receive (.leaving ticket (.ok m))) ∧
          after.received = l.received ++ [m] ∧ after.queue.items = rest
      | [] =>
        after.tasks[n]? = some (.receive
            (if l.queue.closed then .leaving ticket (.error (.closed "channel")) else .sleeping ticket)) ∧
          after.received = l.received ∧ after.queue.items = []
  only : ∀ event after, l.step event = some after →
    after.received = l.received ∧ l.queue.items <+: after.queue.items ∨
    ∃ n ticket ended m, event = .act n ended ∧ l.tasks[n]? = some (.receive (.looking ticket)) ∧
      after.tasks[n]? = some (.receive (.leaving ticket (.ok m))) ∧
      l.queue.items = m :: after.queue.items

section
variable {capacity : Nat} {l after : Lane}

/-- A receive that its context ends has taken nothing, at any time before. -/
theorem Continues.cancelled (later : Continues l after) {n : Nat} {e : ContextError}
    (ended : after.tasks[n]? = some (.receive (.done (.error (.context e))))) (m : Message) :
    l.deeds[n]? ≠ some (.handed m) := by
  intro held
  have still := later.deeds n (.handed m) nofun held
  rw [Lane.deed_of_task ended] at still
  cases still

private theorem verdicts (valid : Conserved capacity l) : Verdicts capacity l := by
  intro n m patience ended found
  have size := valid.bounded
  have same := valid.unchanged
  rcases push_cases l.queue m ended patience with ⟨closed, moved⟩ | ⟨live, full, moved⟩ |
    ⟨live, room, moved⟩ <;> obtain ⟨stepped, now⟩ := Lane.step_act found moved <;>
    refine ⟨_, stepped, ?_⟩
  · rw [if_pos closed]
    exact ⟨now, by simp⟩
  · rw [if_neg (by simp [live]), if_pos (by omega)]
    exact ⟨now, by simp⟩
  · rw [if_neg (by simp [live]), if_neg (by omega)]
    exact ⟨now, rfl⟩

private theorem deliveries (l : Lane) : Deliveries l := by
  refine ⟨?_, ?_⟩
  · intro n ticket ended found
    rcases look_cases l.queue ended ticket with ⟨m, rest, first, moved⟩ | ⟨empty, closed, moved⟩ |
      ⟨empty, live, moved⟩ <;> obtain ⟨stepped, now⟩ := Lane.step_act found moved <;>
      refine ⟨_, stepped, ?_⟩
    · rw [first]
      exact ⟨now, rfl, rfl⟩
    · rw [empty, if_pos closed]
      exact ⟨now, by simp, empty⟩
    · rw [empty, if_neg (by simp [live])]
      exact ⟨now, by simp, empty⟩
  · intro event after stepped
    rcases Lane.step_cases stepped with ⟨job, _, rfl⟩ | ⟨n, ended, task, turn, rfl, found, change, rfl⟩
    · exact .inl ⟨rfl, List.prefix_refl _⟩
    · obtain ⟨inside, _⟩ := List.getElem?_eq_some_iff.mp found
      cases change with
      | keep same => exact .inl ⟨by simp, by simp [same.items]⟩
      | accept => exact .inl ⟨by simp, by simp⟩
      | @hand m rest ticket first =>
        exact .inr ⟨n, ticket, ended, m, rfl, found, List.getElem?_set_self inside, first⟩
      | drain => exact .inl ⟨by simp, by simp⟩
      | shut => exact .inl ⟨by simp, by simp [Queue.shut]⟩

end

/-- For a loopback or a pair of any capacity, however the tasks on its ends interleave, each direction
keeps every message that it accepted, in order, until it hands it to one receiver; it is never over its
capacity; it refuses a message only when it is closed or full; and once closed it accepts nothing,
delivers what is queued, and only then fails receivers. -/
theorem conserves_messages {capacity : Nat} {c : Channel} (reached : Reachable capacity c) {n : Nat}
    {l : Lane} (found : c.lanes[n]? = some l) :
    Conserved capacity l ∧ Verdicts capacity l ∧ Deliveries l ∧
    ∀ final, Leads Channel.step c final → ∃ after, final.lanes[n]? = some after ∧ Continues l after ∧
      ∀ (k : Nat) (e : ContextError), after.tasks[k]? = some (.receive (.done (.error (.context e)))) →
        ∀ m : Message, l.deeds[k]? ≠ some (.handed m) := by
  have valid := conserved_of_leads (reached.lane (List.mem_of_getElem? found))
  refine ⟨valid, verdicts valid, deliveries l, ?_⟩
  intro final led
  obtain ⟨after, there, ran⟩ := lane_leads led found
  have later := continues_of_leads ran
  exact ⟨after, there, later, fun k e ended => later.cancelled ended⟩

def letter (id : String) : Message := { (default : Message) with id }

/-- A receiver sleeps, "a" calls it, but another receiver takes "a" and the first one leaves with its
context. The call goes on to the second, and as that one leaves too, it is left for the third. Then "b"
fills the direction, "c" is refused for that, and the direction is closed. -/
def contended : Lane where
  queue := { capacity := 1, items := [letter "b"], closed := true, nextTicket := 2 }
  tasks :=
    [.receive (.done (.error (.context .cancelled))), .send (letter "a") (.done (.ok none)),
      .receive (.done (.ok (letter "a"))), .send (letter "b") (.calling (some Backpressure.firstWait)),
      .send (letter "c") (.pushing (some (Backpressure.nextWait Backpressure.firstWait))),
      .close .calling, .receive (.looking none)]
  sent := [letter "a", letter "b"]
  received := [letter "a"]

def contendedPair : Channel := { Channel.pair 1 with lanes := [contended, .fresh 1] }

/-- "c" is refused for good, and the third receiver is handed "b". -/
theorem conserves_messages_contended :
    Reachable 1 contendedPair ∧ contendedPair.lanes[0]? = some contended ∧
      contended.sent = contended.received ++ contended.queue.items ∧
      (∃ after, contended.step (.act 4 none) = some after ∧ after.sent = [letter "a", letter "b"]) ∧
      (∃ after, contended.step (.act 6 none) = some after ∧
        after.tasks[6]? = some (.receive (.leaving none (.ok (letter "b"))))) := by
  have reached : Reachable 1 contendedPair := .inr
    ⟨[.start 1 (.operate .receive), .act 0 0 none, .act 0 0 none, .act 0 0 none,
      .start 0 (.operate (.send (letter "a"))), .act 0 1 none, .act 0 1 none,
      .start 1 (.operate .receive), .act 0 2 none, .act 0 2 none, .act 0 2 none, .act 0 1 none,
      .start 0 (.blockingSend (letter "b")), .act 0 3 none, .act 0 3 none,
      .start 0 (.blockingSend (letter "c")), .act 0 4 none, .act 0 4 none,
      .act 0 0 (some .cancelled), .act 0 0 none, .act 0 2 none,
      .start 0 (.operate .close), .act 0 5 none, .act 0 4 none, .act 0 4 none,
      .start 1 (.operate .receive), .act 0 6 none, .act 0 6 none], rfl⟩
  obtain ⟨valid, verdicts, deliveries, _⟩ := conserves_messages reached (n := 0) rfl
  obtain ⟨refused, stepped, _, same⟩ := verdicts 4 (letter "c") _ none rfl
  obtain ⟨handed, looked, now, _⟩ := deliveries.look 6 none none rfl
  exact ⟨reached, rfl, valid.order, ⟨refused, stepped, same⟩, ⟨handed, looked, now⟩⟩

end Courier.Proofs.ChannelConservation
