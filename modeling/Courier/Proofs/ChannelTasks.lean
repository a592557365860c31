import Courier.Backpressure
import Courier.Channel
import Courier.Proofs.Runs

/-! Any number of tasks on the ends of a channel. Every access to a queue, under its lock or through its
tickets, is a step of its own, and between any two steps of a task others may go on. Contexts end when
they like. What one step can do to the messages is said once, and holds of every task. -/

namespace Courier.Proofs.ChannelTasks

/-- Where a send stands. A sender that would rather wait than drop the message has some patience: how
long it rests after a refusal. -/
inductive Sending where
  | checking (patience : Option Duration)
  | pushing (patience : Option Duration)
  /-- The message is in the queue, and nobody has been called yet. -/
  | calling (patience : Option Duration)
  | resting (wait : Duration)
  | done (reply : Reply)

/-- Where a receive stands, and the ticket that it holds. -/
inductive Receiving where
  | checking
  | entering
  | looking (ticket : Option Ticket)
  | sleeping (ticket : Option Ticket)
  /-- The result is certain, and the ticket has not been given back yet. -/
  | leaving (ticket : Option Ticket) (result : Except TransportError Message)
  | done (result : Except TransportError Message)

inductive Closing where
  | shutting
  | calling
  | done

inductive Task where
  | send (m : Message) (phase : Sending)
  | receive (phase : Receiving)
  | close (phase : Closing)

def Sending.onward : Backpressure.Next → Sending
  | .send wait => .checking (some wait)
  | .rest wait _ => .resting wait
  | .finish reply => .done reply

def Sending.answer (patience : Option Duration) (reply : Reply) : Sending :=
  match patience with
  | none => .done reply
  | some wait => .onward (Backpressure.afterSend wait reply)

inductive Job where
  | operate (op : Operation)
  | blockingSend (m : Message)

namespace Job

def operation : Job → Operation
  | operate op => op
  | blockingSend m => .send m

def task : Job → Task
  | operate (.send m) => .send m (.checking none)
  | operate .receive => .receive .checking
  | operate .close => .close .shutting
  | blockingSend m => .send m (.onward Backpressure.start)

end Job

structure Turn where
  queue : Queue
  task : Task
  accepted : Option Message := none
  handed : Option Message := none

section
variable (q : Queue) (ended : Option ContextError)

def Sending.step (m : Message) : Sending → Option Turn
  | .checking patience =>
    match ended with
    | some e => some { queue := q, task := .send m (.answer patience (.error (.context e))) }
    | none => some { queue := q, task := .send m (.pushing patience) }
  | .pushing patience =>
    match q.accept m with
    | .ok q => some { queue := q, task := .send m (.calling patience), accepted := some m }
    | .error why => some { queue := q, task := .send m (.answer patience (.error why)) }
  | .calling patience => some { queue := q.callOne, task := .send m (.answer patience (.ok none)) }
  | .resting wait => some { queue := q, task := .send m (.onward (Backpressure.afterRest wait ended)) }
  | .done _ => none

/-- A sleeper whose ticket is called and whose context has ended may notice either first. One that is
dropped in its sleep leaves as if its context had ended. -/
def Receiving.step : Receiving → Option Turn
  | .checking =>
    match ended with
    | some e => some { queue := q, task := .receive (.done (.error (.context e))) }
    | none => some { queue := q, task := .receive .entering }
  | .entering =>
    let (ticket, q) := q.takeTicket
    some { queue := q, task := .receive (.looking ticket) }
  | .looking ticket =>
    match q.take with
    | (.ok (some m), q) =>
      some { queue := q, task := .receive (.leaving ticket (.ok m)), handed := some m }
    | (.error e, q) => some { queue := q, task := .receive (.leaving ticket (.error e)) }
    | (.ok none, q) => some { queue := q, task := .receive (.sleeping ticket) }
  | .sleeping ticket =>
    match ended with
    | some e => some { queue := q, task := .receive (.leaving ticket (.error (.context e))) }
    | none =>
      if q.isCalled ticket then some { queue := q.redeem ticket, task := .receive .entering } else none
  | .leaving ticket result => some { queue := q.giveUp ticket, task := .receive (.done result) }
  | .done _ => none

def Closing.step : Closing → Option Turn
  | .shutting => some { queue := q.shut, task := .close .calling }
  | .calling => some { queue := q.callAll, task := .close .done }
  | .done => none

def Task.step : Task → Option Turn
  | .send m phase => phase.step q ended m
  | .receive phase => phase.step q ended
  | .close phase => phase.step q

end

/-- One direction of a channel: its queue, the tasks on it, and the messages that were accepted and
those that were handed to receivers, in order. -/
structure Lane where
  queue : Queue
  tasks : List Task := []
  sent : List Message := []
  received : List Message := []

inductive Event where
  | start (job : Job)
  | act (task : Nat) (ended : Option ContextError)

namespace Lane

def fresh (capacity : Nat) : Lane := { queue := { capacity } }

def begin (l : Lane) (job : Job) : Lane := { l with tasks := l.tasks ++ [job.task] }

def record (l : Lane) (n : Nat) (turn : Turn) : Lane where
  queue := turn.queue
  tasks := l.tasks.set n turn.task
  sent := l.sent ++ turn.accepted.toList
  received := l.received ++ turn.handed.toList

section
variable (l : Lane) (job : Job) (n : Nat) (turn : Turn)

@[simp] theorem begin_queue : (l.begin job).queue = l.queue := rfl
@[simp] theorem begin_sent : (l.begin job).sent = l.sent := rfl
@[simp] theorem begin_received : (l.begin job).received = l.received := rfl
@[simp] theorem record_queue : (l.record n turn).queue = turn.queue := rfl
@[simp] theorem record_sent : (l.record n turn).sent = l.sent ++ turn.accepted.toList := rfl
@[simp] theorem record_received : (l.record n turn).received = l.received ++ turn.handed.toList := rfl

end

def step (l : Lane) : Event → Option Lane
  | .start job => some (l.begin job)
  | .act n ended => do
    let task ← l.tasks[n]?
    let turn ← task.step l.queue ended
    some (l.record n turn)

end Lane

/-- The ends of a channel, and its directions by the numbers that the ends know them by. -/
structure Channel where
  ends : List ChannelEnd
  lanes : List Lane

inductive Move where
  | start (place : Nat) (job : Job)
  | act (lane task : Nat) (ended : Option ContextError)

namespace Channel

def loopback (capacity : Nat) : Channel := { ends := [.loopback 0], lanes := [.fresh capacity] }

def pair (capacity : Nat) : Channel :=
  let (left, right) := ChannelEnd.pair 0 1
  { ends := [left, right], lanes := [.fresh capacity, .fresh capacity] }

def onLane (c : Channel) (n : Nat) (event : Event) : Option Channel := do
  let before ← c.lanes[n]?
  let after ← before.step event
  some { c with lanes := c.lanes.set n after }

def step (c : Channel) : Move → Option Channel
  | .start place job => do
    let e ← c.ends[place]?
    c.onLane (e.queueOf job.operation) (.start job)
  | .act n task ended => c.onLane n (.act task ended)

end Channel

def Reachable (capacity : Nat) (c : Channel) : Prop :=
  Leads Channel.step (.loopback capacity) c ∨ Leads Channel.step (.pair capacity) c

/-! ### Tasks that run alone -/

section
variable (q : Queue)

def alone (s : Queue × Task) (ended : Option ContextError) : Option (Queue × Task) :=
  (s.2.step s.1 ended).map fun turn => (turn.queue, turn.task)

/-- A send that nobody interrupts is one operation on the queue. -/
theorem send_alone (m : Message) (patience : Option Duration) (ended : Option ContextError) :
    Leads alone (q, .send m (.checking patience))
      (match q.send ended m with
      | .ok after => (after, .send m (.answer patience (.ok none)))
      | .error why => (q, .send m (.answer patience (.error why)))) := by
  cases ended with
  | some e => exact ⟨[some e], rfl⟩
  | none =>
    simp only [Queue.send, Queue.push]
    cases verdict : q.accept m with
    | ok after => exact ⟨[none, none, none], by simp [alone, Task.step, Sending.step, verdict, Except.map]⟩
    | error why => exact ⟨[none, none], by simp [alone, Task.step, Sending.step, verdict, Except.map]⟩

def polled : Queue.Poll × Queue → Queue × Task
  | (.got m, q) => (q, .receive (.done (.ok m)))
  | (.failed e, q) => (q, .receive (.done (.error e)))
  | (.sleep ticket, q) => (q, .receive (.sleeping ticket))

private theorem poll_alone : Leads alone (q, .receive .entering) (polled q.poll) := by
  have entered : Leads alone (q, .receive .entering)
      (q.takeTicket.2, .receive (.looking q.takeTicket.1)) := ⟨[none], rfl⟩
  refine entered.trans ?_
  unfold Queue.poll
  generalize q.takeTicket = held
  obtain ⟨ticket, q⟩ := held
  simp only
  rcases found : q.take with ⟨_ | _ | m, after⟩
  · exact ⟨[none, none], by simp [alone, Task.step, Receiving.step, found, polled]⟩
  · exact ⟨[none], by simp [alone, Task.step, Receiving.step, found, polled]⟩
  · exact ⟨[none, none], by simp [alone, Task.step, Receiving.step, found, polled]⟩

theorem receive_alone (ended : Option ContextError) :
    Leads alone (q, .receive .checking) (polled (q.receive ended)) := by
  cases ended with
  | some e => exact ⟨[some e], rfl⟩
  | none => exact Leads.trans ⟨[none], rfl⟩ (poll_alone q)

theorem wake_alone (ticket : Option Ticket) (called : q.isCalled ticket = true) :
    Leads alone (q, .receive (.sleeping ticket)) (polled (q.wake ticket)) :=
  Leads.trans ⟨[none], by simp [alone, Task.step, Receiving.step, called]⟩
    (poll_alone (q.redeem ticket))

theorem giveUp_alone (ticket : Option Ticket) (e : ContextError) :
    Leads alone (q, .receive (.sleeping ticket))
      (q.giveUp ticket, .receive (.done (.error (.context e)))) :=
  ⟨[some e, none], rfl⟩

theorem close_alone : Leads alone (q, .close .shutting) (q.close, .close .done) := ⟨[none, none], rfl⟩

end

/-! ### What a step can do -/

/-- What a task has done for good. -/
inductive Deed where
  | none
  | accepted (m : Message)
  | handed (m : Message)
  /-- A receive has failed, because no message will ever come. -/
  | drained
  | shut
deriving DecidableEq

def Task.deed : Task → Deed
  | .send m (.calling _) | .send m (.done (.ok _)) => .accepted m
  | .receive (.leaving _ (.ok m)) | .receive (.done (.ok m)) => .handed m
  | .receive (.leaving _ (.error (.closed _))) | .receive (.done (.error (.closed _))) => .drained
  | .close .calling | .close .done => .shut
  | _ => .none

structure Same (q after : Queue) : Prop where
  unchanged : after.capacity = q.capacity
  items : after.items = q.items
  closed : after.closed = q.closed

inductive Change (q : Queue) : Task → Turn → Prop where
  | keep {before task : Task} {after : Queue} (same : Same q after) (done : task.deed = before.deed) :
      Change q before { queue := after, task }
  | accept {m : Message} {patience : Option Duration} (live : q.closed = false)
      (room : q.items.length < q.capacity) :
      Change q (.send m (.pushing patience))
        { queue := { q with items := q.items ++ [m] }
          task := .send m (.calling patience)
          accepted := some m }
  | hand {m : Message} {rest : List Message} {ticket : Option Ticket} (first : q.items = m :: rest) :
      Change q (.receive (.looking ticket))
        { queue := { q with items := rest }
          task := .receive (.leaving ticket (.ok m))
          handed := some m }
  | drain {ticket : Option Ticket} (closed : q.closed = true) (empty : q.items = []) :
      Change q (.receive (.looking ticket))
        { queue := q, task := .receive (.leaving ticket (.error (.closed "channel"))) }
  | shut : Change q (.close .shutting) { queue := q.shut, task := .close .calling }

section
variable (q : Queue) (m : Message) (ended : Option ContextError)

theorem push_cases (patience : Option Duration) :
    q.closed = true ∧ (Task.send m (.pushing patience)).step q ended =
      some { queue := q, task := .send m (.answer patience (.error (.closed "channel"))) } ∨
    q.closed = false ∧ q.capacity ≤ q.items.length ∧
      (Task.send m (.pushing patience)).step q ended =
        some { queue := q, task := .send m (.answer patience (.error .bufferFull)) } ∨
    q.closed = false ∧ q.items.length < q.capacity ∧
      (Task.send m (.pushing patience)).step q ended =
        some { queue := { q with items := q.items ++ [m] }
               task := .send m (.calling patience)
               accepted := some m } := by
  simp only [Task.step, Sending.step, Queue.accept]
  cases closed : q.closed with
  | true => simp
  | false =>
    by_cases full : q.capacity ≤ q.items.length
    · simp [full]
    · simp [full, Nat.lt_of_not_le full]

theorem look_cases (ticket : Option Ticket) :
    (∃ m rest, q.items = m :: rest ∧ (Task.receive (.looking ticket)).step q ended =
      some { queue := { q with items := rest }
             task := .receive (.leaving ticket (.ok m))
             handed := some m }) ∨
    q.items = [] ∧ q.closed = true ∧ (Task.receive (.looking ticket)).step q ended =
      some { queue := q, task := .receive (.leaving ticket (.error (.closed "channel"))) } ∨
    q.items = [] ∧ q.closed = false ∧ (Task.receive (.looking ticket)).step q ended =
      some { queue := q, task := .receive (.sleeping ticket) } := by
  simp only [Task.step, Receiving.step, Queue.take]
  cases items : q.items with
  | cons m rest => exact .inl ⟨m, rest, rfl, rfl⟩
  | nil => cases closed : q.closed <;> simp

private theorem Same.refl : Same q q := ⟨rfl, rfl, rfl⟩

theorem callOne_same : Same q q.callOne := by
  unfold Queue.callOne
  split <;> exact ⟨rfl, rfl, rfl⟩

theorem takeTicket_same : Same q q.takeTicket.2 := by
  unfold Queue.takeTicket
  split <;> exact ⟨rfl, rfl, rfl⟩

theorem redeem_same (ticket : Option Ticket) : Same q (q.redeem ticket) := by
  cases ticket <;> exact ⟨rfl, rfl, rfl⟩

theorem giveUp_same (ticket : Option Ticket) : Same q (q.giveUp ticket) := by
  cases ticket with
  | none => exact Same.refl q
  | some ticket =>
    simp only [Queue.giveUp, Queue.leave]
    split
    · have same := callOne_same { q with
        waiting := q.waiting.erase ticket
        called := q.called.erase ticket
        released := q.released.erase ticket }
      exact ⟨same.unchanged, same.items, same.closed⟩
    · exact ⟨rfl, rfl, rfl⟩

private theorem answer_error_deed (patience : Option Duration) (why : TransportError) :
    (Task.send m (.answer patience (.error why))).deed = .none := by
  cases patience <;> rfl

private theorem answer_ok_deed (patience : Option Duration) :
    (Task.send m (.answer patience (.ok none))).deed = .accepted m := by
  cases patience <;> rfl

private theorem onward_deed (wait : Duration) :
    (Task.send m (.onward (Backpressure.afterRest wait ended))).deed = .none := by
  cases ended <;> rfl

private theorem job_deed (job : Job) : job.task.deed = .none := by
  rcases job with (m | _ | _) | m <;> rfl

end

section
variable {q : Queue} {ended : Option ContextError} {turn : Turn}

private theorem sending_change (m : Message) (phase : Sending)
    (stepped : (Task.send m phase).step q ended = some turn) : Change q (.send m phase) turn := by
  cases phase with
  | checking patience =>
    cases ended with
    | some e =>
      cases stepped
      exact .keep (.refl q) (answer_error_deed m patience _)
    | none =>
      cases stepped
      exact .keep (.refl q) rfl
  | pushing patience =>
    rcases push_cases q m ended patience with ⟨_, moved⟩ | ⟨_, _, moved⟩ | ⟨live, room, moved⟩ <;>
      cases moved.symm.trans stepped
    · exact .keep (.refl q) (answer_error_deed m patience _)
    · exact .keep (.refl q) (answer_error_deed m patience _)
    · exact .accept live room
  | calling patience =>
    cases stepped
    exact .keep (callOne_same q) (answer_ok_deed m patience)
  | resting wait =>
    cases stepped
    exact .keep (.refl q) (onward_deed m ended wait)
  | done reply => cases stepped

private theorem receiving_change (phase : Receiving)
    (stepped : (Task.receive phase).step q ended = some turn) : Change q (.receive phase) turn := by
  cases phase with
  | checking => cases ended <;> cases stepped <;> exact .keep (.refl q) rfl
  | entering =>
    cases stepped
    exact .keep (takeTicket_same q) rfl
  | looking ticket =>
    rcases look_cases q ended ticket with ⟨m, rest, first, moved⟩ | ⟨empty, closed, moved⟩ |
      ⟨_, _, moved⟩ <;> cases moved.symm.trans stepped
    · exact .hand first
    · exact .drain closed empty
    · exact .keep (.refl q) rfl
  | sleeping ticket =>
    cases ended with
    | some e =>
      cases stepped
      exact .keep (.refl q) rfl
    | none =>
      simp only [Task.step, Receiving.step] at stepped
      split at stepped
      · cases stepped
        exact .keep (redeem_same q ticket) rfl
      · cases stepped
  | leaving ticket result =>
    cases stepped
    refine .keep (giveUp_same q ticket) ?_
    rcases result with why | m
    · cases why <;> rfl
    · rfl
  | done result => cases stepped

private theorem closing_change (phase : Closing) (stepped : (Task.close phase).step q ended = some turn) :
    Change q (.close phase) turn := by
  cases phase with
  | shutting =>
    cases stepped
    exact .shut
  | calling =>
    cases stepped
    exact .keep ⟨rfl, rfl, rfl⟩ rfl
  | done => cases stepped

theorem step_change {task : Task} (stepped : task.step q ended = some turn) : Change q task turn := by
  cases task with
  | send m phase => exact sending_change m phase stepped
  | receive phase => exact receiving_change phase stepped
  | close phase => exact closing_change phase stepped

end

namespace Lane

def deeds (l : Lane) : List Deed := l.tasks.map Task.deed

variable {l after : Lane} {event : Event}

theorem deeds_begin (job : Job) : (l.begin job).deeds = l.deeds ++ [.none] := by
  simp [begin, deeds, job_deed]

theorem deeds_record (n : Nat) (turn : Turn) :
    (l.record n turn).deeds = l.deeds.set n turn.task.deed := List.map_set

theorem deed_of_task {n : Nat} {task : Task} (found : l.tasks[n]? = some task) :
    l.deeds[n]? = some task.deed := by
  simp [deeds, found]

/-- What an event can be: the beginning of a task, or a step of one that can go on. -/
theorem step_cases (stepped : l.step event = some after) :
    (∃ job, event = .start job ∧ after = l.begin job) ∨
    (∃ n ended task turn, event = .act n ended ∧ l.tasks[n]? = some task ∧
      Change l.queue task turn ∧ after = l.record n turn) := by
  cases event with
  | start job =>
    cases stepped
    exact .inl ⟨job, rfl, rfl⟩
  | act n ended =>
    simp only [Lane.step, Option.bind_eq_bind, Option.bind_eq_some_iff] at stepped
    obtain ⟨task, found, turn, moved, same⟩ := stepped
    cases same
    exact .inr ⟨n, ended, task, turn, rfl, found, step_change moved, rfl⟩

theorem step_act {n : Nat} {task : Task} {turn : Turn} {ended : Option ContextError}
    (found : l.tasks[n]? = some task) (moved : task.step l.queue ended = some turn) :
    l.step (.act n ended) = some (l.record n turn) ∧
      (l.record n turn).tasks[n]? = some turn.task := by
  refine ⟨by simp [step, found, moved], ?_⟩
  exact found_self found _

end Lane

/-! ### Directions by themselves -/

section
variable {capacity : Nat} {c after : Channel} {move : Move}

theorem Channel.step_cases (stepped : c.step move = some after) :
    ∃ n event before lane, c.lanes[n]? = some before ∧ before.step event = some lane ∧
      after = { c with lanes := c.lanes.set n lane } := by
  have onLane {n : Nat} {event : Event} (moved : c.onLane n event = some after) :
      ∃ before lane, c.lanes[n]? = some before ∧ before.step event = some lane ∧
        after = { c with lanes := c.lanes.set n lane } := by
    simp only [Channel.onLane, Option.bind_eq_bind, Option.bind_eq_some_iff] at moved
    obtain ⟨before, found, lane, moved, same⟩ := moved
    cases same
    exact ⟨before, lane, found, moved, rfl⟩
  cases move with
  | start place job =>
    simp only [Channel.step, Option.bind_eq_bind, Option.bind_eq_some_iff] at stepped
    obtain ⟨e, _, moved⟩ := stepped
    exact ⟨_, _, onLane moved⟩
  | act n task ended => exact ⟨n, .act task ended, onLane stepped⟩

/-- Whatever goes on in a channel, each direction runs as if it were alone. -/
theorem lane_leads (led : Leads Channel.step c after) {n : Nat} {lane : Lane}
    (found : c.lanes[n]? = some lane) :
    ∃ last, after.lanes[n]? = some last ∧ Leads Lane.step lane last := by
  refine led.invariant (fun c => ∃ last, c.lanes[n]? = some last ∧ Leads Lane.step lane last)
    ⟨lane, found, [], rfl⟩ ?_
  rintro c move after ⟨last, found, ran⟩ stepped
  obtain ⟨other, event, before, next, here, moved, rfl⟩ := Channel.step_cases stepped
  by_cases same : other = n
  · subst same
    rw [here] at found
    cases found
    exact ⟨next, found_self here next, ran.step event moved⟩
  · exact ⟨last, by rwa [List.getElem?_set_ne same], ran⟩

theorem Reachable.lane (reached : Reachable capacity c) {lane : Lane} (member : lane ∈ c.lanes) :
    Leads Lane.step (.fresh capacity) lane := by
  -- Both kinds of channels begin with fresh lanes, and a step is one step of one lane.
  have grown (first : Channel) (new : ∀ lane ∈ first.lanes, lane = .fresh capacity)
      (led : Leads Channel.step first c) : ∀ lane ∈ c.lanes, Leads Lane.step (.fresh capacity) lane := by
    refine led.invariant (fun c => ∀ lane ∈ c.lanes, Leads Lane.step (.fresh capacity) lane)
      (fun lane member => new lane member ▸ ⟨[], rfl⟩) ?_
    intro c move after runs stepped lane member
    obtain ⟨n, event, before, next, here, moved, rfl⟩ := Channel.step_cases stepped
    rcases List.mem_or_eq_of_mem_set member with old | rfl
    · exact runs lane old
    · exact (runs before (List.mem_of_getElem? here)).step event moved
  rcases reached with led | led
  · exact grown _ (by simp [Channel.loopback]) led lane member
  · exact grown _ (by simp [Channel.pair]) led lane member

end

end Courier.Proofs.ChannelTasks
