import Courier.Proofs.ChannelTasks

/-! No receiver sleeps past a message. Every ticket has one place, so a call reaches somebody, and whoever
is called and leaves passes the call on. As long as a receiver sleeps uncalled, there are as many calls
made, calls about to be made and receivers about to look as there are messages. -/

namespace Courier.Proofs.ChannelWakeups
open ChannelTasks

def ticketOf : Task → Option Ticket
  | .receive (.looking ticket) | .receive (.sleeping ticket) | .receive (.leaving ticket _) => ticket
  | _ => none

def holds (ticket : Ticket) (task : Task) : Bool := ticketOf task = some ticket

/-- Whether a task is about to call somebody, or to look for a message itself. -/
def onTheWay : Task → Bool
  | .send _ (.calling _) | .receive .entering | .receive (.looking _) => true
  | _ => false

def places (q : Queue) (ticket : Ticket) : Nat :=
  q.waiting.count ticket + q.called.count ticket + q.released.count ticket

/-- What a step of a task does to tickets and calls. -/
inductive Handling (q : Queue) : Task → Turn → Prop where
  | stay {before task : Task} (same : ticketOf task = ticketOf before) (other : before ≠ .close .calling)
      (looked : onTheWay before = true → q.items = [])
      (slept : ∀ ticket, task = .receive (.sleeping ticket) → q.items = [] ∧ q.closed = false) :
      Handling q before { queue := q, task }
  | accept {m : Message} {patience : Option Duration} :
      Handling q (.send m (.pushing patience))
        { queue := { q with items := q.items ++ [m] }
          task := .send m (.calling patience)
          accepted := some m }
  | call {m : Message} {patience : Option Duration} {phase : Sending} :
      Handling q (.send m (.calling patience)) { queue := q.callOne, task := .send m phase }
  | enter : Handling q (.receive .entering)
      { queue := q.takeTicket.2, task := .receive (.looking q.takeTicket.1) }
  | hand {m : Message} {rest : List Message} {ticket : Option Ticket} (first : q.items = m :: rest) :
      Handling q (.receive (.looking ticket))
        { queue := { q with items := rest }
          task := .receive (.leaving ticket (.ok m))
          handed := some m }
  | wake {ticket : Option Ticket} (called : q.isCalled ticket = true) :
      Handling q (.receive (.sleeping ticket)) { queue := q.redeem ticket, task := .receive .entering }
  | leave {ticket : Option Ticket} {result : Except TransportError Message} :
      Handling q (.receive (.leaving ticket result))
        { queue := q.giveUp ticket, task := .receive (.done result) }
  | shut : Handling q (.close .shutting) { queue := q.shut, task := .close .calling }
  | release : Handling q (.close .calling) { queue := q.callAll, task := .close .done }

section
variable {q : Queue} {ended : Option ContextError} {turn : Turn}

private theorem sending_handling (m : Message) (phase : Sending)
    (stepped : (Task.send m phase).step q ended = some turn) : Handling q (.send m phase) turn := by
  cases phase with
  | checking patience => cases ended <;> cases stepped <;> exact .stay rfl nofun nofun nofun
  | pushing patience =>
    rcases push_cases q m ended patience with ⟨_, moved⟩ | ⟨_, _, moved⟩ | ⟨_, _, moved⟩ <;>
      cases moved.symm.trans stepped
    · exact .stay rfl nofun nofun nofun
    · exact .stay rfl nofun nofun nofun
    · exact .accept
  | calling patience =>
    cases stepped
    exact .call
  | resting wait =>
    cases stepped
    exact .stay rfl nofun nofun nofun
  | done reply => cases stepped

private theorem receiving_handling (phase : Receiving)
    (stepped : (Task.receive phase).step q ended = some turn) : Handling q (.receive phase) turn := by
  cases phase with
  | checking => cases ended <;> cases stepped <;> exact .stay rfl nofun nofun nofun
  | entering =>
    cases stepped
    exact .enter
  | looking ticket =>
    rcases look_cases q ended ticket with ⟨m, rest, first, moved⟩ | ⟨empty, _, moved⟩ |
      ⟨empty, live, moved⟩ <;> cases moved.symm.trans stepped
    · exact .hand first
    · exact .stay rfl nofun (fun _ => empty) nofun
    · exact .stay rfl nofun (fun _ => empty) fun _ _ => ⟨empty, live⟩
  | sleeping ticket =>
    cases ended with
    | some e =>
      cases stepped
      exact .stay rfl nofun nofun nofun
    | none =>
      simp only [Task.step, Receiving.step] at stepped
      split at stepped
      next called =>
        cases stepped
        exact .wake called
      next => cases stepped
  | leaving ticket result =>
    cases stepped
    exact .leave
  | done result => cases stepped

private theorem closing_handling (phase : Closing) (stepped : (Task.close phase).step q ended = some turn) :
    Handling q (.close phase) turn := by
  cases phase with
  | shutting =>
    cases stepped
    exact .shut
  | calling =>
    cases stepped
    exact .release
  | done => cases stepped

theorem step_handling {task : Task} (stepped : task.step q ended = some turn) : Handling q task turn := by
  cases task with
  | send m phase => exact sending_handling m phase stepped
  | receive phase => exact receiving_handling phase stepped
  | close phase => exact closing_handling phase stepped

end

/-! ### Tickets -/

section
variable (q : Queue) (ticket : Ticket)

private theorem callOne_places : places q.callOne ticket = places q ticket := by
  unfold places Queue.callOne
  split
  next => rfl
  next first rest waiting =>
    simp only [waiting, List.count_append, List.count_cons, List.count_nil]
    omega

private theorem callAll_places : places q.callAll ticket = places q ticket := by
  simp only [places, Queue.callAll, List.count_append, List.count_nil]
  omega

private theorem takeTicket_places :
    places q.takeTicket.2 ticket =
      places q ticket + (holds ticket (.receive (.looking q.takeTicket.1))).toNat := by
  unfold Queue.takeTicket
  split
  next => rfl
  next =>
    simp only [places, holds, ticketOf, List.count_append]
    by_cases same : q.nextTicket = ticket
    · simp [same]
      omega
    · simp [same]

private theorem redeem_places (other : Ticket) (single : places q ticket = 1)
    (called : q.isCalled (some ticket) = true) :
    places (q.redeem (some ticket)) other = if ticket = other then 0 else places q other := by
  simp only [Queue.isCalled, Bool.or_eq_true, List.contains_iff_mem, ← List.count_pos_iff] at called
  simp only [places, Queue.redeem, List.count_erase, beq_iff_eq] at single ⊢
  split
  next same =>
    subst same
    omega
  next => rfl

private theorem leave_places (other : Ticket) (single : places q ticket = 1) :
    places (q.leave ticket) other = if ticket = other then 0 else places q other := by
  have erased : places (q.leave ticket) other =
      (q.waiting.erase ticket).count other + (q.called.erase ticket).count other +
        (q.released.erase ticket).count other := by
    unfold Queue.leave
    simp only
    split
    next => exact callOne_places _ other
    next => rfl
  rw [erased]
  simp only [places, List.count_erase, beq_iff_eq] at single ⊢
  split
  next same =>
    subst same
    omega
  next => rfl

end

section
variable {q : Queue} {before : Task} {turn : Turn}

private theorem Handling.places_eq (handling : Handling q before turn) (ticket : Ticket)
    (single : ∀ mine, ticketOf before = some mine → places q mine = 1) :
    places turn.queue ticket + (holds ticket before).toNat =
      places q ticket + (holds ticket turn.task).toNat := by
  have gone (mine : Ticket) (rest : Nat) (once : places q mine = 1)
      (left : rest = if mine = ticket then 0 else places q ticket) :
      rest + (decide (some mine = some ticket)).toNat = places q ticket := by
    by_cases same : mine = ticket
    · subst same
      simp [left, once]
    · simp [left, same]
  cases handling with
  | stay same => simp [holds, same]
  | accept | hand | shut => rfl
  | call => exact congrArg (· + 0) (callOne_places q ticket)
  | release => exact congrArg (· + 0) (callAll_places q ticket)
  | enter => exact takeTicket_places q ticket
  | @wake mine called =>
    cases mine with
    | none => rfl
    | some mine =>
      have once := single mine rfl
      exact gone mine _ once (redeem_places q mine ticket once called)
  | @leave mine result =>
    cases mine with
    | none => rfl
    | some mine =>
      have once := single mine rfl
      exact gone mine _ once (leave_places q mine ticket once)

structure Fewer (q after : Queue) : Prop where
  nextTicket : after.nextTicket = q.nextTicket
  waiting : ∀ ticket ∈ after.waiting, ticket ∈ q.waiting

private theorem Fewer.refl (q : Queue) : Fewer q q := ⟨rfl, fun _ member => member⟩

private theorem callOne_fewer (q : Queue) : Fewer q q.callOne := by
  unfold Queue.callOne
  split
  next => exact ⟨rfl, fun _ member => member⟩
  next first rest waiting =>
    refine ⟨rfl, ?_⟩
    intro ticket member
    rw [waiting]
    exact List.mem_cons_of_mem first member

private theorem redeem_fewer (q : Queue) (ticket : Option Ticket) : Fewer q (q.redeem ticket) := by
  cases ticket <;> exact ⟨rfl, fun _ member => member⟩

private theorem giveUp_fewer (q : Queue) (ticket : Option Ticket) : Fewer q (q.giveUp ticket) := by
  cases ticket with
  | none => exact .refl q
  | some ticket =>
    simp only [Queue.giveUp, Queue.leave]
    split
    next =>
      obtain ⟨same, less⟩ := callOne_fewer { q with
        waiting := q.waiting.erase ticket
        called := q.called.erase ticket
        released := q.released.erase ticket }
      exact ⟨same, fun other member => List.mem_of_mem_erase (less other member)⟩
    next => exact ⟨rfl, fun _ member => List.mem_of_mem_erase member⟩

/-- Only a receiver that enters takes a ticket. -/
theorem Handling.fewer (handling : Handling q before turn) :
    Fewer q turn.queue ∧ (∀ ticket, ticketOf turn.task = some ticket → ticketOf before = some ticket) ∨
      turn.queue = q.takeTicket.2 ∧ turn.task = .receive (.looking q.takeTicket.1) := by
  cases handling with
  | stay held => exact .inl ⟨.refl q, fun ticket mine => held ▸ mine⟩
  | accept | hand | shut => exact .inl ⟨⟨rfl, fun _ member => member⟩, fun _ mine => mine⟩
  | call => exact .inl ⟨callOne_fewer q, fun _ mine => mine⟩
  | enter => exact .inr ⟨rfl, rfl⟩
  | wake => exact .inl ⟨redeem_fewer q _, nofun⟩
  | leave => exact .inl ⟨giveUp_fewer q _, nofun⟩
  | release => exact .inl ⟨⟨rfl, fun _ member => by cases member⟩, fun _ mine => mine⟩

end

/-! ### Messages and calls -/

section
variable {q : Queue} {before : Task} {turn : Turn}

private theorem callOne_supply (q : Queue) :
    q.callOne.items = q.items ∧ (q.callOne.waiting = [] ∨ q.callOne.called.length = q.called.length + 1) := by
  unfold Queue.callOne
  split
  next empty => exact ⟨rfl, .inl empty⟩
  next => exact ⟨rfl, .inr (by simp)⟩

private theorem leave_supply (q : Queue) (ticket : Ticket) :
    (q.leave ticket).items = q.items ∧
      ((q.leave ticket).waiting = [] ∨ q.called.length ≤ (q.leave ticket).called.length) := by
  simp only [Queue.leave]
  split
  next passesOn =>
    have held : ticket ∈ q.called := List.contains_iff_mem.mp passesOn
    have erased : (q.called.erase ticket).length + 1 = q.called.length := by
      have some := List.length_pos_of_mem held
      rw [List.length_erase_of_mem held]
      omega
    obtain ⟨same, nobody | more⟩ := callOne_supply { q with
      waiting := q.waiting.erase ticket
      called := q.called.erase ticket
      released := q.released.erase ticket }
    · exact ⟨same, .inl nobody⟩
    · exact ⟨same, .inr (Nat.le_of_eq (erased.symm.trans more.symm))⟩
  next other =>
    have absent : ticket ∉ q.called := fun held => other (List.contains_iff_mem.mpr held)
    exact ⟨rfl, .inr (Nat.le_of_eq (congrArg List.length (List.erase_of_not_mem absent).symm))⟩

private theorem Handling.supply (handling : Handling q before turn) :
    turn.queue.waiting = [] ∨ turn.queue.items = [] ∨
      turn.queue.items.length + (onTheWay before).toNat + q.called.length ≤
        q.items.length + (onTheWay turn.task).toNat + turn.queue.called.length := by
  cases handling with
  | stay same other looked =>
    cases way : onTheWay before with
    | true => exact .inr (.inl (looked way))
    | false => exact .inr (.inr (by simp))
  | accept => exact .inr (.inr (by simp [onTheWay]))
  | call =>
    obtain ⟨same, nobody | more⟩ := callOne_supply q
    · exact .inl nobody
    · refine .inr (.inr ?_)
      simp only [same, more, onTheWay, Bool.toNat_true]
      omega
  | enter =>
    refine .inr (.inr ?_)
    unfold Queue.takeTicket
    split <;> exact Nat.le_refl _
  | hand first => exact .inr (.inr (by simp [first, onTheWay]))
  | @wake mine =>
    have erased : q.called.length ≤ (q.redeem mine).called.length + 1 := by
      cases mine with
      | none => exact Nat.le_succ _
      | some ticket =>
        have less := List.le_length_erase (a := ticket) (l := q.called)
        simp only [Queue.redeem]
        omega
    have same : (q.redeem mine).items = q.items := by cases mine <;> rfl
    refine .inr (.inr ?_)
    simp only [same, onTheWay, Bool.toNat_true, Bool.toNat_false]
    omega
  | @leave mine =>
    cases mine with
    | none => exact .inr (.inr (Nat.le_refl _))
    | some ticket =>
      obtain ⟨same, nobody | enough⟩ := leave_supply q ticket
      · exact .inl nobody
      · refine .inr (.inr ?_)
        simp only [Queue.giveUp, same, onTheWay, Bool.toNat_false]
        omega
  | shut => exact .inr (.inr (Nat.le_refl _))
  | release => exact .inl rfl

end

/-! ### Directions -/

def holders (l : Lane) (ticket : Ticket) : Nat := l.tasks.countP (holds ticket)

def Asleep (l : Lane) : Prop :=
  ∃ ticket, .receive (.sleeping (some ticket)) ∈ l.tasks ∧ ticket ∈ l.queue.waiting

structure Watched (l : Lane) : Prop where
  placed : ∀ ticket, places l.queue ticket = holders l ticket
  single : ∀ ticket, holders l ticket ≤ 1
  issued : ∀ ticket, 0 < holders l ticket → ticket < l.queue.nextTicket
  served : Asleep l → l.queue.items.length ≤ l.tasks.countP onTheWay + l.queue.called.length
  shut : Asleep l → l.queue.closed = true → .close .calling ∈ l.tasks

section
variable {l after : Lane} {event : Event} {n : Nat} {before : Task} {turn : Turn}

private theorem holders_pos {ticket : Ticket} (found : l.tasks[n]? = some before)
    (mine : ticketOf before = some ticket) : 0 < holders l ticket :=
  List.countP_pos_iff.mpr ⟨before, List.mem_of_getElem? found, decide_eq_true mine⟩

private theorem fresh_watched (capacity : Nat) : Watched (.fresh capacity) where
  placed _ := rfl
  single _ := Nat.zero_le 1
  issued _ some := absurd some (Nat.lt_irrefl 0)
  served := fun ⟨_, member, _⟩ => by cases member
  shut := fun ⟨_, member, _⟩ => by cases member

private theorem job_idle (job : Job) :
    ticketOf job.task = none ∧ onTheWay job.task = false ∧
      ∀ ticket, job.task ≠ .receive (.sleeping ticket) := by
  rcases job with (m | _ | _) | m <;> exact ⟨rfl, rfl, nofun⟩

private theorem begin_watched (watched : Watched l) (job : Job) : Watched (l.begin job) := by
  obtain ⟨free, idle, awake⟩ := job_idle job
  have same (ticket : Ticket) : holders (l.begin job) ticket = holders l ticket := by
    simp [holders, Lane.begin, holds, free]
  have sleeper : Asleep (l.begin job) → Asleep l := by
    rintro ⟨ticket, member, waiting⟩
    rcases List.mem_append.mp member with old | new
    · exact ⟨ticket, old, waiting⟩
    · exact absurd (List.mem_singleton.mp new).symm (awake _)
  refine ⟨?_, ?_, ?_, ?_, ?_⟩
  · intro ticket
    rw [same]
    exact watched.placed ticket
  · intro ticket
    rw [same]
    exact watched.single ticket
  · intro ticket some
    rw [same] at some
    exact watched.issued ticket some
  · intro asleep
    have served := watched.served (sleeper asleep)
    simpa [Lane.begin, idle] using served
  · intro asleep closed
    exact List.mem_append_left _ (watched.shut (sleeper asleep) closed)

private theorem mem_takeTicket {q : Queue} {ticket : Ticket} (waiting : ticket ∈ q.takeTicket.2.waiting) :
    ticket ∈ q.waiting ∨ ticket = q.nextTicket := by
  unfold Queue.takeTicket at waiting
  split at waiting
  next => exact .inl waiting
  next => simpa using waiting

private theorem asleep_record (watched : Watched l) (handling : Handling l.queue before turn)
    (asleep : Asleep (l.record n turn)) :
    Asleep l ∨ turn.queue.items = [] ∧ turn.queue.closed = false := by
  obtain ⟨ticket, member, waiting⟩ := asleep
  rcases List.mem_or_eq_of_mem_set member with old | now
  · obtain ⟨other, found⟩ := List.getElem?_of_mem old
    have issued := watched.issued ticket (holders_pos found rfl)
    have before : ticket ∈ l.queue.waiting := by
      rcases handling.fewer with ⟨fewer, _⟩ | ⟨same, _⟩
      · exact fewer.waiting ticket waiting
      · rw [Lane.record_queue, same] at waiting
        apply (mem_takeTicket waiting).resolve_right
        exact Nat.ne_of_lt issued
    exact .inl ⟨ticket, old, before⟩
  · -- Whoever falls asleep has found nothing, and the direction open.
    cases handling with
    | stay _ _ _ slept => exact .inr (slept _ now.symm)
    | call | accept | enter | hand | wake | leave | shut | release => cases now

section
variable {q : Queue} (handling : Handling q before turn)
include handling

private theorem Handling.closed (closed : turn.queue.closed = true) :
    q.closed = true ∨ turn.task = .close .calling := by
  cases handling with
  | stay | accept | hand | release => exact .inl closed
  | shut => exact .inr rfl
  | call => exact .inl ((callOne_same q).closed ▸ closed)
  | enter => exact .inl ((takeTicket_same q).closed ▸ closed)
  | wake => exact .inl ((redeem_same q _).closed ▸ closed)
  | leave => exact .inl ((giveUp_same q _).closed ▸ closed)

private theorem Handling.released (calling : before = .close .calling) : turn.queue.waiting = [] := by
  cases handling with
  | stay same other => exact absurd calling other
  | release => rfl
  | accept | call | enter | hand | wake | leave | shut => cases calling

private theorem Handling.nextTicket : q.nextTicket ≤ turn.queue.nextTicket := by
  rcases handling.fewer with ⟨fewer, _⟩ | ⟨same, _⟩
  · exact Nat.le_of_eq fewer.nextTicket.symm
  · rw [same]
    unfold Queue.takeTicket
    split
    next => exact Nat.le_refl _
    next => exact Nat.le_succ _

private theorem Handling.ticket {ticket : Ticket} (mine : ticketOf turn.task = some ticket) :
    ticketOf before = some ticket ∨ ticket = q.nextTicket ∧ ticket < turn.queue.nextTicket := by
  rcases handling.fewer with ⟨_, held⟩ | ⟨same, task⟩
  · exact .inl (held ticket mine)
  · rw [same]
    rw [task] at mine
    unfold Queue.takeTicket at mine ⊢
    split at mine
    next => cases mine
    next fresh =>
      cases mine
      rw [if_neg fresh]
      exact .inr ⟨rfl, Nat.lt_succ_self _⟩

end

section
variable (watched : Watched l) (found : l.tasks[n]? = some before) (handling : Handling l.queue before turn)
include watched found handling

private theorem record_holders (ticket : Ticket) :
    holders (l.record n turn) ticket ≤ holders l ticket ∨
      holders (l.record n turn) ticket ≤ 1 ∧ ticket < turn.queue.nextTicket := by
  have moved := countP_set_add found turn.task (holds ticket)
  show (l.tasks.set n turn.task).countP (holds ticket) ≤ l.tasks.countP (holds ticket) ∨
    (l.tasks.set n turn.task).countP (holds ticket) ≤ 1 ∧ _
  by_cases mine : ticketOf turn.task = some ticket
  · rcases handling.ticket mine with held | ⟨rfl, new⟩
    · simp only [holds, held, mine, decide_true, Bool.toNat_true] at moved
      exact .inl (Nat.le_of_eq (Nat.add_right_cancel moved))
    · have nobody : l.tasks.countP (holds l.queue.nextTicket) = 0 := by
        apply Nat.eq_zero_of_not_pos
        intro some
        exact Nat.lt_irrefl _ (watched.issued _ some)
      have one := Bool.toNat_le (holds l.queue.nextTicket turn.task)
      exact .inr ⟨by omega, new⟩
  · simp only [holds, mine, decide_false, Bool.toNat_false] at moved
    exact .inl (by omega)

private theorem record_places (ticket : Ticket) : places turn.queue ticket = holders (l.record n turn) ticket := by
  have single (mine : Ticket) (held : ticketOf before = some mine) : places l.queue mine = 1 := by
    rw [watched.placed]
    exact Nat.le_antisymm (watched.single mine) (holders_pos found held)
  have balance := handling.places_eq ticket single
  have moved := countP_set_add found turn.task (holds ticket)
  rw [watched.placed] at balance
  exact Nat.add_right_cancel (balance.trans moved.symm)

private theorem record_served (asleep : Asleep (l.record n turn)) :
    turn.queue.items.length ≤ (l.tasks.set n turn.task).countP onTheWay + turn.queue.called.length := by
  have way := countP_set_add found turn.task onTheWay
  rcases asleep_record watched handling asleep with earlier | ⟨none, _⟩
  · have served := watched.served earlier
    obtain ⟨ticket, _, waiting⟩ := asleep
    rcases handling.supply with nobody | none | enough
    · rw [Lane.record_queue, nobody] at waiting
      cases waiting
    · simp [none]
    · omega
  · simp [none]

private theorem record_shut (asleep : Asleep (l.record n turn)) (closed : turn.queue.closed = true) :
    .close .calling ∈ l.tasks.set n turn.task := by
  rcases handling.closed closed with earlier | calling
  · have before : Asleep l := by
      apply (asleep_record watched handling asleep).resolve_right
      rintro ⟨_, live⟩
      rw [live] at closed
      cases closed
    obtain ⟨other, there⟩ := List.getElem?_of_mem (watched.shut before earlier)
    by_cases same : n = other
    · subst same
      obtain ⟨ticket, _, waiting⟩ := asleep
      have calling := Option.some.inj (found.symm.trans there)
      rw [Lane.record_queue, handling.released calling] at waiting
      cases waiting
    · have still : (l.tasks.set n turn.task)[other]? = some (.close .calling) := by
        rwa [List.getElem?_set_ne same]
      exact List.mem_of_getElem? still
  · exact calling ▸ List.mem_set (List.getElem?_eq_some_iff.mp found).1 turn.task

private theorem record_watched : Watched (l.record n turn) where
  placed := record_places watched found handling
  single ticket := by
    have single := watched.single ticket
    rcases record_holders watched found handling ticket with fewer | ⟨one, _⟩
    · exact Nat.le_trans fewer single
    · exact one
  issued ticket some := by
    rcases record_holders watched found handling ticket with fewer | ⟨_, new⟩
    · have issued := watched.issued ticket (Nat.lt_of_lt_of_le some fewer)
      exact Nat.lt_of_lt_of_le issued handling.nextTicket
    · exact new
  served := record_served watched found handling
  shut := record_shut watched found handling

end

theorem step_watched (watched : Watched l) (stepped : l.step event = some after) : Watched after := by
  cases event with
  | start job =>
    cases stepped
    exact begin_watched watched job
  | act n ended =>
    simp only [Lane.step, Option.bind_eq_bind, Option.bind_eq_some_iff] at stepped
    obtain ⟨task, found, turn, moved, same⟩ := stepped
    cases same
    exact record_watched watched found (step_handling moved)

private theorem watched_of_leads {capacity : Nat} (led : Leads Lane.step (.fresh capacity) l) : Watched l :=
  led.invariant Watched (fresh_watched capacity) fun _ _ _ => step_watched

end

/-! ### Who can go on -/

def rests : Task → Bool
  | .send _ (.resting _) => true
  | _ => false

/-- Some task of a direction can go on now, given which contexts have ended. -/
def CanGoOn (l : Lane) (ended : Nat → Option ContextError) : Prop :=
  ∃ n task, l.tasks[n]? = some task ∧ rests task = false ∧ (task.step l.queue (ended n)).isSome = true

section
variable {l : Lane} {ended : Nat → Option ContextError}

private theorem canGoOn_of_mem {task : Task} (member : task ∈ l.tasks) (awake : rests task = false)
    (goes : ∀ ended, (task.step l.queue ended).isSome = true) : CanGoOn l ended := by
  obtain ⟨n, found⟩ := List.getElem?_of_mem member
  exact ⟨n, task, found, awake, goes (ended n)⟩

private theorem onTheWay_goes {task : Task} (way : onTheWay task = true) (q : Queue) (ended : Option ContextError) :
    rests task = false ∧ (task.step q ended).isSome = true := by
  cases task with
  | send m phase =>
    cases phase with
    | calling => exact ⟨rfl, rfl⟩
    | checking | pushing | resting | done => cases way
  | receive phase =>
    cases phase with
    | entering => exact ⟨rfl, rfl⟩
    | looking ticket =>
      refine ⟨rfl, ?_⟩
      rcases look_cases q ended ticket with ⟨_, _, _, moved⟩ | ⟨_, _, moved⟩ | ⟨_, _, moved⟩ <;>
        rw [moved] <;> rfl
    | checking | sleeping | leaving | done => cases way
  | close phase => cases way

private theorem called_goes {q : Queue} {ticket : Option Ticket} (called : q.isCalled ticket = true)
    (ended : Option ContextError) : ((Task.receive (.sleeping ticket)).step q ended).isSome = true := by
  cases ended with
  | some e => rfl
  | none => simp [Task.step, Receiving.step, called]

/-- Whoever holds a ticket that a message has called can go on. -/
theorem holder_goes {q : Queue} {task : Task} {ticket : Ticket} (mine : ticketOf task = some ticket)
    (called : ticket ∈ q.called) (ended : Option ContextError) :
    rests task = false ∧ (task.step q ended).isSome = true := by
  cases task with
  | send m phase => cases mine
  | receive phase =>
    cases phase with
    | looking => exact onTheWay_goes rfl q ended
    | leaving => exact ⟨rfl, rfl⟩
    | sleeping =>
      cases mine
      exact ⟨rfl, called_goes (by simp [Queue.isCalled, called]) ended⟩
    | checking | entering | done => cases mine
  | close phase => cases mine

/-- Where a message is left, a receiver that nobody has called does not sleep alone. -/
theorem Watched.goes_on (watched : Watched l) (asleep : Asleep l)
    (ready : l.queue.items ≠ [] ∨ l.queue.closed = true) : CanGoOn l ended := by
  rcases ready with messages | closed
  · have some : 0 < l.tasks.countP onTheWay + l.queue.called.length :=
      Nat.lt_of_lt_of_le (List.length_pos_iff.mpr messages) (watched.served asleep)
    rcases Nat.add_pos_iff_pos_or_pos.mp some with going | called
    · obtain ⟨task, member, way⟩ := List.countP_pos_iff.mp going
      have goes := onTheWay_goes way l.queue
      exact canGoOn_of_mem member (goes none).1 fun ended => (goes ended).2
    · obtain ⟨ticket, called⟩ := List.exists_mem_of_length_pos called
      have held : 0 < holders l ticket := by
        have somewhere := List.count_pos_iff.mpr called
        rw [← watched.placed, places]
        omega
      obtain ⟨task, member, mine⟩ := List.countP_pos_iff.mp held
      have goes := holder_goes (of_decide_eq_true mine) called
      exact canGoOn_of_mem member (goes none).1 fun ended => (goes ended).2
  · exact canGoOn_of_mem (watched.shut asleep closed) rfl fun _ => rfl

end

/-- However sends, receives and closes interleave and contexts end, a receiver that sleeps while its
direction has a message or is closed is not the end: some task can go on at once, be it the receiver. -/
theorem no_lost_wakeup {capacity : Nat} {c : Channel} (reached : Reachable capacity c) {l : Lane}
    (member : l ∈ c.lanes) (ended : Nat → Option ContextError) {n : Nat} {ticket : Option Ticket}
    (asleep : l.tasks[n]? = some (.receive (.sleeping ticket)))
    (ready : l.queue.items ≠ [] ∨ l.queue.closed = true) : CanGoOn l ended := by
  have watched := watched_of_leads (reached.lane member)
  by_cases called : l.queue.isCalled ticket = true
  · exact ⟨n, _, asleep, rfl, called_goes called (ended n)⟩
  · cases ticket with
    | none => exact absurd rfl called
    | some ticket =>
      simp only [Queue.isCalled, Bool.or_eq_true, List.contains_iff_mem, not_or] at called
      have somewhere := holders_pos asleep rfl
      have waiting : ticket ∈ l.queue.waiting := by
        rw [← watched.placed, places, List.count_eq_zero_of_not_mem called.1,
          List.count_eq_zero_of_not_mem called.2] at somewhere
        exact List.count_pos_iff.mp somewhere
      exact watched.goes_on ⟨ticket, List.mem_of_getElem? asleep, waiting⟩ ready

/-- The first of two receivers was called by a message, and leaves because its context has ended too. -/
def crossing : Lane where
  queue := { capacity := 2, items := [default], waiting := [1], called := [0], nextTicket := 2 }
  tasks :=
    [.receive (.leaving (some 0) (.error (.context .cancelled))), .receive (.sleeping (some 1)),
      .send default (.done (.ok none))]
  sent := [default]

theorem no_lost_wakeup_crossing :
    Reachable 2 { Channel.loopback 2 with lanes := [crossing] } ∧
      crossing.tasks[1]? = some (.receive (.sleeping (some 1))) ∧ crossing.queue.items ≠ [] ∧
      CanGoOn crossing fun _ => none := by
  have reached : Reachable 2 { Channel.loopback 2 with lanes := [crossing] } := .inl
    ⟨[.start 0 (.operate .receive), .act 0 0 none, .act 0 0 none, .act 0 0 none,
      .start 0 (.operate .receive), .act 0 1 none, .act 0 1 none, .act 0 1 none,
      .start 0 (.operate (.send default)), .act 0 2 none, .act 0 2 none, .act 0 2 none,
      .act 0 0 (some .cancelled)], rfl⟩
  have left : crossing.queue.items ≠ [] := List.cons_ne_nil _ _
  have asleep : crossing.tasks[1]? = some (.receive (.sleeping (some 1))) := rfl
  have member : crossing ∈ [crossing] := List.mem_singleton_self _
  exact ⟨reached, asleep, left, no_lost_wakeup reached member (fun _ => none) asleep (.inl left)⟩

end Courier.Proofs.ChannelWakeups
