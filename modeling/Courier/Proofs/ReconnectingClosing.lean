import Courier.Proofs.ReconnectingSections

/-! Closing a reconnecting transport for ever. Any number of operations go on at once, and between any two
looks of one at the slot others may look. Once a close has taken its look, the slot stays empty, what is
dialed is closed, and an operation that begins later is over after its first look. Until then a connection
leaves the slot only through an operation that it failed. -/

namespace Courier.Proofs.ReconnectingClosing
open Reconnecting ReconnectingSections

structure Task where
  op : Operation
  stage : Stage

/-- A transport and the operations on it, with what they have asked for and what their dials have brought. -/
structure Work where
  slot : Slot := {}
  tasks : List Task := []
  asked : List (Nat × Request) := []
  brought : List (Nat × Connection) := []

inductive Event where
  | start (op : Operation)
  | look (task : Nat) (ended : Option ContextError)
  | answer (task : Nat) (a : Answer)

def brings : Answer → List Connection
  | .dialed (.ok c) => [c]
  | _ => []

namespace Work

def begin (w : Work) (op : Operation) : Work := { w with tasks := w.tasks ++ [⟨op, .first op⟩] }

def record (w : Work) (n : Nat) (op : Operation) (t : Turn) (new : List Connection) : Work where
  slot := t.slot
  tasks := w.tasks.set n ⟨op, t.stage⟩
  asked := w.asked ++ (requests t.stage).map fun request => (n, request)
  brought := w.brought ++ new.map fun c => (n, c)

def step (config : Reconnect) (w : Work) : Event → Option Work
  | .start op => some (w.begin op)
  | .look n ended => do
    let task ← w.tasks[n]?
    let turn ← task.stage.step config w.slot ended
    some (w.record n task.op turn [])
  | .answer n a =>
    match w.tasks[n]? with
    | some ⟨op, .standing (.ask _ phase)⟩ =>
      (answer config w.slot phase a).map fun turn => w.record n op turn (brings a)
    | _ => none

end Work

inductive Took (config : Reconnect) (w : Work) : Event → Work → Prop where
  | start (op : Operation) : Took config w (.start op) (w.begin op)
  | look {n : Nat} {task : Task} {ended : Option ContextError} {t : Turn} (found : w.tasks[n]? = some task)
      (turned : task.stage.step config w.slot ended = some t) :
      Took config w (.look n ended) (w.record n task.op t [])
  | answer {n : Nat} {op : Operation} {request : Request} {phase : Phase} {a : Answer} {t : Turn}
      (found : w.tasks[n]? = some ⟨op, .standing (.ask request phase)⟩)
      (answered : answer config w.slot phase a = some t) :
      Took config w (.answer n a) (w.record n op t (brings a))

section
variable {config : Reconnect} {w after : Work} {event : Event} {n m : Nat} {task other : Task} {t : Turn}
  {new : List Connection}

theorem step_took (stepped : w.step config event = some after) : Took config w event after := by
  cases event with
  | start op =>
    cases stepped
    exact .start op
  | look n ended =>
    obtain ⟨task, found, stepped⟩ := Option.bind_eq_some_iff.mp stepped
    obtain ⟨turn, turned, stepped⟩ := Option.bind_eq_some_iff.mp stepped
    cases stepped
    exact .look found turned
  | answer n a =>
    simp only [Work.step] at stepped
    split at stepped
    next found =>
      obtain ⟨turn, answered, rfl⟩ := Option.map_eq_some_iff.mp stepped
      exact .answer found answered
    next => cases stepped

theorem step_look {ended : Option ContextError} (found : w.tasks[n]? = some task)
    (turned : task.stage.step config w.slot ended = some t) :
    w.step config (.look n ended) = some (w.record n task.op t []) := by
  simp [Work.step, found, turned]

private theorem record_self (found : w.tasks[n]? = some task) (op : Operation) :
    (w.record n op t new).tasks[n]? = some ⟨op, t.stage⟩ := found_self found _

private theorem record_ne (differs : n ≠ m) (op : Operation) : (w.record n op t new).tasks[m]? = w.tasks[m]? :=
  List.getElem?_set_ne differs

private theorem record_found {op : Operation} (found : w.tasks[n]? = some task)
    (there : (w.record n op t new).tasks[m]? = some other) :
    m = n ∧ other = ⟨op, t.stage⟩ ∨ m ≠ n ∧ w.tasks[m]? = some other := found_set found there

private theorem begin_found {op : Operation} (there : (w.begin op).tasks[m]? = some other) :
    w.tasks[m]? = some other ∨ m = w.tasks.length ∧ other = ⟨op, .first op⟩ := found_append there

/-! ### Who has closed -/

def HasClosed (w : Work) : Prop :=
  ∃ (n : Nat) (task : Task), w.tasks[n]? = some task ∧ task.op = .close ∧ task.stage ≠ .shutting

structure Ordered (w : Work) : Prop where
  serves : ∀ (n : Nat) (task : Task), w.tasks[n]? = some task → Serves task.op task.stage
  closed : w.slot.closed = true ↔ HasClosed w
  emptied : w.slot.closed = true → w.slot.connection = none

private theorem HasClosed.record (closed : HasClosed w) (found : w.tasks[n]? = some task)
    (onward : t.stage ≠ .shutting) : HasClosed (w.record n task.op t new) := by
  obtain ⟨m, other, there, closes, past⟩ := closed
  by_cases same : n = m
  · subst same
    rw [found] at there
    cases there
    exact ⟨n, _, record_self found task.op, closes, onward⟩
  · exact ⟨m, other, (record_ne same task.op).trans there, closes, past⟩

private theorem HasClosed.of_record (closed : HasClosed (w.record n task.op t new))
    (found : w.tasks[n]? = some task) : HasClosed w ∨ task.op = .close ∧ task.stage = .shutting := by
  obtain ⟨m, other, there, closes, past⟩ := closed
  rcases record_found found there with ⟨rfl, rfl⟩ | ⟨_, there⟩
  · by_cases shuts : task.stage = .shutting
    · exact .inr ⟨closes, shuts⟩
    · exact .inl ⟨m, task, found, closes, shuts⟩
  · exact .inl ⟨m, other, there, closes, past⟩

private theorem begin_ordered (ordered : Ordered w) (op : Operation) : Ordered (w.begin op) := by
  refine ⟨?_, ordered.closed.trans ⟨?_, ?_⟩, ordered.emptied⟩
  · intro m other there
    rcases begin_found there with there | ⟨_, rfl⟩
    · exact ordered.serves m other there
    · exact first_serves op
  · rintro ⟨m, other, there, closes, past⟩
    exact ⟨m, other, found_before there _, closes, past⟩
  · rintro ⟨m, other, there, closes, past⟩
    rcases begin_found there with there | ⟨_, rfl⟩
    · exact ⟨m, other, there, closes, past⟩
    · obtain rfl : op = .close := closes
      exact absurd rfl past

private theorem record_ordered (ordered : Ordered w) (found : w.tasks[n]? = some task)
    (change : Change w.slot task.stage t) (serves : Serves task.op t.stage) (onward : t.stage ≠ .shutting) :
    Ordered (w.record n task.op t new) := by
  obtain ⟨op, stage⟩ := task
  -- Who has closed is no other than before, unless this is the look of a close.
  have kept (other : stage ≠ .shutting) : HasClosed (w.record n op t new) ↔ HasClosed w :=
    ⟨fun closed => (closed.of_record found).resolve_right fun shuts => other shuts.2,
      fun closed => closed.record found onward⟩
  refine ⟨?_, ?_, ?_⟩
  · intro m other there
    rcases record_found found there with ⟨_, rfl⟩ | ⟨_, there⟩
    · exact serves
    · exact ordered.serves m other there
  · change t.slot.closed = true ↔ HasClosed (w.record n op t new)
    cases change with
    | keep same already =>
      rw [same]
      refine ⟨fun closed => (ordered.closed.mp closed).record found onward, fun closed => ?_⟩
      rcases closed.of_record found with before | ⟨_, shuts⟩
      · exact ordered.closed.mpr before
      · exact already shuts
    | install live empty placed =>
      rw [placed]
      exact ordered.closed.trans (kept nofun).symm
    | remove held left =>
      rw [left]
      exact ordered.closed.trans (kept nofun).symm
    | retire live left =>
      rw [left]
      have closes : op = .close := ordered.serves n _ found
      exact ⟨fun _ => ⟨n, _, record_self found op, closes, onward⟩, fun _ => rfl⟩
  · exact change.emptied ordered.emptied

theorem step_ordered (ordered : Ordered w) (stepped : w.step config event = some after) :
    Ordered after := by
  cases step_took stepped with
  | start op => exact begin_ordered ordered op
  | look found turned =>
    have turned := step_turned turned
    exact record_ordered ordered found turned.change (turned.serves _ (ordered.serves _ _ found))
      turned.plain.onward
  | answer found answered =>
    have same := answer_slot answered
    exact record_ordered ordered found (.keep same nofun)
      (answer_serves (ordered.serves _ _ found) answered) (answer_onward answered)

private theorem Ordered.of_leads (led : Leads (Work.step config) {} w) : Ordered w := by
  refine led.invariant Ordered ⟨?_, ⟨?_, ?_⟩, fun _ => rfl⟩ fun _ _ _ => step_ordered
  · intro m other there
    cases there
  · intro closed
    cases closed
  · rintro ⟨m, other, there, _⟩
    cases there

private theorem Ordered.shut (ordered : Ordered w) (closed : HasClosed w) :
    w.slot = { connection := none, closed := true } := by
  have flag := ordered.closed.mpr closed
  have empty := ordered.emptied flag
  show Slot.mk w.slot.connection w.slot.closed = { connection := none, closed := true }
  rw [empty, flag]

/-! ### What comes after a close -/

def closedReply : Operation → Reply
  | .close => .ok none
  | _ => .error closedError

/-- An operation has got a connection from a dial and has not put it anywhere. -/
def Carries (w : Work) (n : Nat) (c : Connection) : Prop :=
  ∃ op s, w.tasks[n]? = some ⟨op, .placing s c⟩

/-- What is still so after a close, for the operations that begin after it and for the connections that
are dialed. -/
structure Kept (s after : Work) : Prop where
  slot : after.slot = { connection := none, closed := true }
  grown : s.tasks.length ≤ after.tasks.length
  late : ∀ (n : Nat) (task : Task), s.tasks.length ≤ n → after.tasks[n]? = some task →
    task.stage = .first task.op ∨ task.stage = .standing (.finish (closedReply task.op))
  logs : ∃ asked brought, after.asked = s.asked ++ asked ∧ after.brought = s.brought ++ brought ∧
    (∀ n request, (n, request) ∈ asked → n < s.tasks.length) ∧
    ∀ n c, Carries s n c ∨ (n, c) ∈ brought → Carries after n c ∨ (n, .operate c .close) ∈ asked

private theorem first_closed (config : Reconnect) {slot : Slot} (closed : slot.closed = true)
    (ended : Option ContextError) (op : Operation) : (Stage.first op).step config slot ended =
      some { slot, stage := .standing (.finish (closedReply op)) } := by
  cases op <;> simp [Stage.first, Stage.step, closed, close, giveUp, Turn.of, closedReply]

private theorem placing_closed {slot : Slot} (closed : slot.closed = true) (ended : Option ContextError)
    (s : Search) (c : Connection) : (Stage.placing s c).step config slot ended =
      some { slot, stage := .standing (.ask (.operate c .close) (.discarding s none)) } := by
  rw [Stage.step, if_pos closed]

private theorem brings_places {slot : Slot} {phase : Phase} {a : Answer} {c : Connection} (new : c ∈ brings a)
    (answered : answer config slot phase a = some t) : ∃ s, t.stage = .placing s c := by
  cases a with
  | dialed result =>
    cases result with
    | error why => cases new
    | ok dialed =>
      obtain rfl := List.mem_singleton.mp new
      cases phase with
      | dialing s wait =>
        cases answered
        exact ⟨s, rfl⟩
      | discarding s winner => cases winner <;> cases answered
      | _ => cases answered
  | _ => cases new

private theorem Carries.record {c : Connection} (carries : Carries w m c) (differs : n ≠ m) (op : Operation) :
    Carries (w.record n op t new) m c := by
  obtain ⟨mine, s, there⟩ := carries
  exact ⟨mine, s, (record_ne differs op).trans there⟩

section
variable {s : Work}

private theorem begin_kept (kept : Kept s w) (op : Operation) : Kept s (w.begin op) := by
  obtain ⟨asked, brought, sameAsked, sameBrought, early, placed⟩ := kept.logs
  refine ⟨kept.slot, ?_, ?_, asked, brought, sameAsked, sameBrought, early, ?_⟩
  · have grown := kept.grown
    simp only [Work.begin, List.length_append]
    omega
  · intro m other late there
    rcases begin_found there with there | ⟨_, rfl⟩
    · exact kept.late m other late there
    · exact .inl rfl
  · intro m c brought
    rcases placed m c brought with ⟨mine, search, there⟩ | closing
    · exact .inl ⟨mine, search, found_before there _⟩
    · exact .inr closing

/-- What a turn is to keep: an operation that began after the close is over with it, a connection that the
operation carried is being closed, and one that came just now is carried. -/
theorem record_kept (kept : Kept s w) (found : w.tasks[n]? = some task) (same : t.slot = w.slot)
    (ends : s.tasks.length ≤ n → t.stage = .standing (.finish (closedReply task.op)))
    (leaves : ∀ c, Carries w n c → .operate c .close ∈ requests t.stage)
    (comes : ∀ c ∈ new, ∃ search, t.stage = .placing search c) : Kept s (w.record n task.op t new) := by
  obtain ⟨asked, brought, sameAsked, sameBrought, early, placed⟩ := kept.logs
  refine ⟨same.trans kept.slot, ?_, ?_, asked ++ (requests t.stage).map fun request => (n, request),
    brought ++ new.map fun c => (n, c), ?_, ?_, ?_, ?_⟩
  · simpa only [Work.record, List.length_set] using kept.grown
  · intro m other late there
    rcases record_found found there with ⟨same, rfl⟩ | ⟨_, there⟩
    · exact .inr (ends (same ▸ late))
    · exact kept.late m other late there
  · simp only [Work.record, sameAsked, List.append_assoc]
  · simp only [Work.record, sameBrought, List.append_assoc]
  · intro m request member
    rcases List.mem_append.mp member with before | now
    · exact early m request before
    · obtain ⟨_, asks, same⟩ := List.mem_map.mp now
      cases same
      apply Nat.lt_of_not_le
      intro late
      rw [ends late] at asks
      cases asks
  · intro m c brings
    have known (before : Carries s m c ∨ (m, c) ∈ brought) :
        Carries (w.record n task.op t new) m c ∨
          (m, .operate c .close) ∈ asked ++ (requests t.stage).map fun request => (n, request) := by
      rcases placed m c before with carries | closing
      · by_cases same : n = m
        · subst same
          exact .inr (List.mem_append_right _ (List.mem_map_of_mem (leaves c carries)))
        · exact .inl (carries.record same task.op)
      · exact .inr (List.mem_append_left _ closing)
    rcases brings with carried | member
    · exact known (.inl carried)
    · rcases List.mem_append.mp member with earlier | now
      · exact known (.inr earlier)
      · obtain ⟨_, new, same⟩ := List.mem_map.mp now
        cases same
        obtain ⟨search, stage⟩ := comes c new
        refine .inl ⟨task.op, search, ?_⟩
        rw [record_self found, stage]

private theorem look_kept (kept : Kept s w) (found : w.tasks[n]? = some task) {ended : Option ContextError}
    (turned : task.stage.step config w.slot ended = some t) : Kept s (w.record n task.op t []) := by
  have closed : w.slot.closed = true := by rw [kept.slot]
  refine record_kept kept found ((step_turned turned).change.unchanged kept.slot) ?_ ?_ nofun
  · intro late
    rcases kept.late n task late found with first | ended
    · rw [first, first_closed config closed] at turned
      cases turned
      rfl
    · rw [ended] at turned
      cases turned
  · rintro c ⟨mine, search, there⟩
    rw [found] at there
    cases there
    rw [placing_closed closed] at turned
    cases turned
    exact List.mem_singleton.mpr rfl

private theorem answer_kept (kept : Kept s w) {op : Operation} {request : Request} {phase : Phase} {a : Answer}
    (found : w.tasks[n]? = some ⟨op, .standing (.ask request phase)⟩)
    (answered : answer config w.slot phase a = some t) : Kept s (w.record n op t (brings a)) := by
  refine record_kept kept found (answer_slot answered) ?_ ?_ fun c new => brings_places new answered
  · intro late
    rcases kept.late n _ late found with first | ended
    · cases op <;> cases first
    · cases ended
  · rintro c ⟨mine, search, there⟩
    rw [found] at there
    cases there

theorem step_kept (kept : Kept s w) (stepped : w.step config event = some after) : Kept s after := by
  cases step_took stepped with
  | start op => exact begin_kept kept op
  | look found turned => exact look_kept kept found turned
  | answer found answered => exact answer_kept kept found answered

private theorem Kept.of_leads (ordered : Ordered s) (closed : HasClosed s) (led : Leads (Work.step config) s w) :
    Kept s w := by
  refine led.invariant (Kept s) ⟨ordered.shut closed, Nat.le_refl _, ?_, [], [], (List.append_nil _).symm,
    (List.append_nil _).symm, nofun, ?_⟩ fun _ _ _ => step_kept
  · intro n task late there
    have inside := (List.getElem?_eq_some_iff.mp there).1
    omega
  · rintro n c (carries | never)
    · exact .inl carries
    · cases never

end

/-! ### How a connection leaves the slot -/

/-- In this event a connection fails the operation of this task. -/
def Fails (n : Nat) (c : Connection) (p : Passage Work Event) : Prop :=
  ∃ op goal why, p.before.tasks[n]? = some ⟨op, .standing (.ask (.operate c op) (.using goal c false))⟩ ∧
    p.event = .answer n (.replied (.error why) none) ∧ why.isConnectionFailure = true

private theorem removing_failed {passages : List (Passage Work Event)} {op : Operation} {goal : Goal}
    {c : Connection} {why : TransportError} (ran : History (Work.step config) {} passages w)
    (found : w.tasks[n]? = some ⟨op, .removing goal c why⟩) : ∃ p ∈ passages, Fails n c p := by
  induction ran generalizing op goal why with
  | start => cases found
  | @go passages middle last event prior moved ih =>
    have earlier (before : middle.tasks[n]? = some ⟨op, .removing goal c why⟩) :
        ∃ p ∈ passages ++ [⟨middle, event, last⟩], Fails n c p := by
      obtain ⟨p, member, fails⟩ := ih before
      exact ⟨p, List.mem_append_left _ member, fails⟩
    cases step_took moved with
    | start begun =>
      rcases begin_found found with before | ⟨_, same⟩
      · exact earlier before
      · cases begun <;> cases same
    | look there turned =>
      rcases record_found there found with ⟨_, same⟩ | ⟨_, before⟩
      · obtain ⟨_, stage⟩ := Task.mk.inj same
        have plain := (step_turned turned).plain
        rw [← stage] at plain
        exact plain.elim
      · exact earlier before
    | @answer _ mine request phase _ _ there answered =>
      rcases record_found there found with ⟨rfl, same⟩ | ⟨_, before⟩
      · obtain ⟨_, stage⟩ := Task.mk.inj same
        rcases answer_cases request answered with
          turned | ⟨used, other, cause, rfl, rfl, broke, rfl⟩
        · have plain := turned.plain
          rw [← stage] at plain
          exact plain.elim
        · cases stage
          have serves := (Ordered.of_leads prior.leads).serves _ _ there
          obtain ⟨_, rfl⟩ : goal.operation = mine ∧ request = .operate c mine := serves
          exact ⟨_, List.mem_append_right _ (List.mem_singleton.mpr rfl), _, _, _, there, rfl, broke⟩
      · exact earlier before

/-- In this event a close takes its look at the slot. -/
def Closes (w : Work) (event : Event) : Prop :=
  ∃ n ended, event = .look n ended ∧ w.tasks[n]? = some ⟨.close, .shutting⟩

/-- In this event an operation that a connection failed takes the connection out of the slot. -/
def Removes (w : Work) (n : Nat) (c : Connection) (event : Event) : Prop :=
  ∃ op goal why ended, event = .look n ended ∧ w.tasks[n]? = some ⟨op, .removing goal c why⟩

theorem step_removal {c : Connection} (ordered : Ordered w) (stepped : w.step config event = some after)
    (held : w.slot.connection = some c) (left : after.slot.connection ≠ some c) :
    Closes w event ∨ ∃ n, Removes w n c event := by
  cases step_took stepped with
  | start op => exact absurd held left
  | @look n task ended t found turned =>
    obtain ⟨op, stage⟩ := task
    change t.slot.connection ≠ some c at left
    cases (step_turned turned).change with
    | keep same _ =>
      rw [same] at left
      exact absurd held left
    | install _ empty _ =>
      rw [empty] at held
      cases held
    | @remove goal other why _ there _ =>
      rw [there] at held
      cases held
      exact .inr ⟨n, op, goal, why, ended, rfl, found⟩
    | retire _ _ =>
      obtain rfl : op = .close := ordered.serves n _ found
      exact .inl ⟨n, ended, rfl, found⟩
  | answer found answered =>
    have same := answer_slot answered
    exact absurd ((congrArg Slot.connection same).trans held) left

private theorem stale_failure {op : Operation} {goal : Goal} {old : Connection} {why : TransportError}
    {ended : Option ContextError} (found : w.tasks[n]? = some ⟨op, .removing goal old why⟩)
    (replaced : w.slot.connection ≠ some old) (stepped : w.step config (.look n ended) = some after) :
    after.slot = w.slot := by
  cases step_took stepped with
  | look there turned =>
    rw [found] at there
    cases there
    rw [Stage.step, if_neg replaced] at turned
    cases turned
    rfl

end

/-- After a close the slot is empty for ever. An operation that begins later is over after its first look,
with the reply that it is due, and asks for nothing. A connection that a dial brings is carried until it is
closed, and the operation that carries it closes it at its next look. -/
structure Sealed (config : Reconnect) (s after : Work) : Prop extends Kept s after where
  replies : ∀ (n : Nat) (task : Task) (ended : Option ContextError), s.tasks.length ≤ n →
    after.tasks[n]? = some task → task.stage = .first task.op →
    ∃ next, after.step config (.look n ended) = some next ∧
      next.tasks[n]? = some ⟨task.op, .standing (.finish (closedReply task.op))⟩
  discards : ∀ n c ended, Carries after n c →
    ∃ next, after.step config (.look n ended) = some next ∧
      next.asked = after.asked ++ [(n, .operate c .close)]

private theorem Kept.sealed {s after : Work} (config : Reconnect) (kept : Kept s after) : Sealed config s after := by
  have closed : after.slot.closed = true := by rw [kept.slot]
  refine ⟨kept, ?_, ?_⟩
  · intro n task ended late found first
    have turned := first_closed config closed ended task.op
    rw [← first] at turned
    exact ⟨_, step_look found turned, record_self found task.op⟩
  · rintro n c ended ⟨op, search, found⟩
    exact ⟨_, step_look found (placing_closed closed ended search c), rfl⟩

/-- However sends, receives and closes overlap: once a close has taken its look at the slot, the transport
is closed for good; and before, a connection leaves the slot only with a close, or with an operation that
this very connection failed, so a late failure does no harm to a replacement. -/
theorem close_is_final {config : Reconnect} {passages : List (Passage Work Event)} {s : Work}
    (ran : History (Work.step config) {} passages s) :
    (HasClosed s → ∀ after, Leads (Work.step config) s after → Sealed config s after) ∧
    (∀ event after c, s.step config event = some after → s.slot.connection = some c →
      after.slot.connection ≠ some c →
        Closes s event ∨ ∃ n, Removes s n c event ∧ ∃ p ∈ passages, Fails n c p) ∧
    ∀ n op goal old why ended after, s.tasks[n]? = some ⟨op, .removing goal old why⟩ →
      s.slot.connection ≠ some old → s.step config (.look n ended) = some after → after.slot = s.slot := by
  have ordered := Ordered.of_leads ran.leads
  refine ⟨?_, ?_, ?_⟩
  · intro closed after led
    exact (Kept.of_leads ordered closed led).sealed config
  · intro event after c stepped held left
    rcases step_removal ordered stepped held left with closes | ⟨n, removes⟩
    · exact .inl closes
    · obtain ⟨op, goal, why, ended, _, found⟩ := removes
      exact .inr ⟨n, ⟨op, goal, why, ended, ‹_›, found⟩, removing_failed ran found⟩
  · intro n op goal old why ended after found replaced stepped
    exact stale_failure found replaced stepped

/-- Connection 7 fails two receives, and the first of them has replaced it by 9 before the second looks at
the slot. A third still dials. -/
def overlapping : Work where
  slot := { connection := some 9 }
  tasks :=
    [⟨.receive, .entering .receive⟩,
      ⟨.receive, .removing .receive 7 (.closed "peer")⟩,
      ⟨.receive, .standing (.ask .dial (.dialing { goal := .receive } (.ofMillis 100)))⟩]
  asked :=
    [(0, .dial), (2, .dial), (0, .operate 7 .receive), (1, .operate 7 .receive), (0, .operate 7 .close),
      (0, .dial)]
  brought := [(0, 7), (0, 9)]

private theorem overlapping_reachable : Leads (Work.step {}) {} overlapping :=
  ⟨[.start .receive, .start .receive, .start .receive, .look 0 none, .look 0 none, .look 0 none,
    .look 2 none, .look 2 none, .look 2 none, .answer 0 (.dialed (.ok 7)), .look 0 none, .look 1 none,
    .answer 0 (.replied (.error (.closed "peer")) none), .answer 1 (.replied (.error (.closed "peer")) none),
    .look 0 none, .answer 0 (.replied (.ok none) none), .look 0 none, .look 0 none,
    .answer 0 (.dialed (.ok 9)), .look 0 none], rfl⟩

def shut : Work :=
  { overlapping with
    slot := { connection := none, closed := true }
    tasks := overlapping.tasks ++ [⟨.close, .standing (.ask (.operate 9 .close) .closing)⟩]
    asked := overlapping.asked ++ [(3, .operate 9 .close)] }

def shutLater : Work :=
  { shut with
    tasks :=
      [⟨.receive, .entering .receive⟩, ⟨.receive, .removing .receive 7 (.closed "peer")⟩,
        ⟨.receive, .placing { goal := .receive } 8⟩,
        ⟨.close, .standing (.ask (.operate 9 .close) .closing)⟩, ⟨.receive, .entering .receive⟩]
    brought := [(0, 7), (0, 9), (2, 8)] }

theorem close_is_final_overlapping :
    (∃ after, overlapping.step {} (.look 1 none) = some after ∧ after.slot = overlapping.slot) ∧
      Leads (Work.step {}) {} shut ∧ Sealed {} shut shutLater ∧ Carries shutLater 2 8 := by
  have reached : Leads (Work.step {}) {} shut :=
    overlapping_reachable.trans ⟨[.start .close, .look 3 none], rfl⟩
  have later : Leads (Work.step {}) shut shutLater :=
    ⟨[.answer 2 (.dialed (.ok 8)), .start .receive], rfl⟩
  have closed : HasClosed shut := ⟨3, _, rfl, rfl, nofun⟩
  obtain ⟨before, ranBefore⟩ := overlapping_reachable.history
  obtain ⟨passages, ran⟩ := reached.history
  have stale := (close_is_final ranBefore).2.2 1 _ _ 7 _ none _ rfl (by decide) rfl
  exact ⟨⟨_, rfl, stale⟩, reached, (close_is_final ran).1 closed shutLater later, _, _, rfl⟩

end Courier.Proofs.ReconnectingClosing
