import Courier.Proofs.ReconnectingTasks

/-! What a reconnecting transport makes known of its connection. The states are told in the order in which
operations come to them, and an operation that waits for a connection to close may owe one. Closing does not
wait for those. -/

namespace Courier.Proofs.ReconnectingReports
open Reconnecting ReconnectingTasks

def states (reports : List Report) : List ConnectionState :=
  reports.filterMap fun
    | .state told => some told
    | _ => none

def told (config : Reconnect) (s : System) : Event → List ConnectionState
  | .start op ended => states (perform config s.slot ended op).reports
  | .answer task ended dialed reply =>
    match s.tasks[task]? with
    | some (.ask _ phase) => states (resume config s.slot ended phase dialed reply).reports
    | _ => []

def observed (config : Reconnect) (passages : List (Passage System Event)) : List ConnectionState :=
  passages.flatMap fun p => told config p.before p.event

/-- The state that a task makes known as soon as it goes on, whatever has become of the transport. -/
def owed : Next → Option ConnectionState
  | .ask _ (.dropping _ _) => some .disconnected
  | .ask _ (.discarding _ (some _)) => some .connected
  | _ => none

def pending (s : System) : List ConnectionState := s.tasks.filterMap owed

@[simp] theorem states_append (reports more : List Report) :
    states (reports ++ more) = states reports ++ states more :=
  List.filterMap_append

@[simp] theorem states_after (reports : List Report) (r : Step) :
    states (r.after reports).reports = states reports ++ states r.reports := states_append ..

@[simp] theorem slot_after (reports : List Report) (r : Step) : (r.after reports).slot = r.slot := rfl

@[simp] theorem next_after (reports : List Report) (r : Step) : (r.after reports).next = r.next := rfl

@[simp] theorem states_state (told : ConnectionState) (reports : List Report) :
    states (.state told :: reports) = told :: states reports := rfl

@[simp] theorem states_connected (c : Connection) (reports : List Report) :
    states (.connected c :: reports) = states reports := rfl

@[simp] theorem states_dialFailed (why : TransportError) (wait : Duration) (reports : List Report) :
    states (.dialFailed why wait :: reports) = states reports := rfl

@[simp] theorem states_nil : states [] = [] := rfl

theorem observed_append (config : Reconnect) (passages more : List (Passage System Event)) :
    observed config (passages ++ more) = observed config passages ++ observed config more :=
  List.flatMap_append

/-- How a search for a connection can go on: it is over, it uses a connection that is there or that it
has been told of, or it dials. -/
inductive Sought (slot : Slot) (won : Option Connection) : Step → Prop where
  | decided (reply : Reply) : Sought slot won { slot, next := .finish reply }
  | uses {c : Connection} (goal : Goal) (replaced : Bool) (there : slot.connection = some c ∨ won = some c) :
      Sought slot won (use slot goal c replaced)
  | dials (s : Search) (wait : Duration) (live : slot.closed = false) (empty : slot.connection = none) :
      Sought slot won { slot, reports := [.state .connecting], next := .ask .dial (.dialing s wait) }

section
variable {config : Reconnect} {slot : Slot} {ended : Option ContextError} {won : Option Connection} {r : Step}

private theorem Sought.joining (sought : Sought slot none r) : Sought slot won r := by
  cases sought with
  | decided reply => exact .decided reply
  | uses goal replaced there => exact .uses goal replaced (.inl (there.resolve_right nofun))
  | dials s wait live empty => exact .dials s wait live empty

private theorem dialUnless_sought {go : Connection → Step} (s : Search) (wait : Duration)
    (last : Option TransportError) (found : ∀ c, slot.connection = some c → Sought slot won (go c)) :
    Sought slot won (dialUnless slot ended s wait last go) := by
  unfold dialUnless
  split
  · exact .decided _
  · split
    · exact .decided _
    next live =>
      split
      next c held => exact found c held
      next empty => exact .dials s wait (by simpa using live) empty

theorem start_sought (goal : Goal) : Sought slot none (start config slot ended goal) := by
  have held (c : Connection) (there : slot.connection = some c) : Sought slot none (use slot goal c false) :=
    .uses goal false (.inl there)
  simp only [start]
  split
  · exact .decided _
  · split
    next c there => exact held c there
    next => exact dialUnless_sought _ _ _ held

private theorem found_sought (s : Search) {c : Connection} (there : slot.connection = some c ∨ won = some c) :
    Sought slot won (found config slot ended s c) := by
  unfold found
  split
  · exact .uses _ _ there
  · exact .uses _ _ there
  · exact (start_sought .receive).joining

private theorem search_sought (s : Search) (wait : Duration) (last : Option TransportError) :
    Sought slot won (search config slot ended s wait last) :=
  dialUnless_sought s wait last fun _ held => found_sought s (.inl held)

private theorem Sought.dials_told (sought : Sought slot won r) :
    (states r.reports).count .connecting = (requests r.next).count .dial := by
  cases sought with
  | decided _ => rfl
  | uses goal _ _ => cases goal <;> rfl
  | dials _ _ _ _ => rfl

private theorem Sought.not_closed (sought : Sought slot won r) : .closed ∉ states r.reports := by
  cases sought <;> simp [states, use]

theorem Sought.silent (sought : Sought slot won r) (closed : slot.closed = true) :
    states r.reports = [] ∧ owed r.next = none := by
  cases sought with
  | decided _ => exact ⟨rfl, rfl⟩
  | uses _ _ _ => exact ⟨rfl, rfl⟩
  | dials _ _ live _ => exact nomatch live.symm.trans closed

/-! ### What a task does that goes on -/

inductive Resumed (slot : Slot) : Phase → Step → Prop where
  | failed (s : Search) (wait : Duration) (why : TransportError) :
      Resumed slot (.dialing s wait)
        { slot, reports := [.dialFailed why wait], next := .ask (.rest wait) (.resting s wait why) }
  | late (s : Search) (wait : Duration) (c : Connection) (closed : slot.closed = true) :
      Resumed slot (.dialing s wait) { slot, next := .ask (.operate c .close) (.discarding s none) }
  | lost (s : Search) (wait : Duration) (c : Connection) {winner : Connection}
      (held : slot.connection = some winner) :
      Resumed slot (.dialing s wait)
        { slot, next := .ask (.operate c .close) (.discarding s (some winner)) }
  | won (s : Search) (wait : Duration) (c : Connection) {r : Step} (live : slot.closed = false)
      (empty : slot.connection = none) (sought : Sought { slot with connection := some c } none r) :
      Resumed slot (.dialing s wait) (r.after [.connected c, .state .connected])
  | rested (s : Search) (wait : Duration) (last : TransportError) {r : Step} (sought : Sought slot none r) :
      Resumed slot (.resting s wait last) r
  | refused (s : Search) (reply : Reply) :
      Resumed slot (.discarding s none) { slot, next := .finish reply }
  | joined (s : Search) (winner : Connection) {r : Step} (sought : Sought slot (some winner) r) :
      Resumed slot (.discarding s (some winner)) (r.after [.connected winner, .state .connected])
  | done (goal : Goal) (c : Connection) (replaced : Bool) (reply : Reply) :
      Resumed slot (.using goal c replaced) { slot, next := .finish reply }
  | removed (goal : Goal) (replaced : Bool) (why : TransportError) {c : Connection}
      (held : slot.connection = some c) :
      Resumed slot (.using goal c replaced)
        { slot := { slot with connection := none }
          next := .ask (.operate c .close) (.dropping goal why) }
  | stale (goal : Goal) (c : Connection) (replaced : Bool) {r : Step} (sought : Sought slot none r) :
      Resumed slot (.using goal c replaced) r
  | dropped (goal : Goal) (why : TransportError) {failed : List Report} {r : Step}
      (silent : states failed = []) (sought : Sought slot none r) :
      Resumed slot (.dropping goal why) (r.after (failed ++ [.state .disconnected]))
  | closed (reply : Reply) : Resumed slot .closing { slot, next := .finish reply }

variable {phase : Phase} {dialed : Except TransportError Connection} {reply : Reply}

private theorem afterDial_resumed (s : Search) (wait : Duration) :
    Resumed slot (.dialing s wait) (afterDial config slot ended s wait dialed) := by
  unfold afterDial
  cases dialed with
  | error why => exact .failed s wait why
  | ok c =>
    simp only
    split
    next closed => exact .late s wait c closed
    next live =>
      split
      next held => exact .lost s wait c held
      next empty => exact .won s wait c (by simpa using live) empty (found_sought s (.inl rfl))

private theorem afterUse_resumed (goal : Goal) (c : Connection) (replaced : Bool) :
    Resumed slot (.using goal c replaced) (afterUse config slot ended goal c replaced reply) := by
  unfold afterUse
  cases reply with
  | ok message => exact .done goal c replaced _
  | error why =>
    simp only
    split
    · exact .done goal c replaced _
    · split
      next held => exact .removed goal replaced why held
      next => exact .stale goal c replaced (search_sought _ _ _)

theorem resume_resumed : Resumed slot phase (resume config slot ended phase dialed reply) := by
  cases phase with
  | dialing s wait => exact afterDial_resumed s wait
  | resting s wait last => exact .rested s wait last (search_sought _ _ _)
  | discarding s winner =>
    cases winner with
    | none => exact .refused s _
    | some c => exact .joined s c (found_sought s (.inr rfl))
  | «using» goal c replaced => exact afterUse_resumed goal c replaced
  | dropping goal why =>
    refine .dropped goal why ?_ (search_sought _ _ _)
    cases reply <;> rfl
  | closing => exact .closed reply

/-! ### What is made known -/

private theorem perform_dials (op : Operation) :
    (states (perform config slot ended op).reports).count .connecting =
      (requests (perform config slot ended op).next).count .dial := by
  cases op with
  | send m => exact (start_sought (.send m)).dials_told
  | receive => exact (start_sought .receive).dials_told
  | close =>
    simp only [perform, close]
    split
    · rfl
    · cases slot.connection <;> rfl

private theorem Resumed.dials_told (resumed : Resumed slot phase r) :
    (states r.reports).count .connecting = (requests r.next).count .dial := by
  cases resumed with
  | won _ _ _ _ _ sought => simpa using sought.dials_told
  | joined _ _ sought => simpa using sought.dials_told
  | dropped _ _ silent sought => simpa [silent] using sought.dials_told
  | rested _ _ _ sought | stale _ _ _ sought => exact sought.dials_told
  | _ => rfl

private theorem Resumed.not_closed (resumed : Resumed slot phase r) : .closed ∉ states r.reports := by
  cases resumed with
  | won _ _ _ _ _ sought => simpa using sought.not_closed
  | joined _ _ sought => simpa using sought.not_closed
  | dropped _ _ silent sought => simpa [silent] using sought.not_closed
  | rested _ _ _ sought | stale _ _ _ sought => exact sought.not_closed
  | _ => exact List.not_mem_nil

/-- Once the transport is closed, a task that goes on makes known what it owes and nothing else. -/
theorem Resumed.settled (resumed : Resumed { closed := true } phase r) (request : Request) :
    states r.reports = (owed (.ask request phase)).toList ∧ owed r.next = none := by
  cases resumed with
  | failed _ _ _ | late _ _ _ _ | refused _ _ | done _ _ _ _ | closed _ => exact ⟨rfl, rfl⟩
  | lost _ _ _ held => cases held
  | won _ _ _ live _ _ => cases live
  | removed _ _ _ held => cases held
  | rested _ _ _ sought | stale _ _ _ sought => exact sought.silent rfl
  | joined _ _ sought =>
    obtain ⟨silent, calm⟩ := sought.silent rfl
    exact ⟨by simp [silent, owed], calm⟩
  | dropped _ _ quiet sought =>
    obtain ⟨silent, calm⟩ := sought.silent rfl
    exact ⟨by simp [quiet, silent, owed], calm⟩

private theorem perform_settled (op : Operation) (closed : slot.closed = true) :
    states (perform config slot ended op).reports = [] ∧ owed (perform config slot ended op).next = none := by
  cases op with
  | send m => exact (start_sought (.send m)).silent closed
  | receive => exact (start_sought .receive).silent closed
  | close => simp [perform, close, closed, owed]

private theorem perform_told_closed {op : Operation} (told : .closed ∈ states (perform config slot ended op).reports) :
    (perform config slot ended op).slot = { closed := true } := by
  cases op with
  | send m => exact absurd told (start_sought (.send m)).not_closed
  | receive => exact absurd told (start_sought .receive).not_closed
  | close =>
    simp only [perform, close] at told ⊢
    split
    next closed =>
      rw [if_pos closed] at told
      cases told
    next => cases slot.connection <;> rfl

end

/-! ### What a run makes known -/

section
variable {config : Reconnect} {s after : System} {event : Event} {passages more : List (Passage System Event)}

theorem told_answer {task : Nat} {request : Request} {phase : Phase} (ended : Option ContextError)
    (dialed : Except TransportError Connection) (reply : Reply)
    (waits : s.tasks[task]? = some (.ask request phase)) :
    told config s (.answer task ended dialed reply) =
      states (resume config s.slot ended phase dialed reply).reports := by
  simp only [told, waits]

private theorem move_dials (moved : s.move config event = some after) :
    after.asked.count .dial = s.asked.count .dial + (told config s event).count .connecting := by
  cases event with
  | start op ended =>
    cases moved
    simp only [told, perform_dials, List.count_append]
  | answer task ended dialed reply =>
    obtain ⟨request, phase, waits, _, rfl⟩ := move_answer moved
    simp only [told_answer _ _ _ waits, resume_resumed.dials_told, List.count_append]

/-- As many dials are made known as are asked for. -/
theorem observed_dials (ran : History (System.move config) {} passages s) :
    (observed config passages).count .connecting = s.asked.count .dial := by
  induction ran with
  | start => rfl
  | go prior moved ih =>
    rw [observed_append, List.count_append, ih, move_dials moved]
    simp [observed]

private theorem move_closed (moved : s.move config event = some after) (closed : s.slot = { closed := true }) :
    after.slot = { closed := true } := by
  rcases move_cases moved with ⟨_, _, effect, _, rfl⟩ | ⟨_, _, _, _, _, effect, rfl⟩ <;>
  · rw [closed] at effect
    exact effect.final

private theorem move_told_closed (moved : s.move config event = some after) (closed : .closed ∈ told config s event) :
    after.slot = { closed := true } := by
  cases event with
  | start op ended =>
    cases moved
    exact perform_told_closed closed
  | answer task ended dialed reply =>
    obtain ⟨request, phase, waits, _, rfl⟩ := move_answer moved
    rw [told_answer _ _ _ waits] at closed
    exact absurd closed resume_resumed.not_closed

private theorem observed_closed (ran : History (System.move config) {} passages s)
    (closed : .closed ∈ observed config passages) : s.slot = { closed := true } := by
  induction ran with
  | start => cases closed
  | go prior moved ih =>
    rw [observed_append] at closed
    rcases List.mem_append.mp closed with before | now
    · exact move_closed moved (ih before)
    · exact move_told_closed moved (by simpa [observed] using now)

/-- After a close an event settles what a task owes, or makes nothing known. -/
theorem move_settles (closed : s.slot = { closed := true }) (moved : s.move config event = some after) :
    (told config s event ++ pending after).Perm (pending s) := by
  cases event with
  | start op ended =>
    cases moved
    obtain ⟨silent, calm⟩ : states (perform config s.slot ended op).reports = [] ∧
      owed (perform config s.slot ended op).next = none := perform_settled op (by rw [closed])
    simp [told, pending, silent, calm]
  | answer task ended dialed reply =>
    obtain ⟨request, phase, waits, _, rfl⟩ := move_answer moved
    have resumed : Resumed { closed := true } phase (resume config s.slot ended phase dialed reply) :=
      closed ▸ resume_resumed
    obtain ⟨said, calm⟩ := resumed.settled request
    have moved := filterMap_set_append waits owed (resume config s.slot ended phase dialed reply).next
    rw [calm] at moved
    rw [told_answer _ _ _ waits, said]
    simpa [pending] using List.perm_append_comm.trans moved

theorem run_settles (closed : s.slot = { closed := true }) (ran : History (System.move config) s more after) :
    (observed config more ++ pending after).Perm (pending s) ∧ after.slot = { closed := true } := by
  induction ran with
  | start => exact ⟨.refl _, closed⟩
  | go prior moved ih =>
    obtain ⟨settled, closed⟩ := ih
    refine ⟨?_, move_closed moved closed⟩
    rw [observed_append, List.append_assoc]
    simpa [observed] using ((move_settles closed moved).append_left _).trans settled

/-- A task that owes a state can go on at once. -/
theorem pending_told (config : Reconnect) {due : ConnectionState} (closed : s.slot = { closed := true })
    (owes : due ∈ pending s) :
    ∃ event after, s.move config event = some after ∧ told config s event = [due] := by
  obtain ⟨next, member, owes⟩ := List.mem_filterMap.mp owes
  obtain ⟨task, found⟩ := List.mem_iff_getElem?.mp member
  cases next with
  | finish reply => cases owes
  | ask request phase =>
    have resumed : Resumed { closed := true } phase
        (resume config s.slot none phase (.error closedError) (.ok none)) := closed ▸ resume_resumed
    refine ⟨.answer task none (.error closedError) (.ok none), ?_⟩
    simp only [System.move, found]
    refine ⟨_, rfl, ?_⟩
    rw [told_answer _ _ _ found, (resumed.settled request).1, owes]
    rfl

/-- However sends, receives and closes overlap: once a transport has told that it is closed, it tells what
operations owe that wait just then for a broken connection, or for one that came too late, to close. Each of
them tells it once, and nothing else is told. So nothing follows exactly if no operation owes anything. -/
theorem closed_is_last_iff (ran : History (System.move config) {} passages s)
    (closed : .closed ∈ observed config passages) :
    (∀ more after, History (System.move config) s more after →
      (observed config more ++ pending after).Perm (pending s)) ∧
    ((∀ more after, History (System.move config) s more after → observed config more = []) ↔
      pending s = []) := by
  have closed := observed_closed ran closed
  have settles {more : List (Passage System Event)} {after : System}
      (later : History (System.move config) s more after) :
      (observed config more ++ pending after).Perm (pending s) := (run_settles closed later).1
  refine ⟨fun more after later => settles later, ?_, ?_⟩
  · intro silent
    refine List.eq_nil_iff_forall_not_mem.mpr fun due owes => ?_
    obtain ⟨event, after, moved, heard⟩ := pending_told config closed owes
    have quiet := silent _ after (History.start.go moved)
    simp [observed, heard] at quiet
  · intro calm more after later
    have settled := settles later
    rw [calm, List.perm_nil] at settled
    exact (List.append_eq_nil_iff.mp settled).1

end

/-- Connection 7 has broken, and while the receive waits for it to close, the transport has been closed. -/
def dropping : System where
  slot := { closed := true }
  begun := [.receive, .close]
  tasks := [.ask (.operate 7 .close) (.dropping .receive (.closed "peer")), .finish (.ok none)]
  dialed := [7]
  asked := [.dial, .operate 7 .receive, .operate 7 .close]
  answered := [.dial, .operate 7 .receive]

private theorem dropping_closed :
    ∃ passages, History (System.move {}) {} passages dropping ∧
      observed {} passages = [.connecting, .connected, .closed] :=
  ⟨_, (((History.start.next (.start .receive none) rfl).next (.answer 0 none (.ok 7) (.ok none)) rfl).next
    (.answer 0 none (.ok 0) (.error (.closed "peer"))) rfl).next (.start .close none) rfl, rfl⟩

theorem closed_is_last_iff_dropping :
    ∃ passages, History (System.move {}) {} passages dropping ∧ .closed ∈ observed {} passages ∧
      pending dropping = [.disconnected] ∧
      ¬ ∀ more after, History (System.move {}) dropping more after → observed {} more = [] := by
  obtain ⟨passages, ran, heard⟩ := dropping_closed
  have closed : .closed ∈ observed {} passages := by simp [heard]
  exact ⟨passages, ran, closed, rfl, fun silent => nomatch (closed_is_last_iff ran closed).2.mp silent⟩

/-- When 7 has closed, the receive tells that the connection is gone. -/
theorem disconnected_after_closed :
    ∃ passages s more after, History (System.move {}) {} passages s ∧ .closed ∈ observed {} passages ∧
      History (System.move {}) s more after ∧ observed {} more = [.disconnected] := by
  obtain ⟨passages, ran, heard⟩ := dropping_closed
  exact ⟨passages, dropping, _, _, ran, by simp [heard],
    History.start.next (.answer 0 none (.ok 0) (.ok none)) rfl, rfl⟩

end Courier.Proofs.ReconnectingReports
