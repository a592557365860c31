import Courier.Reconnecting
import Courier.Proofs.Runs

/-! Operations on a reconnecting transport, cut where others may come in between. An operation looks at the
slot several times, and has it for itself only while it looks. Where nobody comes in between, the parts
make up the operation. What a look can do to the slot is said once. -/

namespace Courier.Proofs.ReconnectingSections
open Reconnecting

inductive Stage where
  /-- Before the first look at the slot. -/
  | entering (goal : Goal)
  /-- Before a look at the context, in a search. -/
  | checking (s : Search) (wait : Duration) (last : Option TransportError)
  /-- Before a look at the slot, in a search. -/
  | looking (s : Search) (wait : Duration) (last : Option TransportError)
  | placing (s : Search) (c : Connection)
  | removing (goal : Goal) (c : Connection) (why : TransportError)
  | shutting
  | standing (next : Next)

/-- What an operation waits for. A rest ends in time, or before it with the context or the transport. -/
inductive Answer where
  | dialed (result : Except TransportError Connection)
  /-- A connection replies; the context is looked at after that. -/
  | replied (reply : Reply) (ended : Option ContextError)
  | rested
  | interrupted
  | shutDown

structure Turn where
  slot : Slot
  reports : List Report := []
  stage : Stage

def Turn.after (reports : List Report) (t : Turn) : Turn := { t with reports := reports ++ t.reports }

def Turn.of (s : Step) : Turn := { slot := s.slot, reports := s.reports, stage := .standing s.next }

def Stage.first : Operation → Stage
  | .send m => .entering (.send m)
  | .receive => .entering .receive
  | .close => .shutting

def requests : Stage → List Request
  | .standing (.ask request _) => [request]
  | _ => []

section
variable (config : Reconnect) (slot : Slot) (ended : Option ContextError)

/-- Goes on after a search. Receiving looks at the slot again. -/
def proceed (s : Search) (c : Connection) : Turn :=
  match s.cause, s.goal with
  | none, goal => .of (use slot goal c false)
  | some _, .send m => .of (use slot (.send m) c true)
  | some _, .receive => { slot, stage := .entering .receive }

def Stage.step : Stage → Option Turn
  | .entering goal =>
    if slot.closed then some (.of (giveUp slot { goal } closedError))
    else
      match slot.connection with
      | some c => some (.of (use slot goal c false))
      | none => some { slot, stage := .checking { goal } config.firstWait none }
  | .checking s wait last =>
    match ended with
    | some e => some (.of (giveUp slot s (last.getD (.context e))))
    | none => some { slot, stage := .looking s wait last }
  | .looking s wait _ =>
    if slot.closed then some (.of (giveUp slot s closedError))
    else
      match slot.connection with
      | some c => some (proceed slot s c)
      | none =>
        some { slot, reports := [.state .connecting], stage := .standing (.ask .dial (.dialing s wait)) }
  | .placing s c =>
    if slot.closed then some { slot, stage := .standing (.ask (.operate c .close) (.discarding s none)) }
    else
      match slot.connection with
      | some winner =>
        some { slot, stage := .standing (.ask (.operate c .close) (.discarding s (some winner))) }
      | none =>
        some ((proceed { slot with connection := some c } s c).after [.connected c, .state .connected])
  | .removing goal c why =>
    if slot.connection = some c then
      some
        { slot := { slot with connection := none }
          stage := .standing (.ask (.operate c .close) (.dropping goal why)) }
    else some { slot, stage := .checking ⟨goal, some why⟩ config.firstWait none }
  | .shutting => some (.of (close slot))
  | .standing _ => none

/-- What comes of an answer. It never takes a look at the slot, but an operation that rests notices that the
transport has been closed. -/
def answer : Phase → Answer → Option Turn
  | .dialing s wait, .dialed (.error why) =>
    some
      { slot
        reports := [.dialFailed why wait]
        stage := .standing (.ask (.rest wait) (.resting s wait why)) }
  | .dialing s _, .dialed (.ok c) => some { slot, stage := .placing s c }
  | .resting s wait last, .rested => some { slot, stage := .checking s (config.nextWait wait) (some last) }
  | .resting s _ last, .interrupted => some (.of (giveUp slot s last))
  | .resting s _ _, .shutDown => if slot.closed then some (.of (giveUp slot s closedError)) else none
  | .discarding s (some c), .replied _ _ =>
    some ((proceed slot s c).after [.connected c, .state .connected])
  | .discarding s none, .replied _ _ => some (.of (giveUp slot s closedError))
  | .using _ _ _, .replied (.ok m) _ => some { slot, stage := .standing (.finish (.ok m)) }
  | .using goal c replaced, .replied (.error why) ended =>
    if replaced || ended.isSome || !why.isConnectionFailure then
      some { slot, stage := .standing (.finish (.error why)) }
    else some { slot, stage := .removing goal c why }
  | .dropping goal cause, .replied reply _ =>
    let failed : List Report :=
      match reply with
      | .ok _ => []
      | .error why => [.closeFailed why]
    some
      { slot
        reports := failed ++ [.state .disconnected]
        stage := .checking ⟨goal, some cause⟩ config.firstWait none }
  | .closing, .replied reply _ => some { slot, stage := .standing (.finish reply) }
  | _, _ => none

/-! ### Operations that run alone -/

/-- The next turn of an operation with whose looks nobody interferes. -/
def alone (t : Turn) (_ : Unit) : Option Turn := (t.stage.step config t.slot ended).map (·.after t.reports)

def answerOf (dialed : Except TransportError Connection) (reply : Reply) : Phase → Answer
  | .dialing _ _ => .dialed dialed
  | .resting _ _ _ => if ended.isSome then .interrupted else .rested
  | _ => .replied reply ended

end

section
variable {config : Reconnect} {ended : Option ContextError} {slot : Slot}

private theorem alone_after {t last : Turn} (led : Leads (alone config ended) t last) (reports : List Report) :
    Leads (alone config ended) (t.after reports) (last.after reports) := by
  obtain ⟨events, ran⟩ := led
  refine ⟨events, ?_⟩
  induction events generalizing t with
  | nil =>
    cases ran
    rfl
  | cons event events ih =>
    rw [List.foldlM_cons] at ran ⊢
    obtain ⟨next, moved, ran⟩ := Option.bind_eq_some_iff.mp ran
    obtain ⟨turn, stepped, rfl⟩ := Option.map_eq_some_iff.mp moved
    refine Option.bind_eq_some_iff.mpr ⟨_, ?_, ih ran⟩
    simp [alone, Turn.after, stepped]

variable (config ended slot)

private theorem enter_alone (goal : Goal) :
    Leads (alone config ended) { slot, stage := .entering goal } (.of (start config slot ended goal)) := by
  simp only [start, dialUnless]
  cases closed : slot.closed with
  | true => exact ⟨[()], by simp [alone, Stage.step, closed, Turn.after, Turn.of]⟩
  | false =>
    cases held : slot.connection with
    | some c => exact ⟨[()], by simp [alone, Stage.step, closed, held, Turn.after, Turn.of]⟩
    | none =>
      cases ended with
      | some e => exact ⟨[(), ()], by simp [alone, Stage.step, closed, held, Turn.after, Turn.of]⟩
      | none => exact ⟨[(), (), ()], by simp [alone, Stage.step, closed, held, Turn.after, Turn.of]⟩

private theorem proceed_alone (s : Search) (c : Connection) :
    Leads (alone config ended) (proceed slot s c) (.of (found config slot ended s c)) := by
  obtain ⟨goal, cause⟩ := s
  cases cause with
  | none => exact ⟨[], rfl⟩
  | some why =>
    cases goal with
    | send m => exact ⟨[], rfl⟩
    | receive => exact enter_alone config ended slot .receive

private theorem search_alone (s : Search) (wait : Duration) (last : Option TransportError) :
    Leads (alone config ended) { slot, stage := .checking s wait last }
      (.of (search config slot ended s wait last)) := by
  simp only [search, dialUnless]
  cases ended with
  | some e => exact ⟨[()], by simp [alone, Stage.step, Turn.after, Turn.of]⟩
  | none =>
    cases closed : slot.closed with
    | true => exact ⟨[(), ()], by simp [alone, Stage.step, closed, Turn.after, Turn.of]⟩
    | false =>
      cases held : slot.connection with
      | some c =>
        refine Leads.trans ⟨[(), ()], ?_⟩ (proceed_alone config none slot s c)
        simp [alone, Stage.step, closed, held, Turn.after]
      | none => exact ⟨[(), ()], by simp [alone, Stage.step, closed, held, Turn.after, Turn.of]⟩

/-- The first step of an operation is its looks up to where it waits. -/
theorem perform_alone (op : Operation) :
    Leads (alone config ended) { slot, stage := .first op } (.of (perform config slot ended op)) := by
  cases op with
  | send m => exact enter_alone config ended slot (.send m)
  | receive => exact enter_alone config ended slot .receive
  | close => exact ⟨[()], rfl⟩

/-- A further step of an operation is what comes of the answer, and its looks up to where it waits
again. -/
theorem resume_alone (phase : Phase) (dialed : Except TransportError Connection) (reply : Reply) :
    ∃ t, answer config slot phase (answerOf ended dialed reply phase) = some t ∧
      Leads (alone config ended) t (.of (resume config slot ended phase dialed reply)) := by
  cases phase with
  | dialing s wait =>
    cases dialed with
    | error why => exact ⟨_, rfl, [], rfl⟩
    | ok c =>
      refine ⟨_, rfl, ?_⟩
      simp only [resume, afterDial]
      split
      next closed => exact ⟨[()], by simp [alone, Stage.step, closed, Turn.after, Turn.of]⟩
      next live =>
        split
        next winner held => exact ⟨[()], by simp [alone, Stage.step, live, held, Turn.after, Turn.of]⟩
        next empty =>
          have placed : Leads (alone config ended) { slot, stage := .placing s c }
              ((proceed { slot with connection := some c } s c).after [.connected c, .state .connected]) :=
            ⟨[()], by simp [alone, Stage.step, live, empty, Turn.after]⟩
          exact placed.trans (alone_after (proceed_alone config ended _ s c) _)
  | resting s wait last =>
    cases ended with
    | some e => exact ⟨_, rfl, [], rfl⟩
    | none => exact ⟨_, rfl, search_alone config none slot s _ _⟩
  | discarding s winner =>
    cases winner with
    | some c => exact ⟨_, rfl, alone_after (proceed_alone config ended slot s c) _⟩
    | none => exact ⟨_, rfl, [], rfl⟩
  | «using» goal c replaced =>
    cases reply with
    | ok m => exact ⟨_, rfl, [], rfl⟩
    | error why =>
      simp only [answerOf, answer, resume, afterUse]
      split
      · exact ⟨_, rfl, [], rfl⟩
      · refine ⟨_, rfl, ?_⟩
        split
        next held => exact ⟨[()], by simp [alone, Stage.step, held, Turn.after, Turn.of]⟩
        next other =>
          refine Leads.trans ⟨[()], ?_⟩ (search_alone config ended slot ⟨goal, some why⟩ _ none)
          simp [alone, Stage.step, other, Turn.after]
  | dropping goal cause =>
    refine ⟨_, rfl, ?_⟩
    have searched := alone_after (search_alone config ended slot ⟨goal, some cause⟩ config.firstWait none)
      ((match reply with
        | .ok _ => []
        | .error why => [.closeFailed why]) ++ [.state .disconnected])
    simp only [Turn.after, List.append_nil] at searched
    exact searched
  | closing => exact ⟨_, rfl, [], rfl⟩

end

/-! ### What a look can do -/

/-- What a look can do to the slot, and for which operations. -/
inductive Change (slot : Slot) : Stage → Turn → Prop where
  | keep {stage : Stage} {t : Turn} (same : t.slot = slot)
      (already : stage = .shutting → slot.closed = true) : Change slot stage t
  | install {s : Search} {c : Connection} {t : Turn} (live : slot.closed = false)
      (empty : slot.connection = none) (placed : t.slot = { slot with connection := some c }) :
      Change slot (.placing s c) t
  | remove {goal : Goal} {c : Connection} {why : TransportError} {t : Turn}
      (held : slot.connection = some c) (left : t.slot = { slot with connection := none }) :
      Change slot (.removing goal c why) t
  | retire {t : Turn} (live : slot.closed = false)
      (left : t.slot = { connection := none, closed := true }) : Change slot .shutting t

/-- A stage of this operation. What is asked of a connection in use is the operation itself. -/
def Serves (op : Operation) : Stage → Prop
  | .entering goal | .removing goal _ _ => goal.operation = op
  | .checking s _ _ | .looking s _ _ | .placing s _ => s.goal.operation = op
  | .shutting => op = .close
  | .standing (.finish _) => True
  | .standing (.ask request phase) =>
    match phase with
    | .dialing s _ | .resting s _ _ | .discarding s _ => s.goal.operation = op
    | .using goal c _ => goal.operation = op ∧ request = .operate c op
    | .dropping goal _ => goal.operation = op
    | .closing => op = .close

/-- Only a call begins with closing, and only a reply tells that a connection broke. -/
def Plain : Stage → Prop
  | .shutting | .removing _ _ _ => False
  | _ => True

structure Turned (slot : Slot) (stage : Stage) (t : Turn) : Prop where
  change : Change slot stage t
  serves : ∀ op, Serves op stage → Serves op t.stage
  plain : Plain t.stage

section
variable {config : Reconnect} {slot : Slot} {ended : Option ContextError} {stage : Stage} {phase : Phase}
  {request : Request} {a : Answer} {t : Turn}

theorem first_serves (op : Operation) : Serves op (.first op) := by
  cases op <;> rfl

private theorem proceed_slot (slot : Slot) (s : Search) (c : Connection) : (proceed slot s c).slot = slot := by
  unfold proceed
  split <;> rfl

private theorem proceed_serves (slot : Slot) (s : Search) (c : Connection) (op : Operation)
    (serves : s.goal.operation = op) : Serves op (proceed slot s c).stage := by
  unfold proceed
  split
  next => exact ⟨serves, congrArg (Request.operate c) serves⟩
  next sends => exact ⟨sends ▸ serves, congrArg (Request.operate c) (sends ▸ serves)⟩
  next receives => exact receives ▸ serves

private theorem proceed_plain (slot : Slot) (s : Search) (c : Connection) : Plain (proceed slot s c).stage := by
  unfold proceed
  split <;> trivial

private theorem giveUp_turned {s : Search} {why : TransportError} (other : stage ≠ .shutting) :
    Turned slot stage (.of (giveUp slot s why)) :=
  ⟨.keep rfl fun same => absurd same other, fun _ _ => trivial, trivial⟩

theorem step_turned (stepped : stage.step config slot ended = some t) : Turned slot stage t := by
  cases stage with
  | entering goal =>
    simp only [Stage.step] at stepped
    split at stepped
    · cases stepped
      exact giveUp_turned nofun
    split at stepped <;> cases stepped
    · exact ⟨.keep rfl nofun, fun _ serves => ⟨serves, congrArg (Request.operate _) serves⟩, trivial⟩
    · exact ⟨.keep rfl nofun, fun _ serves => serves, trivial⟩
  | checking s wait last =>
    cases ended <;> cases stepped
    · exact ⟨.keep rfl nofun, fun _ serves => serves, trivial⟩
    · exact giveUp_turned nofun
  | looking s wait last =>
    simp only [Stage.step] at stepped
    split at stepped
    · cases stepped
      exact giveUp_turned nofun
    split at stepped <;> cases stepped
    · exact ⟨.keep (proceed_slot slot s _) nofun, proceed_serves slot s _, proceed_plain slot s _⟩
    · exact ⟨.keep rfl nofun, fun _ serves => serves, trivial⟩
  | placing s c =>
    simp only [Stage.step] at stepped
    split at stepped
    · cases stepped
      exact ⟨.keep rfl nofun, fun _ serves => serves, trivial⟩
    next live =>
    split at stepped <;> cases stepped
    next => exact ⟨.keep rfl nofun, fun _ serves => serves, trivial⟩
    next empty =>
      have live : slot.closed = false := by simpa using live
      exact ⟨.install live empty (proceed_slot _ s c), proceed_serves _ s c, proceed_plain _ s c⟩
  | removing goal c why =>
    simp only [Stage.step] at stepped
    split at stepped <;> cases stepped
    next held => exact ⟨.remove held rfl, fun _ serves => serves, trivial⟩
    next => exact ⟨.keep rfl nofun, fun _ serves => serves, trivial⟩
  | shutting =>
    cases stepped
    simp only [Turn.of, close]
    split
    next closed => exact ⟨.keep rfl fun _ => closed, fun _ _ => trivial, trivial⟩
    next live =>
      have live : slot.closed = false := by simpa using live
      refine ⟨.retire live rfl, fun op serves => ?_, trivial⟩
      cases slot.connection with
      | some c => exact serves
      | none => trivial
  | standing next => cases stepped

theorem Change.emptied (change : Change slot stage t)
    (emptied : slot.closed = true → slot.connection = none) (closed : t.slot.closed = true) :
    t.slot.connection = none := by
  cases change with
  | keep same _ =>
    rw [same] at closed ⊢
    exact emptied closed
  | install live _ placed =>
    rw [placed] at closed
    cases live.symm.trans closed
  | remove _ left => rw [left]
  | retire _ left => rw [left]

/-- No look changes the slot of a transport that is closed. -/
theorem Change.unchanged (change : Change slot stage t)
    (shut : slot = { connection := none, closed := true }) : t.slot = slot := by
  subst shut
  cases change with
  | keep same _ => exact same
  | install live _ _ => cases live
  | remove held _ => cases held
  | retire live _ => cases live

theorem answer_cases (request : Request) (answered : answer config slot phase a = some t) :
    Turned slot (.standing (.ask request phase)) t ∨
      ∃ goal c why, phase = .using goal c false ∧ a = .replied (.error why) none ∧
        why.isConnectionFailure = true ∧ t = { slot, stage := .removing goal c why } := by
  have finishes {t : Turn} {reply : Reply} (done : t = { slot, stage := .standing (.finish reply) }) :
      Turned slot (.standing (.ask request phase)) t := by
    subst done
    exact ⟨.keep rfl nofun, fun _ _ => trivial, trivial⟩
  unfold answer at answered
  split at answered
  next s wait why =>
    cases answered
    exact .inl ⟨.keep rfl nofun, fun _ serves => serves, trivial⟩
  next s wait c =>
    cases answered
    exact .inl ⟨.keep rfl nofun, fun _ serves => serves, trivial⟩
  next s wait last =>
    cases answered
    exact .inl ⟨.keep rfl nofun, fun _ serves => serves, trivial⟩
  next s wait last =>
    cases answered
    exact .inl (giveUp_turned nofun)
  next s wait last =>
    split at answered <;> cases answered
    exact .inl (giveUp_turned nofun)
  next s c reply late =>
    cases answered
    exact .inl ⟨.keep (proceed_slot slot s c) nofun, proceed_serves slot s c, proceed_plain slot s c⟩
  next s reply late =>
    cases answered
    exact .inl (giveUp_turned nofun)
  next goal c replaced m late =>
    cases answered
    exact .inl (finishes rfl)
  next goal c replaced why late =>
    split at answered <;> cases answered
    next => exact .inl (finishes rfl)
    next goesOn =>
      obtain ⟨⟨rfl, rfl⟩, broke⟩ :
          (replaced = false ∧ late = none) ∧ why.isConnectionFailure = true := by
        simpa using goesOn
      exact .inr ⟨goal, c, why, rfl, rfl, broke, rfl⟩
  next goal cause reply late =>
    cases answered
    exact .inl ⟨.keep rfl nofun, fun _ serves => serves, trivial⟩
  next reply late =>
    cases answered
    exact .inl (finishes rfl)
  next => cases answered

theorem answer_slot (answered : answer config slot phase a = some t) : t.slot = slot := by
  rcases answer_cases .dial answered with turned | ⟨goal, c, why, _, _, _, rfl⟩
  · cases turned.change with
    | keep same _ => exact same
  · rfl

theorem answer_serves {op : Operation} (serves : Serves op (.standing (.ask request phase)))
    (answered : answer config slot phase a = some t) : Serves op t.stage := by
  rcases answer_cases request answered with turned | ⟨goal, c, why, rfl, _, _, rfl⟩
  · exact turned.serves op serves
  · exact serves.1

theorem Plain.onward (plain : Plain stage) : stage ≠ .shutting := by
  rintro rfl
  exact plain

theorem answer_onward (answered : answer config slot phase a = some t) : t.stage ≠ .shutting := by
  rcases answer_cases .dial answered with turned | ⟨goal, c, why, _, _, _, rfl⟩
  · exact turned.plain.onward
  · exact nofun

end

end Courier.Proofs.ReconnectingSections
