import Courier.Proofs.ReconnectingTasks

/-! Connections that broke. An operation that goes on after a failure has taken the connection out of the
slot, or has found that another did, and no connection returns to the slot. Only the failure of a
replacement, on which a message was sent again, leaves the slot as it is. -/

namespace Courier.Proofs.ReconnectingFailures
open Reconnecting ReconnectingTasks

/-- How a task can stand: it is over, or waits for what its phase says, with connections that are known.
Only a message is ever taken to a replacement. -/
inductive Waits (known : Connection → Prop) : Next → Prop where
  | finish (reply : Reply) : Waits known (.finish reply)
  | dial (s : Search) (wait : Duration) : Waits known (.ask .dial (.dialing s wait))
  | rest (s : Search) (wait : Duration) (last : TransportError) :
      Waits known (.ask (.rest wait) (.resting s wait last))
  | first {c : Connection} (goal : Goal) : known c →
      Waits known (.ask (.operate c goal.operation) (.using goal c false))
  | again {c : Connection} (m : Message) : known c →
      Waits known (.ask (.operate c (.send m)) (.using (.send m) c true))
  | discard {c : Connection} {winner : Option Connection} (s : Search) : (∀ c ∈ winner, known c) →
      Waits known (.ask (.operate c .close) (.discarding s winner))
  | drop {c : Connection} (goal : Goal) (cause : TransportError) :
      Waits known (.ask (.operate c .close) (.dropping goal cause))
  | close {c : Connection} : Waits known (.ask (.operate c .close) .closing)

section
variable (config : Reconnect) {slot : Slot} (ended : Option ContextError) {known : Connection → Prop}

private theorem Waits.mono {more : Connection → Prop} {next : Next} (waits : Waits known next)
    (grows : ∀ c, known c → more c) : Waits more next := by
  cases waits with
  | finish reply => exact .finish reply
  | dial s wait => exact .dial s wait
  | rest s wait last => exact .rest s wait last
  | first goal own => exact .first goal (grows _ own)
  | again m own => exact .again m (grows _ own)
  | discard s winners => exact .discard s fun c won => grows c (winners c won)
  | drop goal cause => exact .drop goal cause
  | close => exact .close

private theorem Waits.inUse {request : Request} {goal : Goal} {c : Connection} {replaced : Bool}
    (waits : Waits known (.ask request (.using goal c replaced))) :
    known c ∧ (replaced = true → ∃ m, goal = .send m) := by
  cases waits with
  | first goal own => exact ⟨own, fun never => by cases never⟩
  | again m own => exact ⟨own, fun _ => ⟨m, rfl⟩⟩

private theorem close_waits : Waits known (close slot).next := by
  unfold close
  split
  next => exact .finish _
  next =>
    cases slot.connection with
    | some c => exact .close
    | none => exact .finish _

variable (held : ∀ c ∈ slot.connection, known c)
include held

private theorem dialUnless_waits (s : Search) (wait : Duration) (last : Option TransportError)
    {go : Connection → Step} (found : ∀ c, known c → Waits known (go c).next) :
    Waits known (dialUnless slot ended s wait last go).next := by
  unfold dialUnless
  split
  next => exact .finish _
  next =>
    split
    next => exact .finish _
    next =>
      split
      next c inSlot => exact found c (held c inSlot)
      next => exact .dial s wait

private theorem start_waits (goal : Goal) : Waits known (start config slot ended goal).next := by
  unfold start
  simp only
  split
  next => exact .finish _
  next =>
    split
    next c inSlot => exact .first goal (held c inSlot)
    next => exact dialUnless_waits ended held _ _ _ fun c own => .first goal own

private theorem found_waits (s : Search) {c : Connection} (own : known c) :
    Waits known (found config slot ended s c).next := by
  unfold found
  split
  next => exact .first _ own
  next => exact .again _ own
  next => exact start_waits config ended held .receive

private theorem search_waits (s : Search) (wait : Duration) (last : Option TransportError) :
    Waits known (search config slot ended s wait last).next :=
  dialUnless_waits ended held s wait last fun _ own => found_waits config ended held s own

private theorem perform_waits (op : Operation) : Waits known (perform config slot ended op).next := by
  cases op with
  | send m => exact start_waits config ended held (.send m)
  | receive => exact start_waits config ended held .receive
  | close => exact close_waits

private theorem afterDial_waits (s : Search) (wait : Duration) {result : Except TransportError Connection}
    (new : ∀ c ∈ gained result, known c) : Waits known (afterDial config slot ended s wait result).next := by
  unfold afterDial
  cases result with
  | error why => exact .rest s wait why
  | ok c =>
    have own : known c := new c rfl
    simp only
    split
    next =>
      refine .discard s ?_
      intro c won
      cases won
    next =>
      split
      next winner inSlot =>
        refine .discard s ?_
        rintro c ⟨⟩
        exact held winner inSlot
      next =>
        refine found_waits config ended ?_ s own
        rintro c ⟨⟩
        exact own

private theorem afterUse_waits (goal : Goal) (c : Connection) (replaced : Bool) (reply : Reply) :
    Waits known (afterUse config slot ended goal c replaced reply).next := by
  unfold afterUse
  cases reply with
  | ok message => exact .finish _
  | error why =>
    simp only
    split
    next => exact .finish _
    next =>
      split
      next => exact .drop goal why
      next => exact search_waits config ended held _ _ none

private theorem resume_waits {request : Request} {phase : Phase} (waits : Waits known (.ask request phase))
    {dialed : Except TransportError Connection} (reply : Reply) (new : ∀ c ∈ gain phase dialed, known c) :
    Waits known (resume config slot ended phase dialed reply).next := by
  cases waits with
  | dial s wait => exact afterDial_waits config ended held s wait new
  | rest s wait last => exact search_waits config ended held s _ _
  | first goal own => exact afterUse_waits config ended held goal _ false reply
  | again m own => exact afterUse_waits config ended held (.send m) _ true reply
  | @discard _ winner s winners =>
    cases winner with
    | some c => exact found_waits config ended held s (winners c rfl)
    | none => exact .finish _
  | drop goal cause => exact search_waits config ended held _ _ none
  | close => exact .finish _

end

theorem Effect.held {slot : Slot} {new : Option Connection} {r : Step} (effect : Effect slot new r)
    {known : Connection → Prop} (held : ∀ c ∈ slot.connection, known c) (gains : ∀ c ∈ new, known c) :
    ∀ c ∈ r.slot.connection, known c := by
  cases effect with
  | keep quiet => rw [quiet.slot]; exact held
  | install _ _ quiet => rw [quiet.slot]; exact gains
  | reject same _ => rw [same]; exact held
  | remove _ same _ => rw [same]; intro c none; cases none
  | retire _ same _ => rw [same]; intro c none; cases none
  | shut _ quiet => rw [quiet.slot]; intro c none; cases none

structure Grounded (s : System) : Prop where
  slot : ∀ c ∈ s.slot.connection, c ∈ s.dialed
  tasks : ∀ next ∈ s.tasks, Waits (· ∈ s.dialed) next

theorem step_grounded {config : Reconnect} {s after : System} {event : Event} (valid : Grounded s)
    (stepped : s.step config event = some after) : Grounded after := by
  cases event with
  | start op ended =>
    cases stepped
    refine ⟨?_, ?_⟩
    · exact Effect.held (perform_effect config s.slot ended op) valid.slot fun c none => by cases none
    · intro next member
      rcases List.mem_append.mp member with old | new
      · exact valid.tasks next old
      · rw [List.mem_singleton.mp new]
        exact perform_waits config ended valid.slot op
  | answer task ended dialed reply =>
    obtain ⟨request, phase, waits, fresh, rfl⟩ := answer_cases stepped
    have old (c : Connection) (known : c ∈ s.dialed) : c ∈ s.dialed ++ (gain phase dialed).toList :=
      List.mem_append_left _ known
    have held : ∀ c ∈ s.slot.connection, c ∈ s.dialed ++ (gain phase dialed).toList :=
      fun c inSlot => old c (valid.slot c inSlot)
    have new : ∀ c ∈ gain phase dialed, c ∈ s.dialed ++ (gain phase dialed).toList :=
      fun c gained => List.mem_append_right _ (Option.mem_toList.mpr gained)
    refine ⟨Effect.held (resume_effect config s.slot ended phase dialed reply) held new, ?_⟩
    intro next member
    rcases List.mem_or_eq_of_mem_set member with other | rfl
    · exact (valid.tasks next other).mono old
    · have waits := (valid.tasks _ (List.mem_of_getElem? waits)).mono old
      exact resume_waits config ended held waits reply new

theorem reachable_grounded {config : Reconnect} {s : System} (reached : Reachable config s) : Grounded s :=
  reached.invariant Grounded ⟨(fun _ none => by cases none), fun _ none => by cases none⟩
    fun _ _ _ => step_grounded

section
variable {config : Reconnect} {s after : System} {event : Event} {task : Nat} {c : Connection}

def Gone (c : Connection) (s : System) : Prop := c ∈ s.dialed ∧ s.slot.connection ≠ some c

def Finished (task : Nat) (s : System) : Prop := ∃ reply, s.tasks[task]? = some (.finish reply)

private theorem Gone.step (gone : Gone c s) (stepped : s.step config event = some after) : Gone c after := by
  obtain ⟨dialed, absent⟩ := gone
  -- Only a dial brings a connection into the slot, and it brings one that was not there before.
  have kept {new : Option Connection} {r : Step} (effect : Effect s.slot new r)
      (fresh : ∀ c ∈ new, c ∉ s.dialed) : r.slot.connection ≠ some c := by
    have others : ∀ other ∈ r.slot.connection, other ≠ c := by
      refine Effect.held effect ?_ ?_
      · rintro other inSlot rfl
        exact absent inSlot
      · rintro other brought rfl
        exact fresh other brought dialed
    intro inSlot
    exact others c inSlot rfl
  rcases step_cases stepped with ⟨op, r, effect, _, rfl⟩ | ⟨_, _, _, new, r, _, effect, fresh, rfl⟩
  · exact ⟨dialed, kept effect fun c none => by cases none⟩
  · exact ⟨List.mem_append_left _ dialed, kept effect fresh⟩

private theorem Finished.step (finished : Finished task s) (stepped : s.step config event = some after) :
    Finished task after := by
  obtain ⟨reply, done⟩ := finished
  rcases step_cases stepped with ⟨op, r, _, _, rfl⟩ | ⟨other, _, _, _, r, waits, _, _, rfl⟩
  · exact ⟨reply, found_before done _⟩
  · exact ⟨reply, found_other waits done nofun _⟩

/-- In this event the connection broke under the task. -/
def Breaks (task : Nat) (c : Connection) (p : Passage System Event) : Prop :=
  ∃ goal replaced why ended dialed,
    p.before.tasks[task]? = some (.ask (.operate c goal.operation) (.using goal c replaced)) ∧
      p.event = .answer task ended dialed (.error why) ∧ why.isConnectionFailure = true

private theorem answer_using {request : Request} {goal : Goal} {replaced : Bool} {ended : Option ContextError}
    {dialed : Except TransportError Connection} {reply : Reply}
    (waits : s.tasks[task]? = some (.ask request (.using goal c replaced)))
    (stepped : s.step config (.answer task ended dialed reply) = some after) :
    after.slot = (afterUse config s.slot ended goal c replaced reply).slot ∧
      after.tasks[task]? = some (afterUse config s.slot ended goal c replaced reply).next ∧
      after.dialed = s.dialed := by
  obtain ⟨request, phase, found, _, rfl⟩ := answer_cases stepped
  rw [waits] at found
  cases found
  have inside : task < s.tasks.length := (List.getElem?_eq_some_iff.mp waits).1
  exact ⟨rfl, List.getElem?_set_self inside, List.append_nil _⟩

private theorem afterUse_broken (config : Reconnect) (slot : Slot) (ended : Option ContextError) (goal : Goal)
    (c : Connection) (replaced : Bool) {why : TransportError} (broken : why.isConnectionFailure = true) :
    (replaced = true ∨ ended ≠ none) ∧
        afterUse config slot ended goal c replaced (.error why) = { slot, next := .finish (.error why) } ∨
      replaced = false ∧
        (afterUse config slot ended goal c replaced (.error why)).slot.connection ≠ some c := by
  unfold afterUse
  simp only [broken, Bool.not_true, Bool.or_false]
  split
  next done =>
    refine .inl ⟨?_, rfl⟩
    rcases Bool.or_eq_true_iff.mp done with again | late
    · exact .inl again
    · exact .inr (Option.isSome_iff_ne_none.mp late)
  next goesOn =>
    refine .inr ⟨?_, ?_⟩
    · cases replaced with
      | true => exact absurd rfl goesOn
      | false => rfl
    · split
      next =>
        intro same
        cases same
      next other =>
        rw [(search_quiet config slot ended _ _ none).slot]
        exact other

/-- At the end of the event in which a connection broke, it is gone, or the operation is over. -/
theorem Breaks.settles (breaks : Breaks task c ⟨s, event, after⟩) (valid : Grounded s)
    (stepped : s.step config event = some after) : Gone c after ∨ Finished task after := by
  obtain ⟨goal, replaced, why, ended, dialed, waits, rfl, broken⟩ := breaks
  obtain ⟨slot, stands, same⟩ := answer_using waits stepped
  rcases afterUse_broken config s.slot ended goal c replaced broken with ⟨_, done⟩ | ⟨_, dropped⟩
  · rw [done] at stands
    exact .inr ⟨.error why, stands⟩
  · have known : c ∈ s.dialed := (valid.tasks _ (List.mem_of_getElem? waits)).inUse.1
    rw [← slot] at dropped
    exact .inl ⟨same ▸ known, dropped⟩

/-- What broke while the context is live stays in the slot only as the replacement for a message. -/
theorem Breaks.stays {dialed : Except TransportError Connection} {reply : Reply}
    (breaks : Breaks task c ⟨s, .answer task none dialed reply, after⟩) (valid : Grounded s)
    (stepped : s.step config (.answer task none dialed reply) = some after)
    (inSlot : after.slot.connection = some c) :
    s.slot.connection = some c ∧ ∃ m why,
      s.tasks[task]? = some (.ask (.operate c (.send m)) (.using (.send m) c true)) ∧
        reply = .error why ∧ why.isConnectionFailure = true := by
  obtain ⟨goal, replaced, why, ended, brought, waits, same, broken⟩ := breaks
  cases same
  obtain ⟨slot, _⟩ := answer_using waits stepped
  rcases afterUse_broken config s.slot none goal c replaced broken with ⟨again, stays⟩ | ⟨_, dropped⟩
  · obtain rfl : replaced = true := again.resolve_right fun ended => ended rfl
    obtain ⟨_, sends⟩ := (valid.tasks _ (List.mem_of_getElem? waits)).inUse
    obtain ⟨m, rfl⟩ := sends rfl
    rw [slot, stays] at inSlot
    exact ⟨inSlot, m, why, waits, rfl, broken⟩
  · rw [← slot] at dropped
    exact absurd inSlot dropped

private theorem broken_settles {passages : List (Passage System Event)}
    (ran : History (System.step config) {} passages s) {p : Passage System Event} (member : p ∈ passages)
    (breaks : Breaks task c p) : Gone c s ∨ Finished task s := by
  -- Both outcomes are kept by every event, so only the event itself is to be looked at.
  induction ran with
  | start => cases member
  | go prior moved ih =>
    rcases List.mem_append.mp member with earlier | now
    · rcases ih earlier with gone | finished
      · exact .inl (gone.step moved)
      · exact .inr (finished.step moved)
    · rw [List.mem_singleton.mp now] at breaks
      exact breaks.settles (reachable_grounded prior.leads) moved

/-- Whenever an operation goes on or returns while its context is live, the connections that broke under it
are out of the slot, except a replacement that broke just now when a message was sent on it again. -/
theorem broken_in_slot_iff {passages : List (Passage System Event)}
    (ran : History (System.step config) {} passages s) {dialed : Except TransportError Connection}
    {reply : Reply} (stepped : s.step config (.answer task none dialed reply) = some after)
    (broke : ∃ p ∈ passages ++ [⟨s, .answer task none dialed reply, after⟩], Breaks task c p) :
    after.slot.connection = some c ↔
      s.slot.connection = some c ∧ ∃ m why,
        s.tasks[task]? = some (.ask (.operate c (.send m)) (.using (.send m) c true)) ∧
          reply = .error why ∧ why.isConnectionFailure = true := by
  constructor
  · intro inSlot
    obtain ⟨p, member, breaks⟩ := broke
    rcases List.mem_append.mp member with earlier | now
    · rcases broken_settles ran earlier breaks with gone | ⟨outcome, done⟩
      · exact absurd inSlot (gone.step stepped).2
      · obtain ⟨_, _, waits, _⟩ := answer_cases stepped
        rw [waits] at done
        cases done
    · rw [List.mem_singleton.mp now] at breaks
      exact breaks.stays (reachable_grounded ran.leads) stepped inSlot
  · rintro ⟨inSlot, m, why, waits, rfl, broken⟩
    obtain ⟨slot, _⟩ := answer_using waits stepped
    rcases afterUse_broken config s.slot none (.send m) c true broken with ⟨_, stays⟩ | ⟨first, _⟩
    · rw [slot, stays]
      exact inSlot
    · cases first

end

def waiting : System where
  slot := { connection := some 1 }
  begun := [.receive]
  tasks := [.ask (.operate 1 .receive) (.using .receive 1 false)]
  dialed := [1]
  asked := [.dial, .operate 1 .receive]
  answered := [.dial]

def recovered : System where
  slot := { connection := some 2 }
  begun := [.receive]
  tasks := [.ask (.operate 2 .receive) (.using .receive 2 false)]
  dialed := [1, 2]
  asked := [.dial, .operate 1 .receive, .operate 1 .close, .dial, .operate 2 .receive]
  answered := [.dial, .operate 1 .receive, .operate 1 .close, .dial]

theorem broken_in_slot_iff_recovered :
    ∃ passages after, History (System.step {}) {} passages recovered ∧
      recovered.step {} (.answer 0 none (.ok 0) (.ok none)) = some after ∧
      (∃ p ∈ passages ++ [⟨recovered, .answer 0 none (.ok 0) (.ok none), after⟩], Breaks 0 1 p) ∧
      after.tasks = [.finish (.ok none)] ∧ after.slot.connection ≠ some 1 := by
  obtain ⟨passages, ran, p, member, breaks⟩ : ∃ passages, History (System.step {}) {} passages recovered ∧
      ∃ p ∈ passages, Breaks 0 1 p := by
    obtain ⟨early, ran⟩ : ∃ early, History (System.step {}) {} early waiting :=
      Leads.history ⟨[.start .receive none, .answer 0 none (.ok 1) (.ok none)], rfl⟩
    obtain ⟨dropping, dropped, led⟩ : ∃ next,
        waiting.step {} (.answer 0 none (.ok 0) (.error (.closed "peer"))) = some next ∧
          Leads (System.step {}) next recovered :=
      ⟨_, rfl, [.answer 0 none (.ok 0) (.ok none), .answer 0 none (.ok 2) (.ok none)], rfl⟩
    obtain ⟨late, ranOn⟩ := (ran.go dropped).extend led
    exact ⟨_, ranOn, _, List.mem_append_left _ (List.mem_append_right _ (List.mem_singleton_self _)),
      .receive, false, .closed "peer", none, .ok 0, rfl, rfl, rfl⟩
  obtain ⟨after, stepped, returned⟩ : ∃ after,
      recovered.step {} (.answer 0 none (.ok 0) (.ok none)) = some after ∧
        after.tasks = [.finish (.ok none)] := ⟨_, rfl, rfl⟩
  have broke : ∃ p ∈ passages ++ [⟨recovered, .answer 0 none (.ok 0) (.ok none), after⟩], Breaks 0 1 p :=
    ⟨p, List.mem_append_left _ member, breaks⟩
  refine ⟨passages, after, ran, stepped, broke, returned, ?_⟩
  rw [Ne, broken_in_slot_iff ran stepped broke]
  rintro ⟨inSlot, _⟩
  cases inSlot

/-- The first connection of a sender broke, and the message was sent again on the second. -/
def resending (m : Message) : System where
  slot := { connection := some 2 }
  begun := [.send m]
  tasks := [.ask (.operate 2 (.send m)) (.using (.send m) 2 true)]
  dialed := [1, 2]
  asked := [.dial, .operate 1 (.send m), .operate 1 .close, .dial, .operate 2 (.send m)]
  answered := [.dial, .operate 1 (.send m), .operate 1 .close, .dial]

/-- When the replacement breaks too, the sender returns and leaves it in the slot. -/
theorem broken_replacement_stays :
    ∃ m passages after, History (System.step {}) {} passages (resending m) ∧
      (resending m).step {} (.answer 0 none (.ok 0) (.error (.closed "peer"))) = some after ∧
      (∃ p ∈ passages ++ [⟨resending m, .answer 0 none (.ok 0) (.error (.closed "peer")), after⟩],
        Breaks 0 2 p) ∧
      after.tasks = [.finish (.error (.closed "peer"))] ∧ after.slot.connection = some 2 := by
  obtain ⟨passages, ran⟩ : ∃ passages, History (System.step {}) {} passages (resending default) :=
    Leads.history ⟨[.start (.send default) none, .answer 0 none (.ok 1) (.ok none),
      .answer 0 none (.ok 0) (.error (.closed "peer")), .answer 0 none (.ok 0) (.ok none),
      .answer 0 none (.ok 2) (.ok none)], rfl⟩
  exact ⟨default, passages, _, ran, rfl, ⟨_, List.mem_append_right _ List.mem_cons_self,
    .send default, true, .closed "peer", none, .ok 0, rfl, rfl, rfl⟩, rfl, rfl⟩

end Courier.Proofs.ReconnectingFailures
