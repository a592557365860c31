import Courier.Proofs.BreakerTraffic
import Courier.Simulation.Guarded

/-! Any number of calls through one breaker. Some tell their callers of a rejection, and some hand it to a
fallback; the two are written out one beside the other. Each use of the breaker's lock is a step, and so is
what a call does without it: a rejection is counted after the lock has been let go of, and the function runs
after that. Between any two steps of a call others may go on. Seen without its fallback a call is a plain one,
step by step, so what a step can do is said once. -/

namespace Courier.Proofs.BreakerCalls
open Breaker BreakerTraffic

variable {ε α : Type}

/-- Where a call stands that tells its caller of a rejection. -/
inductive Plain (ε α : Type) where
  | arriving
  /-- Turned away; the rejection has not been counted yet. -/
  | refused
  | rejected
  | admitted (permit : Permit)
  | running (permit : Permit)
  /-- The function has returned; the breaker does not know yet. -/
  | returned (permit : Permit) (result : Except ε α) (ended : Option ContextError)
  | finished (result : Except ε α) (ended : Option ContextError)
  | dropped

/-- Where a call stands that hands a rejection to its fallback. -/
inductive Backed (ε α : Type) where
  | arriving
  | refused
  | fallingBack
  | fellBack (result : Except ε α)
  | abandoned
  | admitted (permit : Permit)
  | running (permit : Permit)
  | returned (permit : Permit) (result : Except ε α) (ended : Option ContextError)
  | finished (result : Except ε α) (ended : Option ContextError)
  | dropped

/-- What makes a call go on. Who has waited for its function looks at the context afterwards. -/
inductive Deed where
  | proceed
  | answer (ended : Option ContextError)
  | drop
  | fallBack
  | abandon

structure Turn (τ : Type) where
  breaker : Breaker
  stage : τ
  known : List BreakerEvent := []

def Turn.map {τ υ : Type} (f : τ → υ) (turn : Turn τ) : Turn υ := ⟨turn.breaker, f turn.stage, turn.known⟩

def Plain.step (function : Except ε α) (b : Breaker) (now : Instant) :
    Plain ε α → Deed → Option (Turn (Plain ε α))
  | .arriving, .proceed =>
    match b.allow now with
    | (some permit, after, _) => some ⟨after, .admitted permit, (b.read now).2⟩
    | (none, after, _) => some ⟨after, .refused, (b.read now).2⟩
  | .refused, .proceed => some ⟨b, .rejected, [.rejection]⟩
  | .admitted permit, .proceed => some ⟨b, .running permit, []⟩
  | .running permit, .answer ended => some ⟨b, .returned permit function ended, []⟩
  | .running permit, .drop => some ⟨b.drop permit, .dropped, []⟩
  | .returned permit result ended, .proceed =>
    let (after, known) := b.complete permit result.isOk ended now
    some ⟨after, .finished result ended, known⟩
  | _, _ => none

def Backed.step (function fallback : Except ε α) (b : Breaker) (now : Instant) :
    Backed ε α → Deed → Option (Turn (Backed ε α))
  | .arriving, .proceed =>
    match b.allow now with
    | (some permit, after, _) => some ⟨after, .admitted permit, (b.read now).2⟩
    | (none, after, _) => some ⟨after, .refused, (b.read now).2⟩
  | .refused, .proceed => some ⟨b, .fallingBack, [.rejection]⟩
  | .fallingBack, .fallBack => some ⟨b, .fellBack fallback, []⟩
  | .fallingBack, .abandon => some ⟨b, .abandoned, []⟩
  | .admitted permit, .proceed => some ⟨b, .running permit, []⟩
  | .running permit, .answer ended => some ⟨b, .returned permit function ended, []⟩
  | .running permit, .drop => some ⟨b.drop permit, .dropped, []⟩
  | .returned permit result ended, .proceed =>
    let (after, known) := b.complete permit result.isOk ended now
    some ⟨after, .finished result ended, known⟩
  | _, _ => none

/-- A call with what its function returns if it is called, and what its fallback returns if it has one. -/
inductive Call (ε α : Type) where
  | plain (function : Except ε α) (stage : Plain ε α)
  | backed (function fallback : Except ε α) (stage : Backed ε α)

namespace Call

def first (function : Except ε α) : Option (Except ε α) → Call ε α
  | none => .plain function .arriving
  | some fallback => .backed function fallback .arriving

def step (b : Breaker) (now : Instant) : Call ε α → Deed → Option (Turn (Call ε α))
  | .plain function stage, deed => (stage.step function b now deed).map (·.map (.plain function))
  | .backed function fallback stage, deed =>
    (stage.step function fallback b now deed).map (·.map (.backed function fallback))

def function : Call ε α → Except ε α
  | .plain function _ | .backed function _ _ => function

def instead : Call ε α → Outcome ε α
  | .plain _ _ => .rejected
  | .backed _ fallback _ => .returned fallback

def permit? : Call ε α → Option Permit
  | .plain _ (.admitted permit) | .plain _ (.running permit) | .plain _ (.returned permit _ _) => some permit
  | .backed _ _ (.admitted permit) | .backed _ _ (.running permit) | .backed _ _ (.returned permit _ _) =>
    some permit
  | _ => none

def turnedAway : Call ε α → Bool
  | .plain _ .refused | .plain _ .rejected => true
  | .backed _ _ .refused | .backed _ _ .fallingBack | .backed _ _ (.fellBack _) | .backed _ _ .abandoned => true
  | _ => false

def invoked : Call ε α → Bool
  | .plain _ (.running _) | .plain _ (.returned _ _ _) | .plain _ (.finished _ _) | .plain _ .dropped => true
  | .backed _ _ (.running _) | .backed _ _ (.returned _ _ _) | .backed _ _ (.finished _ _)
  | .backed _ _ .dropped => true
  | _ => false

def reply? : Call ε α → Option (Outcome ε α)
  | .plain _ .rejected => some .rejected
  | .plain _ (.finished result _) => some (.returned result)
  | .backed _ _ (.fellBack result) | .backed _ _ (.finished result _) => some (.returned result)
  | _ => none

end Call

structure System (ε α : Type) where
  breaker : Breaker
  now : Instant := 0
  calls : List (Call ε α) := []
  known : List BreakerEvent := []

inductive Event (ε α : Type) where
  | begin (function : Except ε α) (fallback : Option (Except ε α))
  | act (call : Nat) (deed : Deed)
  | observe
  | elapse (time : Nat)

namespace System

def start (config : BreakerConfig) : System ε α := { breaker := .new config }

def record (s : System ε α) (n : Nat) (turn : Turn (Call ε α)) : System ε α where
  breaker := turn.breaker
  now := s.now
  calls := s.calls.set n turn.stage
  known := s.known ++ turn.known

def step (s : System ε α) : Event ε α → Option (System ε α)
  | .begin function fallback => some { s with calls := s.calls ++ [.first function fallback] }
  | .act n deed => s.calls[n]?.bind fun call => (call.step s.breaker s.now deed).map (s.record n)
  | .observe =>
    let (breaker, events) := s.breaker.read s.now
    some { s with breaker, known := s.known ++ events }
  | .elapse time => some { s with now := s.now + time }

end System

abbrev Reachable (config : BreakerConfig) (s : System ε α) : Prop := Leads System.step (.start config) s

/-! ### Calls that run alone -/

/-- Who is asked for leave changes no more than a look does, apart from the slots. -/
theorem allow_eq (b : Breaker) (now : Instant) :
    (b.allow now).2.1 = { (b.read now).1 with inFlight := (b.allow now).2.1.inFlight } := by
  rcases allow_cases b now (Prod.eta _).symm with ⟨_, same⟩ | ⟨_, same⟩ | ⟨_, _, same⟩ | ⟨_, _, same⟩
  all_goals rw [same]

private theorem allow_known (b : Breaker) (now : Instant) :
    (b.allow now).2.2 =
      (b.read now).2 ++ (if (b.allow now).1.isNone then [BreakerEvent.rejection] else []) := by
  rcases allow_cases b now (Prod.eta _).symm with ⟨_, same⟩ | ⟨_, same⟩ | ⟨_, _, same⟩ | ⟨_, _, same⟩
  all_goals simp [same]

def Call.received (function : Except ε α) : Option (Except ε α) → Option Permit → Call ε α
  | none, some permit => .plain function (.running permit)
  | none, none => .plain function .rejected
  | some fallback, some permit => .backed function fallback (.running permit)
  | some fallback, none => .backed function fallback .fallingBack

def Call.settled (function : Except ε α) (fallback : Option (Except ε α)) (ended : Option ContextError) : Call ε α :=
  match fallback with
  | none => .plain function (.finished function ended)
  | some fallback => .backed function fallback (.finished function ended)

/-- A call whose way in nobody interrupts asks the breaker one question. -/
theorem begin_alone (s : System ε α) (function : Except ε α) (fallback : Option (Except ε α)) :
    Leads System.step s
      { s with breaker := (s.breaker.allow s.now).2.1
               calls := s.calls ++ [.received function fallback (s.breaker.allow s.now).1]
               known := s.known ++ (s.breaker.allow s.now).2.2 } := by
  refine ⟨[.begin function fallback, .act s.calls.length .proceed, .act s.calls.length .proceed], ?_⟩
  rw [allow_known]
  rcases allowed : s.breaker.allow s.now with ⟨_ | permit, after, events⟩ <;> cases fallback <;>
    simp [System.step, System.record, Call.first, Call.step, Plain.step, Backed.step, Turn.map, Call.received,
      allowed]

/-- A call whose way out nobody interrupts tells the breaker its outcome. -/
theorem end_alone (s : System ε α) {n : Nat} {function : Except ε α} {fallback : Option (Except ε α)}
    {permit : Permit} (found : s.calls[n]? = some (.received function fallback (some permit)))
    (ended : Option ContextError) :
    Leads System.step s
      { s with breaker := (s.breaker.complete permit function.isOk ended s.now).1
               calls := s.calls.set n (.settled function fallback ended)
               known := s.known ++ (s.breaker.complete permit function.isOk ended s.now).2 } := by
  obtain ⟨inside, same⟩ := List.getElem?_eq_some_iff.mp found
  refine ⟨[.act n (.answer ended), .act n .proceed], ?_⟩
  cases fallback <;>
    simp [System.step, System.record, Call.step, Plain.step, Backed.step, Turn.map, Call.received, Call.settled,
      inside, same]

section
open Simulation (Guarded)

/-- A call that nobody interrupts ends as it is simulated, with its fallback in place of a rejection. -/
theorem call_alone (g : Guarded) (ctx : Context) (takes : Duration) (result : Except CodedError Unit)
    (fallback : Option (Except CodedError Unit)) :
    let (outcome, after) := g.call ctx takes result
    ∃ call known,
      Leads System.step ⟨g.breaker, g.clock.now, [], []⟩ ⟨after.breaker, after.clock.now, [call], known⟩ ∧
      call.reply? = some (fallback.elim outcome fun instead => .returned (outcome.orElse instead)) := by
  have received := begin_alone ⟨g.breaker, g.clock.now, [], []⟩ result fallback
  rcases allowed : g.breaker.allow g.clock.now with ⟨_ | permit, after, events⟩ <;> simp only [allowed] at received
  · have outcome : g.call ctx takes result = (.rejected, g.take after events) := by
      simp [Guarded.call, Guarded.allow, allowed]
    rw [outcome]
    cases fallback with
    | none => exact ⟨_, _, received, rfl⟩
    | some instead => exact ⟨.backed result instead (.fellBack instead), _, received.step (.act 0 .fallBack) rfl, rfl⟩
  · let later := g.clock.sleep takes none
    have elapsed : g.clock.now + (later.now - g.clock.now) = later.now :=
      Nat.add_sub_cancel' (Nat.le_max_left _ _)
    have outcome : g.call ctx takes result =
        (.returned result, { (g.take after events) with clock := later }.take
          (after.complete permit result.isOk (later.ended? ctx) later.now).1
          (after.complete permit result.isOk (later.ended? ctx) later.now).2) := by
      cases result <;>
        simp [Guarded.call, Guarded.allow, allowed, Guarded.complete, Guarded.take, later, Except.isOk,
          Except.toBool]
    rw [outcome]
    have waited := received.step (.elapse (later.now - g.clock.now)) rfl
    dsimp only at waited
    rw [elapsed] at waited
    have found : ([] ++ [Call.received result fallback (some permit)])[0]? =
      some (Call.received result fallback (some permit)) := rfl
    have told := waited.trans (end_alone _ found (later.ended? ctx))
    refine ⟨.settled result fallback (later.ended? ctx), _, told, ?_⟩
    cases fallback <;> rfl

end

/-! ### Calls seen without their fallbacks -/

def Backed.plainly : Backed ε α → Plain ε α
  | .arriving => .arriving
  | .refused => .refused
  | .fallingBack | .fellBack _ | .abandoned => .rejected
  | .admitted permit => .admitted permit
  | .running permit => .running permit
  | .returned permit result ended => .returned permit result ended
  | .finished result ended => .finished result ended
  | .dropped => .dropped

/-- Where a call stands, seen without its fallback. -/
def Call.stage : Call ε α → Plain ε α
  | .plain _ stage => stage
  | .backed _ _ stage => stage.plainly

def Call.plainly (call : Call ε α) : Call ε α := .plain call.function call.stage

def System.plainly (s : System ε α) : System ε α := { s with calls := s.calls.map Call.plainly }

def System.count (s : System ε α) (p : Plain ε α → Bool) : Nat := s.calls.countP (p ·.stage)

/-- What only a fallback does. -/
def Deed.aside : Deed → Bool
  | .fallBack | .abandon => true
  | _ => false

def Event.plainly : Event ε α → Option (Event ε α)
  | .begin function _ => some (.begin function none)
  | .act n deed => if deed.aside then none else some (.act n deed)
  | event => some event

section
variable {b : Breaker} {now : Instant} {deed : Deed}

private theorem backed_plainly (function fallback : Except ε α) (stage : Backed ε α) (seen : deed.aside = false) :
    stage.plainly.step function b now deed =
      (stage.step function fallback b now deed).map (Turn.map Backed.plainly) := by
  cases stage with
  | arriving =>
    cases deed with
    | proceed =>
      simp only [Backed.plainly, Plain.step, Backed.step]
      rcases b.allow now with ⟨_ | permit, after, events⟩ <;> rfl
    | _ => rfl
  | fallingBack =>
    cases deed with
    | fallBack | abandon => cases seen
    | _ => rfl
  | _ => cases deed <;> rfl

theorem step_stage (call : Call ε α) (seen : deed.aside = false) :
    call.stage.step call.function b now deed = (call.step b now deed).map (Turn.map Call.stage) := by
  cases call with
  | plain function stage =>
    simp only [Call.stage, Call.function, Call.step, Option.map_map]
    exact Option.map_id'.symm
  | backed function fallback stage =>
    simp only [Call.stage, Call.function, Call.step, Option.map_map]
    exact backed_plainly function fallback stage seen

theorem step_function {call : Call ε α} {turn : Turn (Call ε α)} (stepped : call.step b now deed = some turn) :
    turn.stage.function = call.function := by
  cases call <;>
  · obtain ⟨inner, _, rfl⟩ := Option.map_eq_some_iff.mp stepped
    rfl

/-- A fallback leaves the breaker alone. -/
theorem step_aside {call : Call ε α} {turn : Turn (Call ε α)} (aside : deed.aside = true)
    (stepped : call.step b now deed = some turn) : turn.map Call.stage = ⟨b, call.stage, []⟩ := by
  cases call with
  | plain function stage =>
    obtain ⟨inner, went, _⟩ := Option.map_eq_some_iff.mp stepped
    cases deed with
    | fallBack | abandon => cases stage <;> cases went
    | _ => cases aside
  | backed function fallback stage =>
    obtain ⟨inner, went, rfl⟩ := Option.map_eq_some_iff.mp stepped
    cases deed with
    | fallBack | abandon =>
      cases stage with
      | fallingBack =>
        cases went
        rfl
      | _ => cases went
    | _ => cases aside

/-! ### What a step can do -/

/-- All that a call can do by one step, seen without its fallback. -/
inductive Goes (b : Breaker) (now : Instant) : Plain ε α → Turn (Plain ε α) → Prop where
  | letIn {permit : Permit} (allowed : (b.allow now).1 = some permit) :
      Goes b now .arriving ⟨(b.allow now).2.1, .admitted permit, (b.read now).2⟩
  | turnAway (refused : (b.allow now).1 = none) :
      Goes b now .arriving ⟨(b.allow now).2.1, .refused, (b.read now).2⟩
  | report : Goes b now .refused ⟨b, .rejected, [.rejection]⟩
  | aside {stage : Plain ε α} : Goes b now stage ⟨b, stage, []⟩
  | invoke {permit : Permit} : Goes b now (.admitted permit) ⟨b, .running permit, []⟩
  | return {permit : Permit} {result : Except ε α} {ended : Option ContextError} :
      Goes b now (.running permit) ⟨b, .returned permit result ended, []⟩
  | drop {permit : Permit} : Goes b now (.running permit) ⟨b.drop permit, .dropped, []⟩
  | succeed {permit : Permit} {value : α} {ended : Option ContextError} :
      Goes b now (.returned permit (.ok value) ended) ⟨b.succeed.1, .finished (.ok value) ended, b.succeed.2⟩
  | fail {permit : Permit} {error : ε} :
      Goes b now (.returned permit (.error error) none)
        ⟨(b.fail now).1, .finished (.error error) none, (b.fail now).2⟩
  | excuse {permit : Permit} {error : ε} {why : ContextError} :
      Goes b now (.returned permit (.error error) (some why))
        ⟨b.drop permit, .finished (.error error) (some why), []⟩

private theorem plain_goes {function : Except ε α} {stage : Plain ε α} {turn : Turn (Plain ε α)}
    (stepped : stage.step function b now deed = some turn) : Goes b now stage turn := by
  cases stage with
  | arriving =>
    cases deed with
    | proceed =>
      simp only [Plain.step] at stepped
      split at stepped <;> cases stepped
      next permit after _ allowed =>
        obtain rfl : (b.allow now).2.1 = after := by rw [allowed]
        exact .letIn (by rw [allowed])
      next after _ refused =>
        obtain rfl : (b.allow now).2.1 = after := by rw [refused]
        exact .turnAway (by rw [refused])
    | _ => cases stepped
  | refused => cases deed <;> cases stepped; exact .report
  | admitted permit => cases deed <;> cases stepped; exact .invoke
  | running permit =>
    cases deed <;> cases stepped
    · exact .return
    · exact .drop
  | returned permit result ended =>
    cases deed with
    | proceed =>
      obtain rfl := Option.some.inj stepped
      cases result with
      | ok value => exact .succeed
      | error why =>
        cases ended with
        | none => exact .fail
        | some why => exact .excuse
    | _ => cases stepped
  | rejected | finished | dropped => cases deed <;> cases stepped

theorem step_goes {call : Call ε α} {turn : Turn (Call ε α)} (stepped : call.step b now deed = some turn) :
    Goes b now call.stage (turn.map Call.stage) := by
  cases aside : deed.aside with
  | true =>
    rw [step_aside aside stepped]
    exact .aside
  | false =>
    refine plain_goes (step_stage call aside |>.trans ?_)
    rw [stepped]
    rfl

end

/-- All that an event can do: a call begins, a call goes on, somebody looks, or time passes. -/
theorem System.step_cases {s after : System ε α} {event : Event ε α} (stepped : s.step event = some after) :
    (∃ function fallback, after = { s with calls := s.calls ++ [.first function fallback] }) ∨
    (∃ n call turn, s.calls[n]? = some call ∧
      Goes s.breaker s.now call.stage (turn.map Call.stage) ∧ after = s.record n turn) ∨
    after = { s with breaker := (s.breaker.read s.now).1
                     known := s.known ++ (s.breaker.read s.now).2 } ∨
    ∃ time, after = { s with now := s.now + time } := by
  cases event with
  | begin function fallback =>
    cases stepped
    exact .inl ⟨function, fallback, rfl⟩
  | act n deed =>
    obtain ⟨call, found, turned⟩ := Option.bind_eq_some_iff.mp stepped
    obtain ⟨turn, went, rfl⟩ := Option.map_eq_some_iff.mp turned
    exact .inr (.inl ⟨n, call, turn, found, step_goes went, rfl⟩)
  | observe =>
    cases stepped
    exact .inr (.inr (.inl rfl))
  | elapse time =>
    cases stepped
    exact .inr (.inr (.inr ⟨time, rfl⟩))

end Courier.Proofs.BreakerCalls
