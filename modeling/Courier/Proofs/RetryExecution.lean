import Courier.Proofs.ClockWaits
import Courier.Simulation.Repetition
import Mathlib.Logic.Function.Iterate
import Mathlib.Order.Bounds.Defs
import Mathlib.Tactic.Push

/-! Executors of repeated calls, and the one of a retry policy. An executor is a loop that asks for calls
and waits. The script of a run says what comes of each call and how it leaves the clock, so an
execution is determined, and it can be compared with what its policy promises: the calls end with the
first one after which there is a reason to stop, and its outcome is the result. -/

namespace Courier.Proofs.RetryExecution
open Simulation ClockWaits

inductive Request (φ ρ : Type) where
  | call (phase : φ)
  | rest (delay : Duration) (phase : φ)
  | finish (result : ρ)

structure Loop (φ β ρ : Type) where
  start : Option ContextError → Request φ ρ
  afterCall : φ → β → Request φ ρ
  afterRest : φ → Option ContextError → Request φ ρ

/-- What comes of the calls, which are numbered from 1. -/
structure Script (β : Type) where
  outcome : Nat → β
  /-- The clock after a call, given the one before. -/
  during : Nat → Clock → Clock

structure Course (ρ : Type) where
  calls : List Instant
  clock : Clock
  /-- Missing if the fuel has run out. -/
  result : Option ρ

namespace Loop
variable {φ β ρ : Type}

/-- Does what a loop asks for, at most `fuel` calls and waits. -/
def go (l : Loop φ β ρ) (script : Script β) (ctx : Context) (calls : List Instant) (clock : Clock) :
    Nat → Request φ ρ → Course ρ
  | 0, _ => ⟨calls, clock, none⟩
  | _ + 1, .finish result => ⟨calls, clock, some result⟩
  | fuel + 1, .rest delay phase =>
    let clock := rested ctx delay clock
    l.go script ctx calls clock fuel (l.afterRest phase (clock.ended? ctx))
  | fuel + 1, .call phase =>
    let number := calls.length + 1
    l.go script ctx (calls ++ [clock.now]) (script.during number clock) fuel
      (l.afterCall phase (script.outcome number))

/-- What a loop asks for in the course of an execution, with the calls made by then and the clock. -/
inductive Asks (l : Loop φ β ρ) (script : Script β) (ctx : Context) (clock : Clock) :
    List Instant → Clock → Request φ ρ → Prop
  | start : l.Asks script ctx clock [] clock (l.start (clock.ended? ctx))
  | call {calls : List Instant} {before : Clock} {phase : φ}
      (asked : l.Asks script ctx clock calls before (.call phase)) :
      l.Asks script ctx clock (calls ++ [before.now]) (script.during (calls.length + 1) before)
        (l.afterCall phase (script.outcome (calls.length + 1)))
  | rest {calls : List Instant} {before : Clock} {delay : Duration} {phase : φ}
      (asked : l.Asks script ctx clock calls before (.rest delay phase)) :
      l.Asks script ctx clock calls (rested ctx delay before)
        (l.afterRest phase ((rested ctx delay before).ended? ctx))

end Loop

/-! ### The executor of a policy -/

section
variable {ε α : Type}

def Request.ofAction : RetryPolicy.Action ε α → Request (RetryPolicy.Phase ε) (Except ε α)
  | .call phase => .call phase
  | .rest delay phase _ => .rest delay phase
  | .finish result _ => .finish result

/-- A policy as a loop; `chance` has what is drawn for the wait after each attempt. -/
def ofPolicy (p : RetryPolicy) (retryable : ε → Bool) (ofContext : ContextError → ε)
    (chance : Nat → Binary64) : Loop (RetryPolicy.Phase ε) (Except ε α) (Except ε α) where
  start ended := .ofAction (p.start ofContext ended)
  afterCall
    | .calling attempt wait, outcome =>
      .ofAction (p.afterCall retryable (chance attempt) attempt wait outcome)
    | phase, _ => .call phase
  afterRest
    | .resting attempt wait last, ended => .ofAction (p.afterRest attempt wait last ended)
    | phase, _ => .call phase

section
variable {p : RetryPolicy} {retryable : ε → Bool} {chance : Binary64} {attempt : Nat} {wait : Duration}

theorem attempts_pos (p : RetryPolicy) : 1 ≤ p.attempts := Nat.le_max_right _ _

theorem start_ended (ofContext : ContextError → ε) (why : ContextError) :
    Request.ofAction (p.start ofContext (some why) : RetryPolicy.Action ε α) =
      .finish (.error (ofContext why)) := by
  rw [RetryPolicy.start, RetryPolicy.proceed, if_neg (Nat.not_lt.mpr (attempts_pos p))]
  rfl

theorem start_live (ofContext : ContextError → ε) :
    Request.ofAction (p.start ofContext none : RetryPolicy.Action ε α) =
      .call (.calling 1 p.initialWait) := by
  rw [RetryPolicy.start, RetryPolicy.proceed, if_neg (Nat.not_lt.mpr (attempts_pos p))]
  rfl

theorem afterCall_finish {outcome : Except ε α}
    (final : ∀ why, outcome = .error why → retryable why = true → attempt = p.attempts) :
    Request.ofAction (p.afterCall retryable chance attempt wait outcome) = .finish outcome := by
  cases outcome with
  | ok a => rfl
  | error why =>
    rw [RetryPolicy.afterCall]
    split
    next => rfl
    next kept =>
      rw [if_pos (final why rfl (by simpa using kept))]
      rfl

theorem afterCall_rest {why : ε} (accepted : retryable why = true) (left : attempt ≠ p.attempts) :
    Request.ofAction (p.afterCall retryable chance attempt wait (.error why : Except ε α)) =
      .rest (p.jittered chance wait) (.resting attempt wait why) := by
  rw [RetryPolicy.afterCall, accepted, if_neg left]
  rfl

theorem afterRest_ended (last : ε) {ended : Option ContextError} (done : ended.isSome = true) :
    Request.ofAction (p.afterRest attempt wait last ended : RetryPolicy.Action ε α) =
      .finish (.error last) := by
  obtain ⟨why, rfl⟩ := Option.isSome_iff_exists.mp done
  unfold RetryPolicy.afterRest RetryPolicy.proceed
  split <;> rfl

theorem afterRest_live (last : ε) (left : attempt < p.attempts) {ended : Option ContextError}
    (live : ended.isSome = false) :
    Request.ofAction (p.afterRest attempt wait last ended : RetryPolicy.Action ε α) =
      .call (.calling (attempt + 1) (p.nextWait wait)) := by
  rw [Option.isSome_eq_false_iff, Option.isNone_iff_eq_none] at live
  unfold RetryPolicy.afterRest RetryPolicy.proceed
  rw [if_neg (Nat.not_lt.mpr left), live]
  rfl

end

structure Execution (ε α : Type) where
  policy : RetryPolicy
  retryable : ε → Bool
  ofContext : ContextError → ε
  chance : Nat → Binary64
  script : Script (Except ε α)
  ctx : Context
  clock : Clock

namespace Execution
variable (x : Execution ε α)

def loop : Loop (RetryPolicy.Phase ε) (Except ε α) (Except ε α) :=
  ofPolicy x.policy x.retryable x.ofContext x.chance

def course : Course (Except ε α) :=
  x.loop.go x.script x.ctx [] x.clock (2 * x.policy.attempts + 2)
    (x.loop.start (x.clock.ended? x.ctx))

/-- The wait after so many attempts and one more, chance aside. -/
def wait (k : Nat) : Duration := x.policy.nextWait^[k] x.policy.initialWait

/-- The clock after so many calls, and a whole wait after each of them. -/
def ready (x : Execution ε α) : Nat → Clock
  | 0 => x.clock
  | k + 1 =>
    let back := x.script.during (k + 1) (ready x k)
    back.advanceTo (back.after (x.policy.jittered (x.chance (k + 1)) (x.wait k)))

/-- The reasons to make no call after the one with a number. -/
def Stops (k : Nat) : Prop :=
  (∃ a, x.script.outcome k = .ok a) ∨
    (∃ why, x.script.outcome k = .error why ∧ x.retryable why = false) ∨
      k = max 1 x.policy.maxAttempts ∨ ((x.ready k).ended? x.ctx).isSome = true

def starts (n : Nat) : List Instant := (List.range n).map fun k => (x.ready k).now

private theorem starts_succ (k : Nat) : x.starts (k + 1) = x.starts k ++ [(x.ready k).now] := by
  rw [starts, List.range_succ, List.map_append]
  rfl

theorem length_starts (k : Nat) : (x.starts k).length = k := by
  rw [starts, List.length_map, List.length_range]

theorem wait_succ (k : Nat) : x.policy.nextWait (x.wait k) = x.wait (k + 1) :=
  (Function.iterate_succ_apply' _ _ _).symm

/-- The rest of an execution from the call after so many whole rounds. -/
def onward (k fuel : Nat) : Course (Except ε α) :=
  x.loop.go x.script x.ctx (x.starts k) (x.ready k) fuel (.call (.calling (k + 1) (x.wait k)))

private theorem onward_succ (k fuel : Nat) :
    x.onward k (fuel + 1) =
      x.loop.go x.script x.ctx (x.starts (k + 1)) (x.script.during (k + 1) (x.ready k)) fuel
        (.ofAction (x.policy.afterCall x.retryable (x.chance (k + 1)) (k + 1) (x.wait k)
          (x.script.outcome (k + 1)))) := by
  rw [onward, Loop.go, length_starts, ← starts_succ]
  rfl

section
variable {x} {k fuel : Nat}

private theorem onward_rest {why : ε} (failed : x.script.outcome (k + 1) = .error why)
    (accepted : x.retryable why = true) (left : k + 1 ≠ x.policy.attempts) :
    let back := x.script.during (k + 1) (x.ready k)
    let rest := rested x.ctx (x.policy.jittered (x.chance (k + 1)) (x.wait k)) back
    x.onward k (fuel + 2) =
      x.loop.go x.script x.ctx (x.starts (k + 1)) rest fuel
        (.ofAction (x.policy.afterRest (k + 1) (x.wait k) why (rest.ended? x.ctx))) := by
  intro back rest
  rw [onward_succ, failed, afterCall_rest accepted left]
  rfl

private theorem onward_stops (stops : x.Stops (k + 1)) (fuel : Nat) :
    ∃ clock, x.onward k (fuel + 3) =
      ⟨x.starts (k + 1), clock, some (x.script.outcome (k + 1))⟩ := by
  by_cases final : ∀ why, x.script.outcome (k + 1) = .error why → x.retryable why = true →
      k + 1 = x.policy.attempts
  · refine ⟨x.script.during (k + 1) (x.ready k), ?_⟩
    rw [onward_succ, afterCall_finish final]
    rfl
  · push Not at final
    obtain ⟨why, failed, accepted, left⟩ := final
    -- There is a rest, so of the reasons to stop only the end of the context is left.
    have ended : ((x.ready (k + 1)).ended? x.ctx).isSome = true := by
      rcases stops with ⟨a, fine⟩ | ⟨other, known, refused⟩ | last | ended
      · rw [failed] at fine
        cases fine
      · rw [failed] at known
        cases known
        rw [accepted] at refused
        cases refused
      · exact absurd (last.trans (Nat.max_comm _ _)) left
      · exact ended
    rw [onward_rest failed accepted left, afterRest_ended why (rested_cut ended), failed]
    exact ⟨_, rfl⟩

private theorem onward_continues (continues : ¬ x.Stops (k + 1)) (within : k + 1 ≤ x.policy.attempts) :
    k + 1 < x.policy.attempts ∧ x.onward k (fuel + 2) = x.onward (k + 1) fuel := by
  rw [Stops] at continues
  push Not at continues
  obtain ⟨fails, accepts, left, live⟩ := continues
  have more : k + 1 < x.policy.attempts :=
    Nat.lt_of_le_of_ne within fun last => left (last.trans (Nat.max_comm _ _))
  refine ⟨more, ?_⟩
  cases result : x.script.outcome (k + 1) with
  | ok a => exact absurd result (fails a)
  | error why =>
    have accepted : x.retryable why = true := Bool.of_not_eq_false (accepts why result)
    have whole : rested x.ctx _ (x.script.during (k + 1) (x.ready k)) = x.ready (k + 1) :=
      rested_whole (Bool.of_not_eq_true live)
    rw [onward_rest result accepted (Nat.ne_of_lt more), whole]
    rw [afterRest_live why more (Bool.of_not_eq_true live), wait_succ]
    rfl

private theorem onward_least (stops : x.Stops (k + 1)) (enough : 3 ≤ fuel)
    (before : ∀ j, 1 ≤ j → j ≤ k → ¬ x.Stops j) :
    ∃ n clock, IsLeast {j | 1 ≤ j ∧ x.Stops j} n ∧
      x.onward k fuel = ⟨x.starts n, clock, some (x.script.outcome n)⟩ := by
  obtain ⟨fuel, rfl⟩ := Nat.exists_eq_add_of_le' enough
  obtain ⟨clock, same⟩ := onward_stops stops fuel
  refine ⟨k + 1, clock, ⟨⟨Nat.le_add_left _ _, stops⟩, ?_⟩, same⟩
  rintro j ⟨positive, other⟩
  apply Nat.lt_of_not_le
  intro earlier
  exact before j positive earlier other

/-- From any call on, the calls end with the first one after which there is a reason to stop. -/
theorem onward_ends (left : Nat) (within : k + left + 1 = x.policy.attempts)
    (enough : 2 * left + 3 ≤ fuel) (before : ∀ j, 1 ≤ j → j ≤ k → ¬ x.Stops j) :
    ∃ n clock, IsLeast {j | 1 ≤ j ∧ x.Stops j} n ∧
      x.onward k fuel = ⟨x.starts n, clock, some (x.script.outcome n)⟩ := by
  -- The last attempt always stops, and an earlier one that does not leaves one attempt less.
  induction left generalizing k fuel with
  | zero =>
    have last : x.Stops (k + 1) := .inr (.inr (.inl (within.trans (Nat.max_comm _ _))))
    exact onward_least last enough before
  | succ left ih =>
    by_cases stops : x.Stops (k + 1)
    · exact onward_least stops (by omega) before
    · obtain ⟨fuel, rfl⟩ := Nat.exists_eq_add_of_le' (show 2 ≤ fuel by omega)
      rw [(onward_continues stops (by omega)).2]
      apply ih (by omega) (by omega)
      intro j positive earlier
      rcases Nat.lt_or_eq_of_le earlier with less | rfl
      · exact before j positive (Nat.le_of_lt_succ less)
      · exact stops

end

def Within (limit : Nat) : Request (RetryPolicy.Phase ε) (Except ε α) → Prop
  | .call (.calling attempt _) => attempt ≤ limit
  | .call (.resting _ _ _) => False
  | .rest _ (.resting attempt _ _) => attempt < limit
  | .rest _ (.calling _ _) => False
  | .finish _ => True

private theorem within_proceed (p : RetryPolicy) (failure : ContextError → ε) (attempt : Nat) (wait : Duration)
    (ended : Option ContextError) :
    Within p.attempts (.ofAction (p.proceed failure attempt wait ended : RetryPolicy.Action ε α)) := by
  unfold RetryPolicy.proceed
  split
  next => trivial
  next within =>
    cases ended with
    | some why => trivial
    | none => exact Nat.not_lt.mp within

private theorem within_afterCall (p : RetryPolicy) (retryable : ε → Bool) (chance : Binary64) {attempt : Nat}
    (wait : Duration) (outcome : Except ε α) (within : attempt ≤ p.attempts) :
    Within p.attempts (.ofAction (p.afterCall retryable chance attempt wait outcome)) := by
  by_cases final : ∀ why, outcome = .error why → retryable why = true → attempt = p.attempts
  · rw [afterCall_finish final]
    trivial
  · push Not at final
    obtain ⟨why, rfl, accepted, left⟩ := final
    rw [afterCall_rest accepted left]
    exact Nat.lt_of_le_of_ne within left

private theorem within_asks {calls : List Instant} {clock : Clock}
    {request : Request (RetryPolicy.Phase ε) (Except ε α)}
    (asked : x.loop.Asks x.script x.ctx x.clock calls clock request) :
    Within x.policy.attempts request := by
  induction asked with
  | start => exact within_proceed _ _ _ _ _
  | @call _ _ phase _ within =>
    cases phase with
    | calling attempt wait => exact within_afterCall _ _ _ _ _ within
    | resting _ _ _ => exact within.elim
  | @rest _ _ _ phase _ within =>
    cases phase with
    | calling _ _ => exact within.elim
    | resting attempt wait last => exact within_proceed _ _ _ _ _

private theorem course_ended {why : ContextError} (ended : x.clock.ended? x.ctx = some why) :
    x.course = ⟨[], x.clock, some (.error (x.ofContext why))⟩ := by
  have begins : x.loop.start (some why) = .finish (.error (x.ofContext why)) := start_ended _ why
  rw [course, ended, begins]
  rfl

theorem course_live (live : x.clock.ended? x.ctx = none) :
    ∃ n clock, IsLeast {k | 1 ≤ k ∧ x.Stops k} n ∧
      x.course = ⟨x.starts n, clock, some (x.script.outcome n)⟩ := by
  have begins : x.loop.start none = .call (.calling 1 x.policy.initialWait) := start_live _
  have positive := attempts_pos x.policy
  have same : x.course = x.onward 0 (2 * x.policy.attempts + 2) := by
    rw [course, live, begins]
    rfl
  rw [same]
  apply onward_ends (x.policy.attempts - 1) (by omega) (by omega)
  intro j positive none
  exact absurd positive (Nat.not_lt.mpr none)

theorem course_result :
    ∃ result, x.course.result = some result ∧
      (x.course.calls = [] → ∃ why, result = .error (x.ofContext why)) ∧
      (x.course.calls ≠ [] → result = x.script.outcome x.course.calls.length) := by
  cases ended : x.clock.ended? x.ctx with
  | some why =>
    rw [x.course_ended ended]
    exact ⟨_, rfl, fun _ => ⟨why, rfl⟩, fun called => absurd rfl called⟩
  | none =>
    obtain ⟨n, clock, ⟨⟨positive, _⟩, _⟩, same⟩ := x.course_live ended
    rw [same]
    refine ⟨_, rfl, ?_, ?_⟩
    · intro uncalled
      have none : n = 0 := (x.length_starts n).symm.trans (List.length_eq_zero_iff.mpr uncalled)
      exact absurd positive (Nat.not_le.mpr (Nat.lt_one_iff.mpr none))
    · intro _
      rw [length_starts]

/-- An execution is what its policy promises. Under a context that has ended it makes no call. Else it
makes the calls up to the first one after which there is a reason to stop, each after a whole wait,
and its result is what came of the last. A wait always has a further attempt to wait for. -/
theorem executes_policy :
    (∀ why, x.clock.ended? x.ctx = some why →
      x.course.calls = [] ∧ x.course.result = some (.error (x.ofContext why))) ∧
    (x.clock.ended? x.ctx = none →
      ∃ n, IsLeast {k | 1 ≤ k ∧ x.Stops k} n ∧ x.course.calls = x.starts n ∧
        x.course.result = some (x.script.outcome n)) ∧
    ∀ calls clock delay attempt wait last,
      x.loop.Asks x.script x.ctx x.clock calls clock (.rest delay (.resting attempt wait last)) →
        attempt < x.policy.attempts := by
  refine ⟨?_, ?_, ?_⟩
  · intro why ended
    rw [x.course_ended ended]
    exact ⟨rfl, rfl⟩
  · intro live
    obtain ⟨n, clock, least, ends⟩ := x.course_live live
    rw [ends]
    exact ⟨n, least, rfl, rfl⟩
  · intro calls clock delay attempt wait last asked
    exact x.within_asks asked

end Execution
end

/-! ### The executor as it is simulated -/

section
variable (r : Repetition) (ctx : Context)

/-- The script of a simulation, which leaves nothing to chance. -/
def simulated (clock : Clock) : Execution CodedError Nat where
  policy := r.policy
  retryable := r.retryable
  ofContext := ContextError.toCoded
  chance _ := .ofNat 1
  script := ⟨r.outcome, fun number clock => r.makeCall ctx clock number⟩
  ctx := ctx
  clock := clock

private theorem go_simulated (start : Clock) (fuel : Nat) (calls : List Instant) (clock : Clock)
    (events : List LogEvent) (action : RetryPolicy.Action CodedError Nat) {result : Except CodedError Nat}
    (ends : ((simulated r ctx start).loop.go (simulated r ctx start).script ctx calls.reverse clock fuel
      (.ofAction action)).result = some result) :
    (simulated r ctx start).loop.go (simulated r ctx start).script ctx calls.reverse clock fuel
        (.ofAction action) =
      ⟨(r.go ctx calls events clock action fuel).calls.reverse,
        (r.go ctx calls events clock action fuel).clock,
        some (r.go ctx calls events clock action fuel).result⟩ := by
  induction fuel generalizing calls clock events action with
  | zero => cases ends
  | succ fuel ih =>
    cases action with
    | finish _ _ => rfl
    | rest delay phase event =>
      cases phase with
      | calling attempt wait => exact ih calls _ _ (.call (.calling attempt wait)) ends
      | resting attempt wait last => exact ih calls _ _ (r.policy.afterRest attempt wait last _) ends
    | call phase =>
      simp only [Request.ofAction, Loop.go, ← List.reverse_cons, List.length_reverse] at ends ⊢
      cases phase with
      | calling attempt wait =>
        exact ih _ _ _ (r.policy.afterCall r.retryable (.ofNat 1) attempt wait (r.outcome _)) ends
      | resting attempt wait last => exact ih _ _ _ (.call (.resting attempt wait last)) ends

theorem run_simulated (clock : Clock) :
    (simulated r ctx clock).course =
      ⟨(r.run ctx clock).calls.reverse, (r.run ctx clock).clock, some (r.run ctx clock).result⟩ := by
  obtain ⟨result, ends, _⟩ := (simulated r ctx clock).course_result
  exact go_simulated r ctx clock _ [] clock [] _ ends

end

example :
    let r : Repetition := { policy := .standard, outcomes := [.error default] }
    (r.run (.background 0) {}).calls = [300000000, 100000000, 0] := by
  decide +kernel

end Courier.Proofs.RetryExecution
