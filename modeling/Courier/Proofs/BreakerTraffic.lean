import Courier.Breaker
import Courier.Proofs.Runs

/-! A breaker in use. Callers arrive, the calls that were admitted end one by one in any way and in any
order, observers look at the state, and time passes. Every operation on a breaker is atomic, so a run
is the list of these events. -/

namespace Courier.Proofs.BreakerTraffic
open Breaker

section
variable (b : Breaker) (now : Instant)

/-- Looking at a breaker either changes nothing or begins a round of probes. -/
theorem read_cases :
    b.read now = (b, []) ∨
    b.state = .opened ∧ b.hasExpired now = true ∧ b.read now =
      ({ b with state := .halfOpen, inFlight := 0, generation := (b.generation + 1) % roundLimit },
        [.transition .opened .halfOpen b.consecutiveFailures]) := by
  unfold Breaker.read
  split
  next expired =>
    obtain ⟨opened, expired⟩ : b.state = .opened ∧ b.hasExpired now = true := by simpa using expired
    exact .inr ⟨opened, expired, by simp [moveTo, opened]⟩
  next => exact .inl rfl

theorem read_read : (b.read now).1.read now = ((b.read now).1, []) := by
  rcases read_cases b now with same | ⟨_, _, moved⟩
  · simp [same]
  · rw [moved]
    simp [Breaker.read]

theorem allow_cases {seen : Breaker} {events : List BreakerEvent} (read : b.read now = (seen, events)) :
    seen.state = .closed ∧ b.allow now = (some ⟨none⟩, seen, events) ∨
    seen.state = .opened ∧ b.allow now = (none, seen, events ++ [.rejection]) ∨
    seen.state = .halfOpen ∧ seen.config.halfOpenMax ≤ seen.inFlight ∧
      b.allow now = (none, seen, events ++ [.rejection]) ∨
    seen.state = .halfOpen ∧ seen.inFlight < seen.config.halfOpenMax ∧
      b.allow now = (some ⟨some seen.generation⟩, { seen with inFlight := seen.inFlight + 1 }, events) := by
  simp only [Breaker.allow, read]
  cases state : seen.state with
  | closed => simp
  | opened => simp
  | halfOpen =>
    by_cases full : seen.config.halfOpenMax ≤ seen.inFlight
    · simp [full]
    · simp [full, Nat.lt_of_not_le full]

theorem succeed_cases :
    b.state = .closed ∧
      b.succeed = ({ b with successes := b.successes + 1, consecutiveFailures := 0 }, []) ∨
    b.state = .halfOpen ∧ b.succeed =
      ({ b with state := .closed, successes := b.successes + 1, consecutiveFailures := 0, inFlight := 0 },
        [.transition .halfOpen .closed 0]) ∨
    b.state = .opened ∧ b.succeed = ({ b with successes := b.successes + 1 }, []) := by
  unfold Breaker.succeed
  cases state : b.state <;> simp [moveTo]

theorem fail_cases :
    b.state = .closed ∧ b.consecutiveFailures + 1 < b.config.threshold ∧
      b.fail now =
        ({ b with failures := b.failures + 1, consecutiveFailures := b.consecutiveFailures + 1 }, []) ∨
    b.state = .closed ∧ b.config.threshold ≤ b.consecutiveFailures + 1 ∧
      b.fail now =
        ({ b with state := .opened, failures := b.failures + 1,
                  consecutiveFailures := b.consecutiveFailures + 1, openedAt := some now },
          [.transition .closed .opened (b.consecutiveFailures + 1)]) ∨
    b.state = .halfOpen ∧ b.fail now =
      ({ b with state := .opened, failures := b.failures + 1, openedAt := some now, inFlight := 0 },
        [.transition .halfOpen .opened b.consecutiveFailures]) ∨
    b.state = .opened ∧ b.fail now = ({ b with failures := b.failures + 1 }, []) := by
  unfold Breaker.fail
  cases state : b.state with
  | closed =>
    by_cases reached : b.config.threshold ≤ b.consecutiveFailures + 1
    · simp [moveTo, reached]
    · simp [reached, Nat.lt_of_not_le reached]
  | halfOpen => simp [moveTo]
  | opened => simp

theorem complete_cases (permit : Permit) (ok : Bool) (ended : Option ContextError) :
    ok = true ∧ b.complete permit ok ended now = b.succeed ∨
    ok = false ∧ ended = none ∧ b.complete permit ok ended now = b.fail now ∨
    ok = false ∧ ended.isSome ∧ b.complete permit ok ended now = (b.drop permit, []) := by
  cases ok <;> cases ended <;> simp [Breaker.complete]

/-- A permit that is given back frees a slot only in its own round. -/
theorem drop_cases (permit : Permit) :
    b.state = .halfOpen ∧ permit = ⟨some b.generation⟩ ∧
      b.drop permit = { b with inFlight := b.inFlight - 1 } ∨
    ¬ (b.state = .halfOpen ∧ permit = ⟨some b.generation⟩) ∧ b.drop permit = b := by
  obtain ⟨_ | round⟩ := permit
  · simp [Breaker.drop]
  · by_cases current : b.state = .halfOpen ∧ b.generation = round
    · obtain ⟨state, rfl⟩ := current
      simp [Breaker.drop, state]
    · refine .inr ⟨?_, by simp [Breaker.drop, current]⟩
      rintro ⟨state, same⟩
      cases same
      exact current ⟨state, rfl⟩

end

inductive Event where
  | arrive
  /-- A call under way returns, perhaps after its context has ended. -/
  | complete (permit : Permit) (ok : Bool) (ended : Option ContextError)
  | abandon (permit : Permit)
  | observe
  | elapse (time : Nat)
deriving Repr, DecidableEq

/-- A breaker, the time, the permits of the calls under way, and all that became known, in order. -/
structure Traffic where
  breaker : Breaker
  now : Instant := 0
  outstanding : List Permit := []
  known : List BreakerEvent := []
deriving Repr, DecidableEq

def start (config : BreakerConfig) : Traffic := { breaker := .new config }

namespace Traffic

def take (s : Traffic) (result : Breaker × List BreakerEvent) (outstanding : List Permit) : Traffic :=
  { s with breaker := result.1, outstanding, known := s.known ++ result.2 }

def observed (s : Traffic) : Traffic := s.take (s.breaker.read s.now) s.outstanding

/-- The state after an event. A call ends only if it is under way. -/
def step (s : Traffic) : Event → Option Traffic
  | .arrive =>
    let (permit, result) := s.breaker.allow s.now
    some (s.take result (permit.toList ++ s.outstanding))
  | .complete permit ok ended =>
    if permit ∈ s.outstanding then
      some (s.take (s.breaker.complete permit ok ended s.now) (s.outstanding.erase permit))
    else none
  | .abandon permit =>
    if permit ∈ s.outstanding then
      some (s.take (s.breaker.drop permit, []) (s.outstanding.erase permit))
    else none
  | .observe => some s.observed
  | .elapse time => some { s with now := s.now + time }

end Traffic

abbrev Reachable (config : BreakerConfig) (s : Traffic) : Prop := Leads Traffic.step (start config) s

private theorem read_config (b : Breaker) (now : Instant) : (b.read now).1.config = b.config := by
  rcases read_cases b now with same | ⟨_, _, moved⟩
  · rw [same]
  · rw [moved]

private theorem allow_config (b : Breaker) (now : Instant) : (b.allow now).2.1.config = b.config := by
  rw [← read_config b now]
  rcases allow_cases b now (Prod.eta _).symm with ⟨_, same⟩ | ⟨_, same⟩ | ⟨_, _, same⟩ | ⟨_, _, same⟩
  all_goals rw [same]

theorem drop_fixed (b : Breaker) (permit : Permit) :
    (b.drop permit).config = b.config ∧ (b.drop permit).generation = b.generation := by
  rcases drop_cases b permit with ⟨_, _, same⟩ | ⟨_, same⟩
  all_goals
    rw [same]
    exact ⟨rfl, rfl⟩

/-- The end of a call never touches the number of the round. -/
theorem complete_fixed (b : Breaker) (permit : Permit) (ok : Bool) (ended : Option ContextError)
    (now : Instant) :
    (b.complete permit ok ended now).1.config = b.config ∧
      (b.complete permit ok ended now).1.generation = b.generation := by
  rcases complete_cases b now permit ok ended with ⟨_, same⟩ | ⟨_, _, same⟩ | ⟨_, _, same⟩
  · rw [same]
    rcases succeed_cases b with ⟨_, same⟩ | ⟨_, same⟩ | ⟨_, same⟩
    all_goals
      rw [same]
      exact ⟨rfl, rfl⟩
  · rw [same]
    rcases fail_cases b now with ⟨_, _, same⟩ | ⟨_, _, same⟩ | ⟨_, same⟩ | ⟨_, same⟩
    all_goals
      rw [same]
      exact ⟨rfl, rfl⟩
  · rw [same]
    exact drop_fixed b permit

section
variable {s after : Traffic} {permit : Permit} {ok : Bool} {ended : Option ContextError}

theorem step_complete (stepped : s.step (.complete permit ok ended) = some after) :
    permit ∈ s.outstanding ∧
      after = s.take (s.breaker.complete permit ok ended s.now) (s.outstanding.erase permit) := by
  simp only [Traffic.step] at stepped
  split at stepped
  next held =>
    cases stepped
    exact ⟨held, rfl⟩
  next => cases stepped

theorem step_abandon (stepped : s.step (.abandon permit) = some after) :
    permit ∈ s.outstanding ∧
      after = s.take (s.breaker.drop permit, []) (s.outstanding.erase permit) := by
  simp only [Traffic.step] at stepped
  split at stepped
  next held =>
    cases stepped
    exact ⟨held, rfl⟩
  next => cases stepped

end

theorem step_config {s after : Traffic} {event : Event} (stepped : s.step event = some after) :
    after.breaker.config = s.breaker.config := by
  cases event with
  | arrive => cases stepped; exact allow_config s.breaker s.now
  | observe => cases stepped; exact read_config s.breaker s.now
  | elapse time => cases stepped; rfl
  | complete permit ok ended =>
    obtain ⟨_, rfl⟩ := step_complete stepped
    exact (complete_fixed s.breaker permit ok ended s.now).1
  | abandon permit =>
    obtain ⟨_, rfl⟩ := step_abandon stepped
    exact (drop_fixed s.breaker permit).1

theorem Reachable.config_eq {config : BreakerConfig} {s : Traffic} (reached : Reachable config s) :
    s.breaker.config = config.normalized := by
  refine reached.invariant (fun s => s.breaker.config = config.normalized) rfl ?_
  intro s event after same stepped
  exact (step_config stepped).trans same

def Event.looks : Event → Bool
  | .arrive | .observe => true
  | _ => false

/-- What the end of a call counts as, if it counts: a success, or a failure under a live context. -/
def Event.outcome : Event → Option Bool
  | .complete _ true _ => some true
  | .complete _ false none => some false
  | _ => none

/-- All that an event can do to what a breaker decides by: its state, the failures in a row, and when it
opened last. -/
inductive Change (s : Traffic) (event : Event) (after : Traffic) : Prop where
  | keep (silent : event.outcome = none ∨ s.breaker.state = .opened)
      (early : event.looks = true → s.breaker.state = .opened → s.breaker.hasExpired s.now = false)
      (state : after.breaker.state = s.breaker.state)
      (failures : after.breaker.consecutiveFailures = s.breaker.consecutiveFailures)
      (openedAt : after.breaker.openedAt = s.breaker.openedAt)
  | probe (looks : event.looks = true) (opened : s.breaker.state = .opened)
      (expired : s.breaker.hasExpired s.now = true) (state : after.breaker.state = .halfOpen)
      (failures : after.breaker.consecutiveFailures = s.breaker.consecutiveFailures)
      (openedAt : after.breaker.openedAt = s.breaker.openedAt)
  | recover (succeeded : event.outcome = some true) (ready : s.breaker.state ≠ .opened)
      (state : after.breaker.state = .closed) (failures : after.breaker.consecutiveFailures = 0)
  | count (failed : event.outcome = some false) (closed : s.breaker.state = .closed)
      (few : s.breaker.consecutiveFailures + 1 < s.breaker.config.threshold)
      (state : after.breaker.state = .closed)
      (failures : after.breaker.consecutiveFailures = s.breaker.consecutiveFailures + 1)
  | trip (failed : event.outcome = some false) (closed : s.breaker.state = .closed)
      (many : s.breaker.config.threshold ≤ s.breaker.consecutiveFailures + 1)
      (state : after.breaker.state = .opened)
      (failures : after.breaker.consecutiveFailures = s.breaker.consecutiveFailures + 1)
      (openedAt : after.breaker.openedAt = some after.now)
  | reopen (failed : event.outcome = some false) (halfOpen : s.breaker.state = .halfOpen)
      (state : after.breaker.state = .opened)
      (failures : after.breaker.consecutiveFailures = s.breaker.consecutiveFailures)
      (openedAt : after.breaker.openedAt = some after.now)

private theorem early_of_read_eq {b : Breaker} {now : Instant} (same : b.read now = (b, []))
    (opened : b.state = .opened) : b.hasExpired now = false := by
  cases expired : b.hasExpired now with
  | false => rfl
  | true =>
    have moved := congrArg (fun result => result.1.state) same
    simp [Breaker.read, moveTo, opened, expired] at moved

/-- Who looks, whether or not something else follows, can only begin a round of probes. -/
private theorem look_change {s after : Traffic} {event : Event} (looks : event.looks = true)
    (uncounted : event.outcome = none)
    (state : after.breaker.state = (s.breaker.read s.now).1.state)
    (failures : after.breaker.consecutiveFailures = (s.breaker.read s.now).1.consecutiveFailures)
    (openedAt : after.breaker.openedAt = (s.breaker.read s.now).1.openedAt) : Change s event after := by
  rcases read_cases s.breaker s.now with same | ⟨opened, expired, moved⟩
  · rw [same] at state failures openedAt
    exact .keep (.inl uncounted) (fun _ => early_of_read_eq same) state failures openedAt
  · rw [moved] at state failures openedAt
    exact .probe looks opened expired state failures openedAt

private theorem drop_change {s after : Traffic} {event : Event} (blind : event.looks ≠ true)
    (uncounted : event.outcome = none) {permit : Permit} (same : after.breaker = s.breaker.drop permit) :
    Change s event after := by
  rcases drop_cases s.breaker permit with ⟨_, _, dropped⟩ | ⟨_, dropped⟩
  all_goals
    rw [dropped] at same
    exact .keep (.inl uncounted) (fun looks => absurd looks blind) (by rw [same]) (by rw [same])
      (by rw [same])

private theorem allow_same (b : Breaker) (now : Instant) :
    (b.allow now).2.1.state = (b.read now).1.state ∧
    (b.allow now).2.1.consecutiveFailures = (b.read now).1.consecutiveFailures ∧
    (b.allow now).2.1.openedAt = (b.read now).1.openedAt := by
  rcases allow_cases b now (Prod.eta _).symm with ⟨_, same⟩ | ⟨_, same⟩ | ⟨_, _, same⟩ | ⟨_, _, same⟩
  all_goals
    rw [same]
    exact ⟨rfl, rfl, rfl⟩

private theorem succeed_change {s after : Traffic} {event : Event} (counted : event.outcome = some true)
    (blind : event.looks ≠ true) (same : after.breaker = s.breaker.succeed.1) : Change s event after := by
  rcases succeed_cases s.breaker with ⟨state, succeeded⟩ | ⟨state, succeeded⟩ | ⟨state, succeeded⟩
  all_goals rw [succeeded] at same
  · exact .recover counted (by simp [state]) (by rw [same]; exact state) (by rw [same])
  · exact .recover counted (by simp [state]) (by rw [same]) (by rw [same])
  · exact .keep (.inr state) (fun looks => absurd looks blind) (by rw [same]) (by rw [same]) (by rw [same])

private theorem fail_change {s after : Traffic} {event : Event} (counted : event.outcome = some false)
    (blind : event.looks ≠ true) (now : after.now = s.now) (same : after.breaker = (s.breaker.fail s.now).1) :
    Change s event after := by
  rcases fail_cases s.breaker s.now with
    ⟨state, few, failed⟩ | ⟨state, many, failed⟩ | ⟨state, failed⟩ | ⟨state, failed⟩
  all_goals rw [failed] at same
  · exact .count counted state few (by rw [same]; exact state) (by rw [same])
  · exact .trip counted state many (by rw [same]) (by rw [same]) (by rw [same, now])
  · exact .reopen counted state (by rw [same]) (by rw [same]) (by rw [same, now])
  · exact .keep (.inr state) (fun looks => absurd looks blind) (by rw [same]) (by rw [same]) (by rw [same])

theorem step_change {s after : Traffic} {event : Event} (stepped : s.step event = some after) :
    Change s event after := by
  cases event with
  | arrive =>
    have same : after.breaker = (s.breaker.allow s.now).2.1 := by cases stepped; rfl
    obtain ⟨state, failures, openedAt⟩ := allow_same s.breaker s.now
    rw [← same] at state failures openedAt
    exact look_change rfl rfl state failures openedAt
  | observe =>
    cases stepped
    exact look_change rfl rfl rfl rfl rfl
  | elapse time =>
    cases stepped
    exact .keep (.inl rfl) (fun looks => by cases looks) rfl rfl rfl
  | abandon permit =>
    obtain ⟨_, rfl⟩ := step_abandon stepped
    exact drop_change Bool.false_ne_true rfl rfl
  | complete permit ok ended =>
    have blind : (Event.complete permit ok ended).looks ≠ true := Bool.false_ne_true
    obtain ⟨_, rfl⟩ := step_complete stepped
    rcases complete_cases s.breaker s.now permit ok ended with
      ⟨rfl, same⟩ | ⟨rfl, rfl, same⟩ | ⟨rfl, done, same⟩
    · exact succeed_change rfl blind (congrArg Prod.fst same)
    · exact fail_change rfl blind rfl (congrArg Prod.fst same)
    · obtain ⟨why, rfl⟩ := Option.isSome_iff_exists.mp done
      exact drop_change blind rfl (congrArg Prod.fst same)

end Courier.Proofs.BreakerTraffic
