import Courier.CommandLine.Run
import Courier.Proofs.ConfigValidity
import Courier.Proofs.RetryAgreement
import Mathlib.Algebra.BigOperators.Group.List.Basic
import Mathlib.Algebra.Ring.Nat
import Mathlib.Data.List.Iterate

/-! The waits of repeated calls. What a policy says they come to is what its executor asks for when every call
fails, and no wait after the first is longer than the longest, if there is one. Where the waits come from a valid
configuration, the first is no longer either, and a longest wait of zero means that nobody waits. -/

namespace Courier.Proofs.RetryWaits
open Simulation ClockWaits ConfigValidity RetryExecution RetryAgreement

/-! ### The next wait -/

private theorem zero_mul (factor : Binary64) :
    (Binary64.zero.mul factor).isFinite = false ∨ (Binary64.zero.mul factor).isZero = true := by
  unfold Binary64.mul
  split
  next => exact .inl rfl
  split
  next => exact .inl rfl
  next =>
    have nothing : Binary64.zero.ratio.1 = 0 := rfl
    change _ ∨ (Binary64.ofRatio _ (Binary64.zero.ratio.1 * factor.ratio.1) _).isZero = true
    rw [nothing, Nat.zero_mul]
    exact .inr rfl

private theorem scale_zero (factor : Binary64) : Duration.zero.scale factor = .zero := by
  have nothing : Duration.zero.toBinary64 = .zero := by decide +kernel
  unfold Duration.scale
  rw [nothing, if_pos]
  rcases zero_mul factor with infinite | zero
  · rw [infinite]
    rfl
  · rw [zero, Bool.or_true]

section
variable {p : RetryPolicy} {wait : Duration}

private theorem nextWait_le (bounded : p.maxWait.isZero = false) : p.nextWait wait ≤ p.maxWait := by
  have capped : (p.nextWait wait).nanos = min (wait.scale p.multiplier).nanos p.maxWait.nanos := by
    rw [RetryPolicy.nextWait, bounded]
    exact Duration.min_nanos _ _
  exact Nat.le_trans (Nat.le_of_eq capped) (Nat.min_le_right _ _)

private theorem eq_zero_of_le {d : Duration} (none : d.isZero = true) (le : wait ≤ d) : wait = .zero := by
  have zero : d.nanos = 0 := of_decide_eq_true none
  have nothing : wait.nanos = 0 := Nat.le_zero.mp (zero ▸ le)
  exact congrArg Duration.mk nothing

private theorem nextWait_within (le : wait ≤ p.maxWait) : p.nextWait wait ≤ p.maxWait := by
  cases bounded : p.maxWait.isZero with
  | false => exact nextWait_le bounded
  | true =>
    have same : p.nextWait wait = .zero := by
      simp only [RetryPolicy.nextWait, bounded, if_true, eq_zero_of_le bounded le, scale_zero]
    rw [same]
    exact Nat.zero_le _

private theorem iterate_within (le : wait ≤ p.maxWait) (k : Nat) : p.nextWait^[k] wait ≤ p.maxWait := by
  induction k with
  | zero => exact le
  | succ k ih =>
    rw [Function.iterate_succ_apply']
    exact nextWait_within ih

/-! ### What the waits come to -/

def total (ds : List Duration) : Duration := ds.foldl .saturatingAdd .zero

private theorem sumWaits_eq (n : Nat) (wait sum : Duration) :
    p.sumWaits n wait sum = (List.iterate p.nextWait wait n).foldl .saturatingAdd sum := by
  induction n generalizing wait sum with
  | zero => rfl
  | succ n ih => exact ih _ _

private theorem totalMaxWait_eq : p.totalMaxWait = total (List.iterate p.nextWait p.initialWait (p.attempts - 1)) :=
  sumWaits_eq _ _ _

private theorem foldl_saturatingAdd (ds : List Duration) {sum : Duration} (small : sum ≤ .limit) :
    (ds.foldl .saturatingAdd sum).nanos = min (sum.nanos + (ds.map (·.nanos)).sum) Duration.limit.nanos := by
  induction ds generalizing sum with
  | nil => exact (Nat.min_eq_left small).symm
  | cons d ds ih =>
    have grown : (sum.saturatingAdd d).nanos = min (sum.nanos + d.nanos) Duration.limit.nanos := rfl
    have rest := @ih (sum.saturatingAdd d) (Nat.min_le_right _ _)
    rw [List.foldl_cons, rest, grown, List.map_cons, List.sum_cons]
    omega

private theorem total_nanos (ds : List Duration) :
    (total ds).nanos = min (ds.map (·.nanos)).sum Duration.limit.nanos := by
  have sum := foldl_saturatingAdd ds (Nat.zero_le _ : Duration.zero ≤ .limit)
  rwa [Nat.zero_add] at sum

private theorem mem_drop_iterate {n : Nat} {d : Duration} (later : d ∈ (List.iterate p.nextWait wait n).drop 1) :
    ∃ before, d = p.nextWait before := by
  cases n with
  | zero => cases later
  | succ n =>
    obtain ⟨k, _, rfl⟩ := List.mem_iterate.mp later
    exact ⟨_, Function.Commute.iterate_self _ _ _⟩

end

section
variable {φ β ρ : Type}

def delays (l : Loop φ β ρ) (script : Script β) (ctx : Context) (calls : Nat) (clock : Clock) :
    Nat → Request φ ρ → List Duration
  | 0, _ => []
  | _ + 1, .finish _ => []
  | fuel + 1, .rest delay phase =>
    let clock := rested ctx delay clock
    delay :: delays l script ctx calls clock fuel (l.afterRest phase (clock.ended? ctx))
  | fuel + 1, .call phase =>
    delays l script ctx (calls + 1) (script.during (calls + 1) clock) fuel
      (l.afterCall phase (script.outcome (calls + 1)))

private theorem asks_of_mem_delays {l : Loop φ β ρ} {script : Script β} {ctx : Context} {start clock : Clock}
    {calls : List Instant} {request : Request φ ρ} {d : Duration} (fuel : Nat)
    (asked : l.Asks script ctx start calls clock request)
    (member : d ∈ delays l script ctx calls.length clock fuel request) :
    ∃ calls clock phase, l.Asks script ctx start calls clock (.rest d phase) := by
  induction fuel generalizing calls clock request with
  | zero => cases member
  | succ fuel ih =>
    cases request with
    | finish _ => cases member
    | call phase =>
      apply ih asked.call
      rwa [List.length_append]
    | rest delay phase =>
      rcases List.mem_cons.mp member with rfl | later
      · exact ⟨calls, clock, phase, asked⟩
      · exact ih asked.rest later

end

section
variable {ε α : Type}

def waits (x : Execution ε α) : List Duration :=
  delays x.loop x.script x.ctx 0 x.clock (2 * x.policy.attempts + 2) (x.loop.start (x.clock.ended? x.ctx))

/-- The waits from the call after so many whole rounds on. -/
def waitsFrom (x : Execution ε α) (k fuel : Nat) : List Duration :=
  delays x.loop x.script x.ctx k (x.ready k) fuel (.call (.calling (k + 1) (x.wait k)))

private theorem waitsFrom_succ (x : Execution ε α) (k fuel : Nat) :
    waitsFrom x k (fuel + 1) =
      delays x.loop x.script x.ctx (k + 1) (x.script.during (k + 1) (x.ready k)) fuel
        (.ofAction (x.policy.afterCall x.retryable (x.chance (k + 1)) (k + 1) (x.wait k)
          (x.script.outcome (k + 1)))) := rfl

private theorem waitsFrom_last (x : Execution ε α) {k fuel : Nat} (last : k + 1 = x.policy.attempts) :
    waitsFrom x k (fuel + 2) = [] := by
  rw [waitsFrom_succ, afterCall_finish fun _ _ _ => last]
  rfl

/-- All attempts fail with errors that allow for another one, and the context never ends. -/
structure Failing (x : Execution ε α) : Prop where
  fails : ∀ k < x.policy.attempts, ∃ why, x.script.outcome (k + 1) = .error why ∧ x.retryable why = true
  lasts : ∀ k < x.policy.attempts, (x.ready k).ended? x.ctx = none

section
variable {x : Execution ε α} (failing : Failing x)
include failing

private theorem Failing.stops_iff {k : Nat} (within : k < x.policy.attempts) :
    x.Stops (k + 1) ↔ k + 1 = x.policy.attempts := by
  obtain ⟨why, failed, accepted⟩ := failing.fails k within
  constructor
  · intro stops
    rcases stops with ⟨a, fine⟩ | ⟨other, known, refused⟩ | last | ended
    · rw [failed] at fine
      cases fine
    · rw [failed] at known
      cases known
      rw [accepted] at refused
      cases refused
    · exact last.trans (Nat.max_comm _ _)
    · apply Nat.le_antisymm within
      apply Nat.le_of_not_lt
      intro more
      rw [failing.lasts (k + 1) more] at ended
      cases ended
  · intro last
    exact .inr (.inr (.inl (last.trans (Nat.max_comm _ _))))

private theorem Failing.calls : x.course.calls.length = x.policy.attempts := by
  have positive := attempts_pos x.policy
  obtain ⟨n, clock, ⟨⟨called, stops⟩, least⟩, ends⟩ := x.course_live (failing.lasts 0 positive)
  obtain ⟨k, rfl⟩ := Nat.exists_eq_add_of_le' called
  obtain ⟨last, attempts⟩ := Nat.exists_eq_add_of_le' positive
  have final : x.Stops (last + 1) := (failing.stops_iff (by omega)).mpr attempts.symm
  have within : k + 1 ≤ last + 1 := least ⟨Nat.le_add_left _ _, final⟩
  rw [ends, x.length_starts]
  exact (failing.stops_iff (by omega)).mp stops

private theorem Failing.waitsFrom_more (steady : x.policy.jitter.le .zero = true) {k fuel : Nat}
    (more : k + 1 < x.policy.attempts) :
    waitsFrom x k (fuel + 2) = x.wait k :: waitsFrom x (k + 1) fuel := by
  obtain ⟨why, failed, accepted⟩ := failing.fails k (Nat.lt_of_succ_lt more)
  let delay := x.policy.jittered (x.chance (k + 1)) (x.wait k)
  have plain : delay = x.wait k := if_pos steady
  have live : ((x.ready (k + 1)).ended? x.ctx).isSome = false := by
    rw [failing.lasts (k + 1) more]
    rfl
  have whole : rested x.ctx delay (x.script.during (k + 1) (x.ready k)) = x.ready (k + 1) := rested_whole live
  have rests : waitsFrom x k (fuel + 2) =
      delay :: delays x.loop x.script x.ctx (k + 1) (x.ready (k + 1)) fuel
        (.ofAction (x.policy.afterRest (k + 1) (x.wait k) why ((x.ready (k + 1)).ended? x.ctx))) := by
    rw [waitsFrom_succ, failed, afterCall_rest accepted (Nat.ne_of_lt more), ← whole]
    rfl
  rw [rests, plain, afterRest_live why more live, x.wait_succ]
  rfl

private theorem Failing.waitsFrom_eq (steady : x.policy.jitter.le .zero = true) (left : Nat) {k fuel : Nat}
    (within : k + left + 1 = x.policy.attempts) (enough : 2 * left + 2 ≤ fuel) :
    waitsFrom x k fuel = List.iterate x.policy.nextWait (x.wait k) left := by
  induction left generalizing k fuel with
  | zero =>
    obtain ⟨fuel, rfl⟩ := Nat.exists_eq_add_of_le' enough
    exact waitsFrom_last x within
  | succ left ih =>
    obtain ⟨fuel, rfl⟩ := Nat.exists_eq_add_of_le' (show 2 ≤ fuel by omega)
    rw [failing.waitsFrom_more steady (by omega), ih (by omega) (by omega), ← x.wait_succ]
    rfl

private theorem Failing.waits_eq (steady : x.policy.jitter.le .zero = true) :
    waits x = List.iterate x.policy.nextWait x.policy.initialWait (x.policy.attempts - 1) := by
  have positive := attempts_pos x.policy
  have begins : x.loop.start none = .call (.calling 1 x.policy.initialWait) := start_live _
  have live : x.clock.ended? x.ctx = none := failing.lasts 0 positive
  have same : waits x = waitsFrom x 0 (2 * x.policy.attempts + 2) := by
    rw [waits, live, begins]
    rfl
  rw [same]
  exact failing.waitsFrom_eq steady _ (by omega) (by omega)

end

/-- Without chance, what a policy says its waits come to is the sum of the waits of an execution all of whose
attempts fail. Every attempt is made, with a wait between two, and a wait after another is no longer than the
longest if there is one. -/
theorem totalMaxWait_is_waited (x : Execution ε α) (steady : x.policy.jitter.le .zero = true)
    (failing : Failing x) :
    x.course.calls.length = x.policy.attempts ∧ (waits x).length + 1 = x.policy.attempts ∧
      (∀ d ∈ waits x, ∃ calls clock phase,
        x.loop.Asks x.script x.ctx x.clock calls clock (.rest d phase)) ∧
      x.policy.totalMaxWait = total (waits x) ∧
      x.policy.totalMaxWait.nanos = min ((waits x).map (·.nanos)).sum Duration.limit.nanos ∧
      (x.policy.maxWait.isZero = false → ∀ d ∈ (waits x).drop 1, d ≤ x.policy.maxWait) := by
  have waited := failing.waits_eq steady
  have sum : x.policy.totalMaxWait = total (waits x) := by
    rw [totalMaxWait_eq, waited]
  refine ⟨failing.calls, ?_, ?_, sum, ?_, ?_⟩
  · rw [waited, List.length_iterate]
    exact Nat.sub_add_cancel (attempts_pos x.policy)
  · intro d member
    exact asks_of_mem_delays _ .start member
  · rw [sum]
    exact total_nanos _
  · intro bounded d later
    rw [waited] at later
    obtain ⟨before, rfl⟩ := mem_drop_iterate later
    exact nextWait_le bounded

/-- Four attempts that fail at once, with waits that double from a second up to one and a half. -/
def stubborn : Execution CodedError Nat where
  policy := ⟨4, .ofSeconds 1, .ofMillis 1500, .ofNat 2, .zero⟩
  retryable _ := true
  ofContext := ContextError.toCoded
  chance _ := .zero
  script := ⟨fun _ => .error default, fun _ clock => clock⟩
  ctx := .background 0
  clock := {}

theorem totalMaxWait_is_waited_stubborn :
    stubborn.policy.totalMaxWait = total (waits stubborn) ∧ total (waits stubborn) = .ofMillis 4000 := by
  have failing : Failing stubborn :=
    ⟨fun _ _ => ⟨default, rfl, rfl⟩, by decide +kernel⟩
  obtain ⟨_, _, _, sum, _⟩ := totalMaxWait_is_waited stubborn (by decide +kernel) failing
  refine ⟨sum, ?_⟩
  rw [← sum]
  decide +kernel

/-! ### Waits of a valid configuration -/

/-- Every wait that is asked for is one within the longest, but for what is left to chance. -/
def Bounded (p : RetryPolicy) (chance : Nat → Binary64) :
    Request (RetryPolicy.Phase ε) (Except ε α) → Prop
  | .call (.calling _ wait) => wait ≤ p.maxWait
  | .rest delay (.resting attempt wait _) => wait ≤ p.maxWait ∧ delay = p.jittered (chance attempt) wait
  | .finish _ => True
  | _ => False

section
variable {p : RetryPolicy} {chance : Nat → Binary64} {attempt : Nat} {wait : Duration}

private theorem bounded_proceed (le : wait ≤ p.maxWait) (failure : ContextError → ε) (attempt : Nat)
    (ended : Option ContextError) :
    Bounded p chance (.ofAction (p.proceed failure attempt wait ended : RetryPolicy.Action ε α)) := by
  unfold RetryPolicy.proceed
  split
  next => trivial
  next =>
    cases ended with
    | some why => trivial
    | none => exact le

private theorem bounded_afterCall (le : wait ≤ p.maxWait) (retryable : ε → Bool) (outcome : Except ε α) :
    Bounded p chance (.ofAction (p.afterCall retryable (chance attempt) attempt wait outcome)) := by
  by_cases final : ∀ why, outcome = .error why → retryable why = true → attempt = p.attempts
  · rw [afterCall_finish final]
    trivial
  · push Not at final
    obtain ⟨why, rfl, accepted, left⟩ := final
    rw [afterCall_rest accepted left]
    exact ⟨le, rfl⟩

end

private theorem bounded_asks {x : Execution ε α} (le : x.policy.initialWait ≤ x.policy.maxWait)
    {calls : List Instant} {clock : Clock} {request : Request (RetryPolicy.Phase ε) (Except ε α)}
    (asked : x.loop.Asks x.script x.ctx x.clock calls clock request) : Bounded x.policy x.chance request := by
  induction asked with
  | start => exact bounded_proceed le _ _ _
  | @call _ _ phase _ bounded =>
    cases phase with
    | calling attempt wait => exact bounded_afterCall bounded _ _
    | resting _ _ _ => exact bounded.elim
  | @rest _ _ _ phase _ bounded =>
    cases phase with
    | calling _ _ => exact bounded.elim
    | resting attempt wait last => exact bounded_proceed (nextWait_within bounded.1) _ _ _

end

/-- The same of a wrapper, which leaves nothing to chance. -/
def BoundedSend (longest : Duration) : Request Middleware.Phase Reply → Prop
  | .call (.sending _ wait) => wait ≤ longest
  | .rest delay (.resting _ wait _) => wait ≤ longest ∧ delay = wait
  | .finish _ => True
  | _ => False

section
variable {longest wait : Duration} {attempt : Nat}

private theorem boundedSend_proceed (r : SendRetry) (le : wait ≤ longest) (last : Option TransportError)
    (ended : Option ContextError) :
    BoundedSend longest (requestOf (Middleware.proceed r attempt wait last ended)) := by
  unfold Middleware.proceed
  split
  next => cases last <;> trivial
  next =>
    cases ended with
    | some why => trivial
    | none => exact le

private theorem boundedSend_afterSend (w : Middleware) (le : wait ≤ longest) (inner : String) (m : Message)
    (reply : Reply) : BoundedSend longest (requestOf (w.afterSend inner m attempt wait reply).1) := by
  unfold Middleware.afterSend
  split
  next =>
    split
    next => trivial
    next => exact ⟨le, rfl⟩
  next => trivial

variable {w : Middleware}
  (within : ∀ r, w.retry = some r → r.initialWait ≤ r.maxWait ∧ r.maxWait = longest)
include within

private theorem boundedSend_start (ended : Option ContextError) :
    BoundedSend longest (requestOf (w.start ended)) := by
  unfold Middleware.start
  cases repeats : w.retry with
  | none => exact Nat.zero_le _
  | some r =>
    obtain ⟨le, rfl⟩ := within r repeats
    exact boundedSend_proceed r le _ _

private theorem boundedSend_afterRest (le : wait ≤ longest) (last : TransportError) (ended : Option ContextError) :
    BoundedSend longest (requestOf (w.afterRest attempt wait last ended)) := by
  unfold Middleware.afterRest
  split
  next r repeats =>
    obtain ⟨_, rfl⟩ := within r repeats
    exact boundedSend_proceed r (nextWait_within (p := policyOf r) le) _ _
  next => trivial

private theorem boundedSend_asks {inner : String} {m : Message} {script : Script Reply} {ctx : Context}
    {start : Clock} {calls : List Instant} {clock : Clock} {request : Request Middleware.Phase Reply}
    (asked : (ofMiddleware w inner m).Asks script ctx start calls clock request) :
    BoundedSend longest request := by
  induction asked with
  | start => exact boundedSend_start within _
  | @call _ _ phase _ bounded =>
    cases phase with
    | sending attempt wait => exact boundedSend_afterSend _ bounded _ _ _
    | resting _ _ _ => exact bounded.elim
  | @rest _ _ _ phase _ bounded =>
    cases phase with
    | sending _ _ => exact bounded.elim
    | resting attempt wait last => exact boundedSend_afterRest within bounded.1 _ _

end

private theorem relayWrapper_within {c : Config.Retry} (le : c.initialWait ≤ c.maxWait) (r : SendRetry)
    (repeats : (CommandLine.relayWrapper c).retry = some r) :
    r.initialWait ≤ r.maxWait ∧ r.maxWait = c.maxWait := by
  change (if _ then some _ else none) = some r at repeats
  split at repeats
  next =>
    cases repeats
    exact ⟨le, rfl⟩
  next => cases repeats

/-- A valid configuration keeps all waits of its policy, chance aside, and all waits of a relay within the
longest, even where a longest wait of zero stands for no bound. -/
theorem waits_within_longest {c : Config} (valid : c.validate = .ok ()) :
    (∀ k, (RetryPolicy.ofConfig c.retry).nextWait^[k] c.retry.initialWait ≤ c.retry.maxWait) ∧
    (∀ (ε α : Type) (x : Execution ε α), x.policy = .ofConfig c.retry → ∀ calls clock delay phase,
      x.loop.Asks x.script x.ctx x.clock calls clock (.rest delay phase) →
        ∃ attempt wait last, phase = .resting attempt wait last ∧ wait ≤ c.retry.maxWait ∧
          delay = x.policy.jittered (x.chance attempt) wait) ∧
    ∀ inner m script ctx start calls clock delay phase,
      (ofMiddleware (CommandLine.relayWrapper c.retry) inner m).Asks script ctx start calls clock
        (.rest delay phase) → delay ≤ c.retry.maxWait := by
  have le : c.retry.initialWait ≤ c.retry.maxWait := (valid_iff.mp valid).retry.waits
  refine ⟨iterate_within (p := .ofConfig c.retry) le, ?_, ?_⟩
  · intro ε α x same calls clock delay phase asked
    have bounded := bounded_asks (by rwa [same]) asked
    cases phase with
    | calling _ _ => exact bounded.elim
    | resting attempt wait last =>
      rw [same] at bounded
      rw [same]
      exact ⟨attempt, wait, last, rfl, bounded⟩
  · intro inner m script ctx start calls clock delay phase asked
    have bounded := boundedSend_asks (relayWrapper_within le) asked
    cases phase with
    | sending _ _ => exact bounded.elim
    | resting _ wait _ =>
      obtain ⟨within, rfl⟩ := bounded
      exact within

/-- Zero is a valid longest wait where the first is zero too. -/
theorem waits_within_longest_zero :
    let c : Config := { retry := { initialWait := .zero, maxWait := .zero } }
    c.validate = .ok () ∧ ∀ k, (RetryPolicy.ofConfig c.retry).nextWait^[k] .zero = .zero := by
  intro c
  have valid : c.validate = .ok () := by decide +kernel
  refine ⟨valid, ?_⟩
  intro k
  exact eq_zero_of_le rfl ((waits_within_longest valid).1 k)

end Courier.Proofs.RetryWaits
