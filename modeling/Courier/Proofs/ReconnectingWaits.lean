import Courier.Proofs.ConfigValidity
import Courier.Proofs.ReconnectingPacing
import Mathlib.Algebra.Ring.Nat

/-! The waits after failed dials. They double from the first to the longest, and each search for a connection
starts again with the first one. A valid configuration means what it says: nothing in it stands for another
wait, and no wait is too long to be doubled. -/

namespace Courier.Proofs.ReconnectingWaits
open Reconnecting ReconnectingSections ReconnectingPacing ConfigValidity

/-- An operation, and how many dials have failed in its search for a connection. -/
structure Course where
  stage : Stage
  failed : Nat := 0

def failures (m : Move) : Nat :=
  match outcome m with
  | some (.error _) => 1
  | _ => 0

namespace Course

/-- Outside of a search nothing is counted. -/
def turn (c : Course) (m : Move) (t : Turn) : Course where
  stage := t.stage
  failed := if (waitOf c.stage).isSome then c.failed + failures m else 0

def step (config : Reconnect) (c : Course) (m : Move) : Option Course :=
  (moved config c.stage m).map (c.turn m)

end Course

/-! ### The wait after some failed dials -/

/-- The wait after so many failed dials and one more. -/
def waitAfter (config : Reconnect) (k : Nat) : Duration :=
  ⟨min (config.firstWait.nanos * 2 ^ k) config.longestWait.nanos⟩

section
variable {config : Reconnect}

private theorem waitAfter_zero (ordered : config.firstWait ≤ config.longestWait) :
    waitAfter config 0 = config.firstWait := by
  rw [waitAfter, Nat.pow_zero, Nat.mul_one]
  exact congrArg Duration.mk (Nat.min_eq_left ordered)

/-- It makes no difference that the wait is bounded each time before it is doubled again. -/
theorem nextWait_waitAfter (k : Nat) : config.nextWait (waitAfter config k) = waitAfter config (k + 1) := by
  have grown : config.firstWait.nanos * 2 ^ (k + 1) = config.firstWait.nanos * 2 ^ k * 2 := by
    rw [Nat.pow_succ, Nat.mul_assoc]
  have same : (config.nextWait (waitAfter config k)).nanos = (waitAfter config (k + 1)).nanos := by
    simp only [Reconnect.nextWait, Duration.min_nanos, Duration.doubled, waitAfter, grown]
    omega
  exact congrArg Duration.mk same

private theorem firstWait_le (ordered : config.firstWait ≤ config.longestWait) (k : Nat) :
    config.firstWait ≤ waitAfter config k :=
  Nat.le_min.mpr ⟨Nat.le_mul_of_pos_right _ (Nat.two_pow_pos k), ordered⟩

private theorem waitAfter_le (k : Nat) : waitAfter config k ≤ config.longestWait := Nat.min_le_right _ _

end

/-! ### The waits along a course -/

/-- Where an operation stands after so many failed dials, and what its wait is then. -/
def Stands (config : Reconnect) (failed : Nat) : Stage → Prop
  | .checking _ wait _ | .looking _ wait _ => wait = waitAfter config failed
  | .standing (.ask request (.dialing _ wait)) => request = .dial ∧ wait = waitAfter config failed
  | .standing (.ask request (.resting _ wait _)) =>
    request = .rest wait ∧ ∃ k, failed = k + 1 ∧ wait = waitAfter config k
  | stage => ∀ wait, .rest wait ∉ requests stage

section
variable {config : Reconnect} {c after : Course} {stage : Stage} {m : Move} {wait : Duration}

private theorem Stands.of_outside {failed : Nat} (outside : Outside stage) : Stands config failed stage := by
  cases stage with
  | checking _ _ _ => cases outside.waitless
  | looking _ _ _ => cases outside.waitless
  | standing next =>
    cases next with
    | finish _ => exact outside.restless
    | ask request phase =>
      cases phase with
      | dialing _ _ => cases outside.waitless
      | resting _ _ _ => cases outside.waitless
      | _ => exact outside.restless
  | _ => exact outside.restless

theorem step_stands (ordered : config.firstWait ≤ config.longestWait)
    (stands : Stands config c.failed c.stage) (stepped : c.step config m = some after) :
    Stands config after.failed after.stage := by
  obtain ⟨t, turned, rfl⟩ := Option.map_eq_some_iff.mp stepped
  have paced := moved_paced turned
  obtain ⟨before, failed⟩ := c
  obtain ⟨slot, reports, stage⟩ := t
  dsimp only [Course.turn] at stands paced ⊢
  cases paced with
  | begins s free waitless silent =>
    rw [waitless]
    exact (waitAfter_zero ordered).symm
  | looks m s wait last silent =>
    simpa [Stands, waitOf, failures, silent] using stands
  | dials m s wait last silent =>
    simpa [Stands, waitOf, failures, silent] using stands
  | fails slot request s wait why => exact ⟨rfl, failed, rfl, stands.2⟩
  | arrives slot request s wait c => exact fun _ => List.not_mem_nil
  | rests slot request s wait last =>
    obtain ⟨_, k, rfl, rfl⟩ := stands
    exact nextWait_waitAfter k
  | stops reply silent => exact fun _ => List.not_mem_nil
  | leaves free outside silent => exact .of_outside outside

/-- Whoever comes into a search begins with the first wait. -/
theorem step_begins (stepped : c.step config m = some after) (waitless : waitOf c.stage = none)
    (waits : waitOf after.stage = some wait) : after.failed = 0 ∧ wait = config.firstWait := by
  obtain ⟨t, turned, rfl⟩ := Option.map_eq_some_iff.mp stepped
  have paced := moved_paced turned
  refine ⟨by simp [Course.turn, waitless], ?_⟩
  dsimp only [Course.turn] at waits
  generalize c.stage = before at paced waitless
  generalize t.stage = stage at paced waits
  cases paced with
  | begins s _ _ _ => exact (Option.some.inj waits).symm
  | looks _ _ _ _ _ => cases waitless
  | dials _ _ _ _ _ => cases waitless
  | fails _ _ _ _ _ => cases waitless
  | arrives _ _ _ _ _ => cases waitless
  | rests _ _ _ _ _ => cases waitless
  | stops _ _ => cases waits
  | leaves _ outside _ => cases outside.waitless.symm.trans waits

theorem Stands.rest {failed : Nat} (stands : Stands config failed stage)
    (asked : .rest wait ∈ requests stage) : ∃ k, failed = k + 1 ∧ wait = waitAfter config k := by
  cases stage with
  | standing next =>
    cases next with
    | finish _ => cases asked
    | ask request phase =>
      have same : .rest wait = request := List.mem_singleton.mp asked
      cases phase with
      | dialing _ _ =>
        obtain ⟨rfl, _⟩ := stands
        cases same
      | resting _ _ _ =>
        obtain ⟨rfl, counted⟩ := stands
        cases same
        exact counted
      | _ => exact (stands wait asked).elim
  | _ => cases asked

theorem Stands.waits {failed : Nat} (stands : Stands config failed stage)
    (waits : waitOf stage = some wait) : ∃ k, wait = waitAfter config k := by
  cases stage with
  | checking _ _ _ =>
    cases waits
    exact ⟨failed, stands⟩
  | looking _ _ _ =>
    cases waits
    exact ⟨failed, stands⟩
  | standing next =>
    cases next with
    | finish _ => cases waits
    | ask request phase =>
      cases phase with
      | dialing _ _ =>
        cases waits
        exact ⟨failed, stands.2⟩
      | resting _ _ _ =>
        cases waits
        obtain ⟨_, k, _, same⟩ := stands
        exact ⟨k, same⟩
      | _ => cases waits
  | _ => cases waits

end

abbrev Reachable (config : Reconnect) (c : Course) : Prop :=
  ∃ op, Leads (Course.step config) ⟨.first op, 0⟩ c

private theorem first_stands (config : Reconnect) (op : Operation) : Stands config 0 (.first op) := by
  cases op <;> exact nofun

theorem Reachable.stands {config : Reconnect} {c : Course} (reached : Reachable config c)
    (ordered : config.firstWait ≤ config.longestWait) : Stands config c.failed c.stage := by
  obtain ⟨op, led⟩ := reached
  exact led.invariant (fun c => Stands config c.failed c.stage) (first_stands config op)
    fun _ _ _ stands stepped => step_stands ordered stands stepped

/-! ### Valid configurations -/

private theorem doubled_fits {d : Duration} (whole : InMillis d) : d.doubled ≤ .limit := by
  obtain ⟨ms, small, rfl⟩ := whole
  change ms * 1000000 * 2 ≤ 18446744073709551615 * 1000000000 + 999999999
  simp only [UInt64.size] at small
  omega

private theorem doubled_mono {d e : Duration} (le : d ≤ e) : d.doubled ≤ e.doubled := Nat.mul_le_mul_right 2 le

/-- What stands for another wait is zero, and no wait of a valid configuration is. -/
theorem normalized_ofConfig {r : Config.Reconnect} (rules : ReconnectRules r) :
    (Reconnect.ofConfig r).normalized = Reconnect.ofConfig r := by
  have positive : 0 < r.initialWait.nanos := Nat.pos_of_ne_zero (of_decide_eq_false rules.positive)
  have longest : r.maxWait.isZero = false :=
    decide_eq_false (Nat.ne_of_gt (Nat.lt_of_lt_of_le positive rules.waits))
  simp only [Reconnect.normalized, Reconnect.ofConfig, rules.positive, longest, Bool.false_eq_true, if_false]

/-- A configuration that was read is valid, and its durations are whole milliseconds. For any such
configuration, the reconnecting transport waits as it says: after each failed dial of a search there is a
wait, which is the first one doubled for every failed dial before, up to the longest. A search begins with no
failed dial and the first wait, all waits are between the first and the longest, and doubling them does not
overflow. -/
theorem waits_as_configured :
    (∀ file document c, Config.ofText file document = .ok c →
      c.validate = .ok () ∧ ∀ d ∈ durations c, InMillis d) ∧
    ∀ c : Config, c.validate = .ok () → (∀ d ∈ durations c, InMillis d) →
      let config := Reconnect.ofConfig c.reconnect
      config.normalized = config ∧ ∀ course, Reachable config course →
        (∀ request s wait slot why,
          course.stage = .standing (.ask request (.dialing s wait)) →
            course.step config (.answer slot (.dialed (.error why))) =
              some ⟨.standing (.ask (.rest wait) (.resting s wait why)), course.failed + 1⟩) ∧
        (∀ wait, .rest wait ∈ requests course.stage →
          1 ≤ course.failed ∧
            wait.nanos =
              min (c.reconnect.initialWait.nanos * 2 ^ (course.failed - 1)) c.reconnect.maxWait.nanos) ∧
        (∀ event after, course.step config event = some after → waitOf course.stage = none →
          ∀ wait ∈ waitOf after.stage, after.failed = 0 ∧ wait = c.reconnect.initialWait) ∧
        ∀ wait ∈ waitOf course.stage,
          c.reconnect.initialWait ≤ wait ∧ wait ≤ c.reconnect.maxWait ∧ wait.doubled ≤ .limit := by
  refine ⟨fun file document c read => ofText_valid read, ?_⟩
  intro c valid whole config
  have rules : ReconnectRules c.reconnect := (valid_iff.mp valid).reconnect
  have ordered : config.firstWait ≤ config.longestWait := rules.waits
  refine ⟨normalized_ofConfig rules, ?_⟩
  intro course reached
  have stands := reached.stands ordered
  refine ⟨?_, ?_, ?_, ?_⟩
  · intro request s wait slot why stage
    simp only [Course.step, stage, moved, answer, Option.map_some, Course.turn, waitOf, failures, outcome,
      Option.isSome_some, if_true]
  · intro wait asked
    obtain ⟨k, failed, rfl⟩ := stands.rest asked
    rw [failed]
    exact ⟨Nat.le_add_left _ _, rfl⟩
  · intro event after stepped outside wait waits
    exact step_begins stepped outside waits
  · intro wait waits
    obtain ⟨k, rfl⟩ := stands.waits waits
    have longest : InMillis c.reconnect.maxWait := whole _ (by simp [durations])
    exact ⟨firstWait_le ordered k, waitAfter_le k,
      Nat.le_trans (doubled_mono (waitAfter_le k)) (doubled_fits longest)⟩

def refusedTwice : Course where
  stage :=
    .standing (.ask (.rest (.ofMillis 200)) (.resting { goal := .receive } (.ofMillis 200) (.closed "peer")))
  failed := 2

theorem waits_as_configured_refusedTwice :
    Reachable (Reconnect.ofConfig {}) refusedTwice ∧
      (Duration.ofMillis 200).nanos = min (100000000 * 2 ^ (2 - 1)) 30000000000 := by
  let failed : Move := .answer {} (.dialed (.error (.closed "peer")))
  have reached : Reachable (Reconnect.ofConfig {}) refusedTwice :=
    ⟨.receive, [.look {} none, .look {} none, .look {} none, failed, .answer {} .rested, .look {} none,
      .look {} none, failed], rfl⟩
  have valid : ({} : Config).validate = .ok () := rfl
  obtain ⟨_, courses⟩ := waits_as_configured.2 {} valid standard_inMillis
  obtain ⟨_, waits, _⟩ := courses refusedTwice reached
  exact ⟨reached, (waits _ (List.mem_singleton_self _)).2⟩

end Courier.Proofs.ReconnectingWaits
