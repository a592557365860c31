import Courier.Proofs.BreakerTraffic
import Mathlib.Data.List.DropRight

/-! A breaker trips exactly at its threshold. While it is closed its counter is the number of failures
that counted since it last succeeded or closed, however calls overlap; a breaker that is not closed
has counted exactly to its threshold, and knows when it opened. -/

namespace Courier.Proofs.BreakerTripping
open Breaker BreakerTraffic

abbrev Past := List (Passage Traffic Event)

/-- Whether an event ends a row of failures: a success that counts, or one that closes the breaker. -/
def restarts (p : Passage Traffic Event) : Bool :=
  p.event.outcome = some true ||
    (p.before.breaker.state ≠ .closed && p.after.breaker.state = .closed)

def fails (p : Passage Traffic Event) : Bool := p.event.outcome = some false

def failuresInRow (past : Past) : Nat := (past.rtakeWhile fun p => !restarts p).countP fails

private theorem failuresInRow_restart {past : Past} {p : Passage Traffic Event} (restart : restarts p = true) :
    failuresInRow (past ++ [p]) = 0 := by
  simp [failuresInRow, restart]

private theorem failuresInRow_go {past : Past} {p : Passage Traffic Event} (same : restarts p = false) :
    failuresInRow (past ++ [p]) = failuresInRow past + (fails p).toNat := by
  rw [failuresInRow, List.rtakeWhile_concat, if_pos (by simp [same]), List.countP_append,
    List.countP_singleton]
  cases fails p <;> rfl

section
variable {b : Breaker}

structure Counted (b : Breaker) : Prop where
  room : 0 < b.config.threshold
  closed : b.state = .closed → b.consecutiveFailures < b.config.threshold
  tripped : b.state ≠ .closed → b.consecutiveFailures = b.config.threshold ∧ b.openedAt.isSome

private theorem Counted.of_closed (room : 0 < b.config.threshold) (closed : b.state = .closed)
    (few : b.consecutiveFailures < b.config.threshold) : Counted b :=
  ⟨room, fun _ => few, fun other => absurd closed other⟩

private theorem Counted.of_tripped (room : 0 < b.config.threshold) (tripped : b.state ≠ .closed)
    (many : b.consecutiveFailures = b.config.threshold) (known : b.openedAt.isSome) : Counted b :=
  ⟨room, fun closed => absurd closed tripped, fun _ => ⟨many, known⟩⟩

end

private theorem counted_new (config : BreakerConfig) : Counted (.new config) := by
  have room : 0 < config.normalized.threshold := by
    simp only [BreakerConfig.normalized]
    split <;> omega
  exact .of_closed room rfl room

theorem step_preserves (s : Traffic) (event : Event) (after : Traffic) (valid : Counted s.breaker)
    (stepped : s.step event = some after) : Counted after.breaker := by
  have config := step_config stepped
  have room : 0 < after.breaker.config.threshold := config ▸ valid.room
  cases step_change stepped with
  | keep _ _ state failures openedAt =>
    refine ⟨room, ?_, ?_⟩
    · rw [state, failures, config]
      exact valid.closed
    · rw [state, failures, config, openedAt]
      exact valid.tripped
  | probe _ opened _ state failures openedAt =>
    obtain ⟨many, known⟩ := valid.tripped (by simp [opened])
    exact .of_tripped room (by simp [state]) (by rw [failures, config, many]) (openedAt ▸ known)
  | recover _ _ state failures => exact .of_closed room state (by rw [failures]; exact room)
  | count _ _ few state failures => exact .of_closed room state (by rw [failures, config]; exact few)
  | trip _ closed many state failures openedAt =>
    have few := valid.closed closed
    exact .of_tripped room (by simp [state]) (by rw [failures, config]; omega) (by simp [openedAt])
  | reopen _ halfOpen state failures openedAt =>
    obtain ⟨many, _⟩ := valid.tripped (by simp [halfOpen])
    exact .of_tripped room (by simp [state]) (by rw [failures, config, many]) (by simp [openedAt])

/-- A closed breaker has counted the failures of the row, whatever calls they come from. -/
theorem counter_eq_failuresInRow {config : BreakerConfig} {past : Past} {s : Traffic}
    (ran : History Traffic.step (start config) past s) (closed : s.breaker.state = .closed) :
    s.breaker.consecutiveFailures = failuresInRow past := by
  induction ran with
  | start => rfl
  | go prior moved ih =>
    cases step_change moved with
    | keep silent _ state failures _ =>
      have before := state.symm.trans closed
      have uncounted := silent.resolve_right (by simp [before])
      rw [failures, ih before, failuresInRow_go (by simp [restarts, uncounted, before])]
      simp [fails, uncounted]
    | recover succeeded _ _ failures =>
      rw [failures, failuresInRow_restart (by simp [restarts, succeeded])]
    | count failed before _ _ failures =>
      rw [failures, ih before, failuresInRow_go (by simp [restarts, failed, before])]
      simp [fails, failed]
    | probe _ _ _ state => simp [state] at closed
    | trip _ _ _ state => simp [state] at closed
    | reopen _ _ state => simp [state] at closed

private theorem opens_iff {s after : Traffic} {event : Event} (closed : s.breaker.state = .closed)
    (few : s.breaker.consecutiveFailures < s.breaker.config.threshold)
    (stepped : s.step event = some after) :
    after.breaker.state = .opened ↔
      event.outcome = some false ∧ s.breaker.consecutiveFailures + 1 = s.breaker.config.threshold := by
  cases step_change stepped with
  | keep silent _ state =>
    have uncounted := silent.resolve_right (by simp [closed])
    simp [state, closed, uncounted]
  | recover succeeded _ state => simp [state, succeeded]
  | count failed _ fewer state =>
    have short : s.breaker.consecutiveFailures + 1 ≠ s.breaker.config.threshold := by omega
    simp [state, short]
  | trip failed _ many state =>
    have reached : s.breaker.consecutiveFailures + 1 = s.breaker.config.threshold := by omega
    simp [state, failed, reached]
  | probe _ opened => simp [opened] at closed
  | reopen _ halfOpen => simp [halfOpen] at closed

/-- In every run the counter of a closed breaker is the number of failures in a row, below the
threshold, and so below any machine word that the threshold fits in; the failure that completes the
threshold, and no other event, opens it. A breaker that is not closed has counted to the threshold,
and knows when it opened. -/
theorem opens_at_threshold {config : BreakerConfig} {past : Past} {s : Traffic}
    (ran : History Traffic.step (start config) past s) :
    (s.breaker.state = .closed →
      s.breaker.consecutiveFailures = failuresInRow past ∧
      failuresInRow past < config.normalized.threshold ∧
      (config.threshold < UInt32.size → s.breaker.consecutiveFailures + 1 < UInt32.size) ∧
      ∀ event after, s.step event = some after →
        (after.breaker.state = .opened ↔
          event.outcome = some false ∧ failuresInRow past + 1 = config.normalized.threshold)) ∧
    (s.breaker.state ≠ .closed →
      s.breaker.consecutiveFailures = config.normalized.threshold ∧
      ∃ instant, s.breaker.openedAt = some instant) := by
  have valid : Counted s.breaker :=
    ran.leads.invariant (fun s => Counted s.breaker) (counted_new config) step_preserves
  have normal : s.breaker.config = config.normalized := Reachable.config_eq ran.leads
  refine ⟨?_, ?_⟩
  · intro closed
    have few := valid.closed closed
    have row := counter_eq_failuresInRow ran closed
    refine ⟨row, by rw [← row, ← normal]; exact few, ?_, ?_⟩
    · intro fits
      have bound : config.normalized.threshold < UInt32.size := by
        simp only [BreakerConfig.normalized, UInt32.size] at fits ⊢
        split <;> omega
      rw [normal] at few
      omega
    · intro event after stepped
      rw [← row, ← normal]
      exact opens_iff closed few stepped
  · intro tripped
    obtain ⟨many, known⟩ := valid.tripped tripped
    exact ⟨normal ▸ many, Option.isSome_iff_exists.mp known⟩

/-- A row of one failure after a success, with two calls from before it still under way. -/
def tense : Traffic where
  breaker :=
    { config := ⟨2, ⟨10⟩, 1⟩, consecutiveFailures := 1, successes := 1, failures := 2 }
  outstanding := [⟨none⟩, ⟨none⟩]

theorem opens_at_threshold_tense :
    ∃ past, History Traffic.step (start ⟨2, ⟨10⟩, 1⟩) past tense ∧ failuresInRow past = 1 ∧
      ∃ after, tense.step (.complete ⟨none⟩ false none) = some after ∧
        after.breaker.state = .opened := by
  have reached : Reachable ⟨2, ⟨10⟩, 1⟩ tense :=
    ⟨[.arrive, .arrive, .arrive, .arrive, .arrive, .complete ⟨none⟩ false none,
      .complete ⟨none⟩ true none, .complete ⟨none⟩ false none], by decide⟩
  obtain ⟨past, ran⟩ := Leads.history reached
  obtain ⟨row, _, _, opens⟩ := (opens_at_threshold ran).1 rfl
  refine ⟨past, ran, row.symm, _, rfl, ?_⟩
  exact (opens (.complete ⟨none⟩ false none) _ rfl).mpr ⟨rfl, row ▸ rfl⟩

end Courier.Proofs.BreakerTripping
