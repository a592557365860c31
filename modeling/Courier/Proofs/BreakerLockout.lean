import Courier.Proofs.BreakerTraffic

/-! An open breaker stays open for its whole timeout. Calls that end meanwhile, in whatever way, neither
shorten nor extend it, and neither does looking; the first look after the timeout begins a round of
probes. -/

namespace Courier.Proofs.BreakerLockout
open Breaker BreakerTraffic

section
variable {s after : Traffic} {event : Event} {since : Instant} {timeout : Duration}

private theorem now_le (stepped : s.step event = some after) : s.now ≤ after.now := by
  cases event with
  | arrive => cases stepped; exact Nat.le_refl _
  | observe => cases stepped; exact Nat.le_refl _
  | elapse time => cases stepped; exact Nat.le_add_right _ _
  | complete permit ok ended =>
    obtain ⟨_, rfl⟩ := step_complete stepped
    exact Nat.le_refl _
  | abandon permit =>
    obtain ⟨_, rfl⟩ := step_abandon stepped
    exact Nat.le_refl _

/-- A breaker that has been open since an instant, and the timeout that it was given. -/
structure Locked (since : Instant) (timeout : Duration) (s : Traffic) : Prop where
  state : s.breaker.state = .opened
  openedAt : s.breaker.openedAt = some since
  since_le : since ≤ s.now
  timeout : s.breaker.config.timeout = timeout

def Late (limit : Instant) (s : Traffic) (event : Event) : Prop := event.looks = true ∧ limit ≤ s.now

private theorem Locked.hasExpired (locked : Locked since timeout s) :
    s.breaker.hasExpired s.now = true ↔ since + timeout.nanos ≤ s.now := by
  simp only [Breaker.hasExpired, locked.openedAt, decide_eq_true_eq, locked.timeout]
  exact Nat.le_sub_iff_add_le' locked.since_le

private theorem locked_of_opening (shut : s.breaker.state ≠ .opened) (stepped : s.step event = some after)
    (opened : after.breaker.state = .opened) : Locked after.now after.breaker.config.timeout after := by
  cases step_change stepped with
  | keep _ _ state => exact absurd (state ▸ opened) shut
  | probe _ before => exact absurd before shut
  | recover _ _ state => simp [state] at opened
  | count _ _ _ state => simp [state] at opened
  | trip _ _ _ state _ openedAt => exact ⟨state, openedAt, Nat.le_refl _, rfl⟩
  | reopen _ _ state _ openedAt => exact ⟨state, openedAt, Nat.le_refl _, rfl⟩

/-- One event: a late look begins a round of probes, and nothing else changes anything. -/
theorem Locked.step (locked : Locked since timeout s) (stepped : s.step event = some after) :
    Late (since + timeout.nanos) s event ∧ after.breaker.state = .halfOpen ∨
    ¬ Late (since + timeout.nanos) s event ∧ Locked since timeout after := by
  have opened := locked.state
  cases step_change stepped with
  | keep _ early state _ openedAt =>
    refine .inr ⟨?_, state.trans opened, openedAt.trans locked.openedAt,
      Nat.le_trans locked.since_le (now_le stepped), by rw [step_config stepped, locked.timeout]⟩
    rintro ⟨looks, late⟩
    rw [← locked.hasExpired, early looks opened] at late
    cases late
  | probe looks _ expired state => exact .inl ⟨⟨looks, locked.hasExpired.mp expired⟩, state⟩
  | recover _ ready => exact absurd opened ready
  | count _ closed => simp [closed] at opened
  | trip _ closed => simp [closed] at opened
  | reopen _ halfOpen => simp [halfOpen] at opened

private theorem Locked.rejects (locked : Locked since timeout s) (early : s.now < since + timeout.nanos) :
    (s.breaker.allow s.now).1 = none := by
  have waits : s.breaker.hasExpired s.now = false := by
    rw [← Bool.not_eq_true, locked.hasExpired]
    exact Nat.not_le.mpr early
  simp [Breaker.allow, Breaker.read, locked.state, waits]

end

section
variable {first last : Traffic} {past : List (Passage Traffic Event)}

private theorem now_le_of_mem (ran : History Traffic.step first past last) : ∀ p ∈ past, p.before.now ≤ last.now := by
  induction ran with
  | start => exact fun _ member => by cases member
  | go prior moved ih =>
    intro p member
    rcases List.mem_append.mp member with earlier | now
    · exact Nat.le_trans (ih p earlier) (now_le moved)
    · cases List.mem_singleton.mp now
      exact now_le moved

private theorem locked_along {since : Instant} {timeout : Duration} (locked : Locked since timeout first)
    (ran : History Traffic.step first past last)
    (early : ∀ p ∈ past, ¬ Late (since + timeout.nanos) p.before p.event) : Locked since timeout last := by
  induction ran with
  | start => exact locked
  | go prior moved ih =>
    have before := ih fun p member => early p (List.mem_append_left _ member)
    rcases before.step moved with ⟨late, _⟩ | ⟨_, stays⟩
    · exact absurd late (early _ (List.mem_append_right _ (List.mem_singleton_self _)))
    · exact stays

def expiry (config : BreakerConfig) (since : Instant) : Instant :=
  since + config.normalized.timeout.nanos

/-- A breaker that has opened rejects every call until its timeout is over, whatever calls end and
whoever looks in between. As long as nobody looks after that it stays open, and the first late look,
but no other event, makes it half-open. -/
theorem rejects_until_timeout {config : BreakerConfig} {s : Traffic} {event : Event}
    (reached : Reachable config s) (shut : s.breaker.state ≠ .opened) (opening : s.step event = some first)
    (opened : first.breaker.state = .opened) (ran : History Traffic.step first past last) :
    (last.now < expiry config first.now →
      last.breaker.state = .opened ∧ (last.breaker.allow last.now).1 = none) ∧
    ((∀ p ∈ past, ¬ Late (expiry config first.now) p.before p.event) →
      last.breaker.state = .opened ∧
      ∀ event after, last.step event = some after →
        (Late (expiry config first.now) last event → after.breaker.state = .halfOpen) ∧
        (¬ Late (expiry config first.now) last event → after.breaker.state = .opened)) := by
  have locked := locked_of_opening shut opening opened
  rw [Reachable.config_eq (reached.step event opening)] at locked
  refine ⟨?_, ?_⟩
  · intro early
    have stays := locked_along locked ran fun p member late =>
      Nat.not_le.mpr early (Nat.le_trans late.2 (now_le_of_mem ran p member))
    exact ⟨stays.state, stays.rejects early⟩
  · intro early
    have stays := locked_along locked ran early
    refine ⟨stays.state, ?_⟩
    intro event after stepped
    rcases stays.step stepped with ⟨late, halfOpen⟩ | ⟨early, still⟩
    · exact ⟨fun _ => halfOpen, fun early => absurd late early⟩
    · exact ⟨fun late => absurd late early, fun _ => still.state⟩

end

/-- Three calls are under way, and the threshold is one. -/
def busy : Traffic where
  breaker := { config := ⟨1, ⟨10⟩, 1⟩ }
  now := 5
  outstanding := [⟨none⟩, ⟨none⟩, ⟨none⟩]

def tripped : Traffic where
  breaker :=
    { config := ⟨1, ⟨10⟩, 1⟩, state := .opened, consecutiveFailures := 1, openedAt := some 5,
      failures := 1 }
  now := 5
  outstanding := [⟨none⟩, ⟨none⟩]
  known := [.transition .closed .opened 1]

/-- The others have ended as well, with and without success, and somebody has looked too early. -/
def waiting (now : Instant) : Traffic where
  breaker := { tripped.breaker with successes := 1, failures := 2 }
  now
  known := tripped.known

theorem rejects_until_timeout_busy :
    Reachable ⟨1, ⟨10⟩, 1⟩ busy ∧ busy.step (.complete ⟨none⟩ false none) = some tripped ∧
    Leads Traffic.step tripped (waiting 14) ∧ ((waiting 14).breaker.allow 14).1 = none ∧
    Leads Traffic.step tripped (waiting 15) ∧ (waiting 15).observed.breaker.state = .halfOpen := by
  have reached : Reachable ⟨1, ⟨10⟩, 1⟩ busy := ⟨[.arrive, .arrive, .elapse 5, .arrive], by decide⟩
  have opening : busy.step (.complete ⟨none⟩ false none) = some tripped := by decide
  have early : Leads Traffic.step tripped (waiting 14) :=
    ⟨[.complete ⟨none⟩ true none, .elapse 9, .complete ⟨none⟩ false none, .observe], by decide⟩
  have elapsed : (waiting 14).step (.elapse 1) = some (waiting 15) := by decide
  obtain ⟨past, ran⟩ := early.history
  have rejected := (rejects_until_timeout reached (by decide) opening rfl ran).1 (by decide)
  have unseen : ∀ p ∈ past ++ [⟨waiting 14, .elapse 1, waiting 15⟩],
      ¬ Late (expiry ⟨1, ⟨10⟩, 1⟩ tripped.now) p.before p.event := by
    intro p member seen
    rcases List.mem_append.mp member with before | now
    · exact absurd (Nat.le_trans seen.2 (now_le_of_mem ran p before)) (by decide)
    · cases List.mem_singleton.mp now
      cases seen.1
  obtain ⟨_, next⟩ := (rejects_until_timeout reached (by decide) opening rfl (ran.go elapsed)).2 unseen
  have probing := (next .observe _ rfl).1 ⟨rfl, by decide⟩
  exact ⟨reached, opening, early, rejected.2, early.step _ elapsed, probing⟩

end Courier.Proofs.BreakerLockout
