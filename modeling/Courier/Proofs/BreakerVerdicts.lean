import Courier.Proofs.BreakerSlots

/-! What decides a round of probes. Any call that ends and counts does, whether it is a probe of the round or
was under way before the round began; nothing else does. So a round is left to its own probes exactly
when no older call is under way any more. -/

namespace Courier.Proofs.BreakerVerdicts
open Breaker BreakerTraffic BreakerSlots

section
variable {s after : Traffic} {event : Event}

private theorem decides_iff (half : s.breaker.state = .halfOpen) (stepped : s.step event = some after) :
    after.breaker.state ≠ .halfOpen ↔ event.outcome.isSome := by
  cases step_change stepped with
  | keep silent _ state =>
    have uncounted := silent.resolve_right (by simp [half])
    simp [state, half, uncounted]
  | probe _ opened => simp [half] at opened
  | recover succeeded _ state => simp [state, succeeded]
  | count _ closed => simp [half] at closed
  | trip _ closed => simp [half] at closed
  | reopen failed _ state => simp [state, failed]

private theorem complete_of_outcome (stepped : s.step event = some after) (counted : event.outcome.isSome) :
    ∃ permit ∈ s.outstanding, ∃ ok ended, event = .complete permit ok ended := by
  cases event with
  | complete permit ok ended => exact ⟨permit, (step_complete stepped).1, ok, ended, rfl⟩
  | arrive => cases counted
  | observe => cases counted
  | abandon permit => cases counted
  | elapse time => cases counted

/-- Whether only probes of the current round can decide it. -/
def OwnProbesDecide (s : Traffic) : Prop :=
  ∀ event after, s.step event = some after → after.breaker.state ≠ .halfOpen →
    ∃ ok ended, event = .complete (probe s.breaker.generation) ok ended

private theorem ownProbesDecide_iff (half : s.breaker.state = .halfOpen) :
    OwnProbesDecide s ↔ ∀ permit ∈ s.outstanding, permit = probe s.breaker.generation := by
  constructor
  · intro own permit held
    have stepped : s.step (.complete permit true none) =
        some (s.take (s.breaker.complete permit true none s.now) (s.outstanding.erase permit)) :=
      if_pos held
    obtain ⟨ok, ended, same⟩ := own _ _ stepped ((decides_iff half stepped).mpr rfl)
    cases same
    rfl
  · intro own event after stepped decided
    obtain ⟨permit, held, ok, ended, rfl⟩ :=
      complete_of_outcome stepped ((decides_iff half stepped).mp decided)
    exact ⟨ok, ended, own permit held ▸ rfl⟩

/-- An event either leaves the number of the round and lets nobody in, or looks. -/
theorem step_looks (stepped : s.step event = some after) :
    event.looks = true ∨
    after.breaker.generation = s.breaker.generation ∧
      (∀ permit ∈ after.outstanding, permit ∈ s.outstanding) := by
  cases event with
  | arrive => exact .inl rfl
  | observe => exact .inl rfl
  | elapse time =>
    cases stepped
    exact .inr ⟨rfl, fun _ member => member⟩
  | complete permit ok ended =>
    obtain ⟨_, rfl⟩ := step_complete stepped
    exact .inr ⟨(complete_fixed s.breaker permit ok ended s.now).2, fun _ => List.mem_of_mem_erase⟩
  | abandon permit =>
    obtain ⟨_, rfl⟩ := step_abandon stepped
    exact .inr ⟨(drop_fixed s.breaker permit).2, fun _ => List.mem_of_mem_erase⟩

/-- Who looks sees what `read` gives, and may be let in after that, to a half-open breaker as a probe. -/
theorem look_cases (looks : event.looks = true) (stepped : s.step event = some after) :
    after.breaker.generation = (s.breaker.read s.now).1.generation ∧
    rounds after = rounds s + (s.breaker.read s.now).2.countP startsRound ∧
    ∃ admitted, after.outstanding = admitted ++ s.outstanding ∧
      (after.breaker.state = .halfOpen → ∀ permit ∈ admitted, permit = probe after.breaker.generation) := by
  cases event with
  | observe =>
    cases stepped
    exact ⟨rfl, rounds_take s _ _, [], rfl, fun _ _ member => by cases member⟩
  | arrive =>
    have entered : after = s.take (s.breaker.allow s.now).2
        ((s.breaker.allow s.now).1.toList ++ s.outstanding) := by cases stepped; rfl
    have rejects : startsRound .rejection = false := rfl
    rw [entered, rounds_take]
    simp only [Traffic.take]
    rcases allow_cases s.breaker s.now (Prod.eta _).symm with
      ⟨state, same⟩ | ⟨_, same⟩ | ⟨_, _, same⟩ | ⟨_, _, same⟩
    all_goals
      rw [same]
      refine ⟨rfl, by simp [rejects], _, rfl, ?_⟩
      intro half permit member
    · simp [state] at half
    · cases member
    · cases member
    · exact List.mem_singleton.mp member
  | complete permit ok ended => cases looks
  | abandon permit => cases looks
  | elapse time => cases looks

private theorem generation_eq (half : s.breaker.state = .halfOpen) (stepped : s.step event = some after) :
    after.breaker.generation = s.breaker.generation := by
  rcases step_looks stepped with looks | ⟨same, _⟩
  · rw [(look_cases looks stepped).1]
    rcases read_cases s.breaker s.now with same | ⟨opened, _, _⟩
    · rw [same]
    · simp [half] at opened
  · exact same

private theorem admitted_as_probe (half : after.breaker.state = .halfOpen) (stepped : s.step event = some after)
    {permit : Permit} (held : permit ∈ after.outstanding) :
    permit ∈ s.outstanding ∨ permit = probe after.breaker.generation := by
  rcases step_looks stepped with looks | ⟨_, nobody⟩
  · obtain ⟨_, _, admitted, same, probes⟩ := look_cases looks stepped
    rw [same] at held
    rcases List.mem_append.mp held with entered | before
    · exact .inr (probes half permit entered)
    · exact .inl before
  · exact .inl (nobody permit held)

private theorem rounds_beginning (shut : s.breaker.state ≠ .halfOpen) (stepped : s.step event = some after)
    (half : after.breaker.state = .halfOpen) : rounds s < rounds after := by
  cases step_change stepped with
  | keep _ _ state => exact absurd (state ▸ half) shut
  | probe looks opened expired =>
    rw [(look_cases looks stepped).2.1]
    rcases read_cases s.breaker s.now with same | ⟨_, _, moved⟩
    · simp [Breaker.read, moveTo, opened, expired] at same
    · simp [moved, startsRound]
  | recover _ _ state => simp [state] at half
  | count _ _ _ state => simp [state] at half
  | trip _ _ _ state => simp [state] at half
  | reopen _ _ state => simp [state] at half

private theorem rounds_le (stepped : s.step event = some after) : rounds s ≤ rounds after := by
  cases event with
  | arrive => cases stepped; rw [rounds_take]; exact Nat.le_add_right _ _
  | observe => cases stepped; rw [Traffic.observed, rounds_take]; exact Nat.le_add_right _ _
  | elapse time => cases stepped; exact Nat.le_refl _
  | complete permit ok ended =>
    obtain ⟨_, rfl⟩ := step_complete stepped
    rw [rounds_take]
    exact Nat.le_add_right _ _
  | abandon permit =>
    obtain ⟨_, rfl⟩ := step_abandon stepped
    rw [rounds_take]
    exact Nat.le_add_right _ _

end

/-- A round of probes that began right after `s`, up to some moment in it. -/
inductive Round (s : Traffic) : Traffic → Prop where
  | beginning {event : Event} {first : Traffic} (shut : s.breaker.state ≠ .halfOpen)
      (stepped : s.step event = some first) (half : first.breaker.state = .halfOpen) : Round s first
  | step {event : Event} {middle last : Traffic} (prior : Round s middle)
      (stepped : middle.step event = some last) (half : last.breaker.state = .halfOpen) : Round s last

namespace Round
variable {s last : Traffic}

theorem half (round : Round s last) : last.breaker.state = .halfOpen := by
  cases round with
  | beginning _ _ half => exact half
  | step _ _ half => exact half

theorem leads (round : Round s last) : Leads Traffic.step s last := by
  induction round with
  | beginning _ stepped _ => exact ⟨[_], by simpa using stepped⟩
  | step _ stepped _ ih => exact ih.step _ stepped

theorem members (round : Round s last) {permit : Permit} (held : permit ∈ last.outstanding) :
    permit ∈ s.outstanding ∨ permit = probe last.breaker.generation := by
  induction round with
  | beginning _ stepped half => exact admitted_as_probe half stepped held
  | step prior stepped half ih =>
    rcases admitted_as_probe half stepped held with before | entered
    · rw [generation_eq prior.half stepped]
      exact ih before
    · exact .inr entered

private theorem rounds_lt (round : Round s last) : rounds s < rounds last := by
  induction round with
  | beginning shut stepped half => exact rounds_beginning shut stepped half
  | step _ stepped _ ih => exact Nat.lt_of_lt_of_le ih (rounds_le stepped)

end Round

theorem probe_not_mem {config : BreakerConfig} {s last : Traffic} (reached : Reachable config s)
    (round : Round s last) (few : rounds last < roundLimit) :
    probe last.breaker.generation ∉ s.outstanding := by
  intro held
  have later := round.rounds_lt
  have old := (reachable_accounted reached (Nat.lt_trans later few)).past _ held _ rfl
  rw [(reachable_accounted (reached.trans round.leads) few).generation] at old
  omega

/-- A round is decided by a call that ends and counts, whether it is a probe of the round or was under way
before; only its own probes can decide it exactly when no older call is under way any more. -/
theorem own_probes_decide_iff {config : BreakerConfig} {s last : Traffic} (reached : Reachable config s)
    (round : Round s last) (few : rounds last < roundLimit) :
    (∀ event after, last.step event = some after →
      (after.breaker.state ≠ .halfOpen ↔ event.outcome.isSome)) ∧
    (OwnProbesDecide last ↔ ∀ permit ∈ last.outstanding, permit ∉ s.outstanding) := by
  refine ⟨fun event after stepped => decides_iff round.half stepped, ?_⟩
  rw [ownProbesDecide_iff round.half]
  constructor
  · intro own permit held before
    rw [own permit held] at before
    exact probe_not_mem reached round few before
  · intro newer permit held
    exact (round.members held).resolve_left (newer permit held)

/-- A slow call has come in, another has opened the breaker, and its timeout is over. -/
def rested : Traffic where
  breaker :=
    { config := ⟨1, ⟨50000000⟩, 1⟩, state := .opened, consecutiveFailures := 1, openedAt := some 0,
      failures := 1 }
  now := 50000000
  outstanding := [⟨none⟩]
  known := [.transition .closed .opened 1]

theorem rested_reachable : Reachable ⟨1, ⟨50000000⟩, 1⟩ rested :=
  ⟨[.arrive, .arrive, .complete ⟨none⟩ false none, .elapse 50000000], by decide⟩

private theorem rested_round : Round rested rested.observed :=
  .beginning (by decide) (show rested.step .observe = some rested.observed from rfl) (by decide)

/-- The slow call, admitted before the round began, closes the breaker, and no probe has run. -/
theorem older_call_decides :
    ¬ ∀ (config : BreakerConfig) (s last : Traffic), Reachable config s → Round s last →
      rounds last < roundLimit → OwnProbesDecide last := by
  intro own
  obtain ⟨ok, ended, same⟩ := own _ _ _ rested_reachable rested_round (by decide)
    (.complete ⟨none⟩ true none) _ rfl (by decide)
  cases same

theorem own_probes_decide_iff_rested :
    Reachable ⟨1, ⟨50000000⟩, 1⟩ rested ∧ Round rested rested.observed ∧
      rounds rested.observed < roundLimit ∧ ¬ OwnProbesDecide rested.observed := by
  have decides := own_probes_decide_iff rested_reachable rested_round (by decide)
  refine ⟨rested_reachable, rested_round, by decide, ?_⟩
  intro own
  exact decides.2.mp own ⟨none⟩ (by decide) (by decide)

end Courier.Proofs.BreakerVerdicts
