import Courier.Proofs.BreakerVerdicts

/-! Cancelling is neutral. A call that fails under a context that has ended, or that nobody waits for any more,
leaves a breaker as if it had never been let in: it frees the slot that it took if its round still goes on,
and nothing else changes, whatever has become of the breaker meanwhile. -/

namespace Courier.Proofs.BreakerCancellation
open Breaker BreakerTraffic BreakerSlots BreakerVerdicts

inductive Cancels (permit : Permit) : Event → Prop where
  | fails (why : ContextError) : Cancels permit (.complete permit false (some why))
  | abandons : Cancels permit (.abandon permit)

def slotsWithout (b : Breaker) (permit : Permit) : Nat :=
  if b.state = .halfOpen ∧ permit = probe b.generation then b.inFlight - 1 else b.inFlight

private theorem drop_eq (b : Breaker) (permit : Permit) :
    b.drop permit = { b with inFlight := slotsWithout b permit } := by
  rcases drop_cases b permit with ⟨half, rfl, same⟩ | ⟨foreign, same⟩
  · rw [same, slotsWithout, if_pos ⟨half, rfl⟩]
  · have unused : slotsWithout b permit = b.inFlight := if_neg foreign
    rw [same, unused]

section
variable {config : BreakerConfig} {s : Traffic} {permit : Permit} {event : Event}

theorem step_cancel (cancels : Cancels permit event) (held : permit ∈ s.outstanding) :
    s.step event = some
      { s with breaker := s.breaker.drop permit, outstanding := s.outstanding.erase permit } := by
  cases cancels with
  | fails why => simp [Traffic.step, Traffic.take, Breaker.complete, held]
  | abandons => simp [Traffic.step, Traffic.take, held]

theorem exists_round (reached : Reachable config s) (half : s.breaker.state = .halfOpen) :
    ∃ beginning, Reachable config beginning ∧ Round beginning s := by
  -- The round of a later moment is that of the moment before it, or begins with the event between them.
  let property (s : Traffic) : Prop := Reachable config s ∧
    (s.breaker.state = .halfOpen → ∃ beginning, Reachable config beginning ∧ Round beginning s)
  have initial : property (start config) := ⟨⟨[], rfl⟩, nofun⟩
  refine (reached.invariant property initial ?_).2 half
  intro before event after ⟨led, round⟩ stepped
  refine ⟨led.step event stepped, ?_⟩
  intro half
  by_cases already : before.breaker.state = .halfOpen
  · obtain ⟨beginning, origin, prior⟩ := round already
    exact ⟨beginning, origin, prior.step stepped half⟩
  · exact ⟨before, led, .beginning already stepped half⟩

/-- The probes of a round are the calls that were let in after its beginning, and each has a slot. -/
theorem probe_iff (reached : Reachable config s) {beginning : Traffic} (origin : Reachable config beginning)
    (round : Round beginning s) (few : rounds s < roundLimit) (held : permit ∈ s.outstanding) :
    (permit = probe s.breaker.generation ↔ permit ∉ beginning.outstanding) ∧
    (permit = probe s.breaker.generation → 0 < s.breaker.inFlight) := by
  refine ⟨⟨?_, (round.members held).resolve_left⟩, ?_⟩
  · rintro rfl
    exact probe_not_mem origin round few
  · rintro rfl
    have accounted := reachable_accounted reached few
    rw [accounted.slots, if_pos round.half, ← accounted.generation]
    exact List.count_pos_iff.mpr held

private theorem allow_drop (b : Breaker) (now : Instant) (allowed : (b.allow now).1 = some permit) :
    ((b.allow now).2.1.drop permit, (b.allow now).2.2) = b.read now := by
  rcases allow_cases b now (Prod.eta _).symm with ⟨_, same⟩ | ⟨_, same⟩ | ⟨_, _, same⟩ | ⟨half, _, same⟩
  all_goals
    rw [same] at allowed ⊢
    cases allowed
  · rfl
  · rw [drop_eq, slotsWithout, if_pos ⟨half, rfl⟩]
    rfl

theorem step_arrive (allowed : (s.breaker.allow s.now).1 = some permit) :
    s.step .arrive = some
      { s with breaker := (s.breaker.allow s.now).2.1
               outstanding := permit :: s.outstanding
               known := s.known ++ (s.breaker.allow s.now).2.2 } := by
  simp [Traffic.step, Traffic.take, allowed]

/-- A call that ends without an outcome changes nothing of a breaker and makes nothing known, except that
the slot of a probe is free again while its round goes on; the probes of the round are the calls that
were let in after its beginning. So to be let in and to end like this at once is to look at the breaker. -/
theorem cancelling_is_neutral (reached : Reachable config s) :
    (∀ permit ∈ s.outstanding, ∀ event, Cancels permit event →
      s.step event = some
        { s with breaker := { s.breaker with inFlight := slotsWithout s.breaker permit }
                 outstanding := s.outstanding.erase permit }) ∧
    (rounds s < roundLimit → s.breaker.state = .halfOpen →
      ∃ beginning, Reachable config beginning ∧ Round beginning s ∧ ∀ permit ∈ s.outstanding,
        (permit ∉ beginning.outstanding → slotsWithout s.breaker permit + 1 = s.breaker.inFlight) ∧
        (permit ∈ beginning.outstanding → slotsWithout s.breaker permit = s.breaker.inFlight)) ∧
    (∀ permit, (s.breaker.allow s.now).1 = some permit → ∀ event, Cancels permit event →
      ∃ middle, s.step .arrive = some middle ∧ middle.step event = s.step .observe) := by
  refine ⟨?_, ?_, ?_⟩
  · intro permit held event cancels
    rw [step_cancel cancels held, drop_eq]
  · intro few half
    obtain ⟨beginning, origin, round⟩ := exists_round reached half
    refine ⟨beginning, origin, round, ?_⟩
    intro permit held
    obtain ⟨own, used⟩ := probe_iff reached origin round few held
    refine ⟨?_, ?_⟩
    · intro newer
      have mine := own.mpr newer
      have := used mine
      rw [slotsWithout, if_pos ⟨half, mine⟩]
      omega
    · intro older
      exact if_neg fun foreign => own.mp foreign.2 older
  · intro permit allowed event cancels
    refine ⟨_, step_arrive allowed, ?_⟩
    rw [step_cancel cancels List.mem_cons_self]
    simp [Traffic.step, Traffic.observed, Traffic.take, ← allow_drop s.breaker s.now allowed]

end

/-- A probe of the first round leaves `crowded` with one slot less in use, and the call from before the round
with none less. Who is let into `rested` begins a round. -/
theorem cancelling_is_neutral_crowded :
    Reachable ⟨1, ⟨10⟩, 2⟩ crowded ∧ probe 1 ∈ crowded.outstanding ∧ ⟨none⟩ ∈ crowded.outstanding ∧
      crowded.step (.complete (probe 1) false (some .deadlineExceeded)) = some
        { crowded with breaker := { crowded.breaker with inFlight := 1 }
                       outstanding := [probe 1, ⟨none⟩] } ∧
      crowded.step (.abandon ⟨none⟩) = some { crowded with outstanding := [probe 1, probe 1] } ∧
      ∃ middle, rested.step .arrive = some middle ∧
        middle.step (.abandon (probe 1)) = some rested.observed := by
  have reached : Reachable ⟨1, ⟨10⟩, 2⟩ crowded :=
    ⟨[.arrive, .arrive, .complete ⟨none⟩ false none, .elapse 10, .arrive, .arrive], by decide⟩
  obtain ⟨cancelled, _, _⟩ := cancelling_is_neutral reached
  obtain ⟨_, _, looked⟩ := cancelling_is_neutral rested_reachable
  exact ⟨reached, by decide, by decide, cancelled _ (by decide) _ (.fails _),
    cancelled _ (by decide) _ .abandons, looked (probe 1) rfl _ .abandons⟩

end Courier.Proofs.BreakerCancellation
