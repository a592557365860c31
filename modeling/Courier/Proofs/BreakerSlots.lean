import Courier.Proofs.BreakerTraffic

/-! The slots of a half-open breaker are accounted for exactly: the counter is the number of probes of the
current round that are under way. Probes of earlier rounds and calls from closed periods may end at
any moment without touching it. Rounds are told apart by number, so there must be fewer of them than
numbers. -/

namespace Courier.Proofs.BreakerSlots
open Breaker BreakerTraffic

def probe (round : Nat) : Permit := ⟨some round⟩

def startsRound : BreakerEvent → Bool
  | .transition _ .halfOpen _ => true
  | _ => false

def rounds (s : Traffic) : Nat := s.known.countP startsRound

def probes (s : Traffic) : Nat := s.outstanding.count (probe s.breaker.generation)

/-- The slots agree with the permits, of which none is from a round that has not begun. -/
structure Accounted (b : Breaker) (begun : Nat) (outstanding : List Permit) : Prop where
  generation : b.generation = begun
  past : ∀ permit ∈ outstanding, ∀ round, permit.round = some round → round ≤ begun
  slots : b.inFlight = if b.state = .halfOpen then outstanding.count (probe begun) else 0
  bounded : b.inFlight ≤ b.config.halfOpenMax
  room : 0 < b.config.halfOpenMax

private theorem accounted_new (config : BreakerConfig) : Accounted (.new config) 0 [] := by
  refine ⟨rfl, by simp, rfl, Nat.zero_le _, ?_⟩
  simp only [Breaker.new, BreakerConfig.normalized]
  omega

section
variable {b : Breaker} {begun : Nat} {outstanding : List Permit}

private theorem Accounted.count_next (accounted : Accounted b begun outstanding) :
    outstanding.count (probe (begun + 1)) = 0 := by
  apply List.count_eq_zero.mpr
  intro member
  have := accounted.past _ member _ rfl
  omega

private theorem read_preserves (accounted : Accounted b begun outstanding) (now : Instant)
    (few : begun + (b.read now).2.countP startsRound < roundLimit) :
    Accounted (b.read now).1 (begun + (b.read now).2.countP startsRound) outstanding := by
  rcases read_cases b now with same | ⟨_, _, moved⟩
  · simpa [same] using accounted
  · simp only [moved, List.countP_singleton, startsRound, if_true] at few ⊢
    refine ⟨?_, ?_, ?_, Nat.zero_le _, accounted.room⟩
    · show (b.generation + 1) % roundLimit = begun + 1
      rw [accounted.generation]
      exact Nat.mod_eq_of_lt few
    · intro permit member round same
      exact Nat.le_succ_of_le (accounted.past permit member round same)
    · simpa using accounted.count_next.symm

private theorem admit_preserves (accounted : Accounted b begun outstanding)
    (state : b.state = .halfOpen) (free : b.inFlight < b.config.halfOpenMax) :
    Accounted { b with inFlight := b.inFlight + 1 } begun (probe b.generation :: outstanding) := by
  refine ⟨accounted.generation, ?_, ?_, free, accounted.room⟩
  · intro permit member round same
    rcases List.mem_cons.mp member with rfl | member
    · cases same
      exact Nat.le_of_eq accounted.generation
    · exact accounted.past permit member round same
  · have slots := accounted.slots
    rw [if_pos state] at slots
    simp [state, slots, accounted.generation]

private theorem allow_preserves (accounted : Accounted b begun outstanding) (now : Instant)
    (few : begun + (b.allow now).2.2.countP startsRound < roundLimit) :
    Accounted (b.allow now).2.1 (begun + (b.allow now).2.2.countP startsRound)
      ((b.allow now).1.toList ++ outstanding) := by
  have looked := read_preserves accounted now
  have rejects : startsRound .rejection = false := rfl
  rcases allow_cases b now (Prod.eta _).symm with
    ⟨state, same⟩ | ⟨_, same⟩ | ⟨_, _, same⟩ | ⟨state, free, same⟩
  all_goals
    simp only [same, List.countP_append, List.countP_singleton, rejects] at few ⊢
  · obtain ⟨generation, past, slots, bounded, room⟩ := looked few
    refine ⟨generation, ?_, ?_, bounded, room⟩
    · intro permit member round same
      rcases List.mem_cons.mp member with rfl | member
      · cases same
      · exact past permit member round same
    · simpa [state] using slots
  · exact looked few
  · exact looked few
  · exact admit_preserves (looked few) state free

private theorem Accounted.idle (accounted : Accounted b begun outstanding) (state : b.state ≠ .halfOpen) :
    b.inFlight = 0 := by
  simpa [state] using accounted.slots

structure Settled (b : Breaker) (result : Breaker × List BreakerEvent) : Prop where
  config : result.1.config = b.config
  generation : result.1.generation = b.generation
  state : result.1.state ≠ .halfOpen
  slots : result.1.inFlight = 0
  quiet : result.2.countP startsRound = 0

private theorem succeed_settles (accounted : Accounted b begun outstanding) : Settled b b.succeed := by
  rcases succeed_cases b with ⟨state, same⟩ | ⟨_, same⟩ | ⟨state, same⟩
  · have ready : b.state ≠ .halfOpen := by simp [state]
    rw [same]
    exact ⟨rfl, rfl, ready, accounted.idle ready, rfl⟩
  · rw [same]
    exact ⟨rfl, rfl, BreakerState.noConfusion, rfl, rfl⟩
  · have ready : b.state ≠ .halfOpen := by simp [state]
    rw [same]
    exact ⟨rfl, rfl, ready, accounted.idle ready, rfl⟩

private theorem fail_settles (accounted : Accounted b begun outstanding) (now : Instant) :
    Settled b (b.fail now) := by
  rcases fail_cases b now with ⟨state, _, same⟩ | ⟨state, _, same⟩ | ⟨_, same⟩ | ⟨state, same⟩
  · have ready : b.state ≠ .halfOpen := by simp [state]
    rw [same]
    exact ⟨rfl, rfl, ready, accounted.idle ready, rfl⟩
  · have ready : b.state ≠ .halfOpen := by simp [state]
    rw [same]
    exact ⟨rfl, rfl, BreakerState.noConfusion, accounted.idle ready, rfl⟩
  · rw [same]
    exact ⟨rfl, rfl, BreakerState.noConfusion, rfl, rfl⟩
  · have ready : b.state ≠ .halfOpen := by simp [state]
    rw [same]
    exact ⟨rfl, rfl, ready, accounted.idle ready, rfl⟩

private theorem Accounted.settle (accounted : Accounted b begun outstanding)
    {result : Breaker × List BreakerEvent} (settled : Settled b result) (permit : Permit) :
    Accounted result.1 begun (outstanding.erase permit) := by
  refine ⟨settled.generation.trans accounted.generation, ?_, ?_, ?_, ?_⟩
  · intro other member
    exact accounted.past other (List.mem_of_mem_erase member)
  · rw [if_neg settled.state, settled.slots]
  · rw [settled.slots]
    exact Nat.zero_le _
  · rw [settled.config]
    exact accounted.room

private theorem drop_preserves (accounted : Accounted b begun outstanding) {permit : Permit}
    (held : permit ∈ outstanding) : Accounted (b.drop permit) begun (outstanding.erase permit) := by
  have past : ∀ other ∈ outstanding.erase permit, ∀ round, other.round = some round → round ≤ begun :=
    fun other member => accounted.past other (List.mem_of_mem_erase member)
  have slots := accounted.slots
  rcases drop_cases b permit with ⟨state, rfl, same⟩ | ⟨foreign, same⟩
  · have one : 0 < outstanding.count (probe begun) := by
      rw [← accounted.generation]
      exact List.count_pos_iff.mpr held
    rw [if_pos state] at slots
    rw [same]
    refine ⟨accounted.generation, past, ?_, ?_, accounted.room⟩
    · show b.inFlight - 1 = if b.state = .halfOpen then _ else 0
      rw [if_pos state, slots, accounted.generation]
      exact List.count_erase_self.symm
    · exact Nat.le_trans (Nat.sub_le _ _) accounted.bounded
  · rw [same]
    refine ⟨accounted.generation, past, ?_, accounted.bounded, accounted.room⟩
    by_cases state : b.state = .halfOpen
    · have other : probe begun ≠ permit := by
        rintro rfl
        exact foreign ⟨state, by rw [accounted.generation]; rfl⟩
      rw [if_pos state] at slots ⊢
      rw [slots, List.count_erase_of_ne other]
    · rw [if_neg state] at slots ⊢
      exact slots

private theorem complete_preserves (accounted : Accounted b begun outstanding) {permit : Permit}
    (held : permit ∈ outstanding) (ok : Bool) (ended : Option ContextError) (now : Instant) :
    Accounted (b.complete permit ok ended now).1 begun (outstanding.erase permit) ∧
      (b.complete permit ok ended now).2.countP startsRound = 0 := by
  rcases complete_cases b now permit ok ended with ⟨_, same⟩ | ⟨_, _, same⟩ | ⟨_, _, same⟩
  · rw [same]
    have settled := succeed_settles accounted
    exact ⟨accounted.settle settled permit, settled.quiet⟩
  · rw [same]
    have settled := fail_settles accounted now
    exact ⟨accounted.settle settled permit, settled.quiet⟩
  · rw [same]
    exact ⟨drop_preserves accounted held, rfl⟩

end

def SlotsAccounted (s : Traffic) : Prop :=
  rounds s < roundLimit → Accounted s.breaker (rounds s) s.outstanding

theorem rounds_take (s : Traffic) (result : Breaker × List BreakerEvent)
    (outstanding : List Permit) :
    rounds (s.take result outstanding) = rounds s + result.2.countP startsRound :=
  List.countP_append

theorem step_preserves (s : Traffic) (event : Event) (after : Traffic) (valid : SlotsAccounted s)
    (stepped : s.step event = some after) : SlotsAccounted after := by
  intro few
  cases event with
  | arrive =>
    cases stepped
    rw [rounds_take] at few ⊢
    exact allow_preserves (valid (by omega)) s.now few
  | observe =>
    cases stepped
    rw [Traffic.observed, rounds_take] at few ⊢
    exact read_preserves (valid (by omega)) s.now few
  | elapse time =>
    cases stepped
    exact valid few
  | complete permit ok ended =>
    simp only [Traffic.step] at stepped
    split at stepped
    next held =>
      cases stepped
      rw [rounds_take] at few ⊢
      obtain ⟨accounted, quiet⟩ := complete_preserves (valid (by omega)) held ok ended s.now
      rw [quiet]
      exact accounted
    next => cases stepped
  | abandon permit =>
    simp only [Traffic.step] at stepped
    split at stepped
    next held =>
      cases stepped
      rw [rounds_take] at few ⊢
      exact drop_preserves (valid (by omega)) held
    next => cases stepped

theorem reachable_accounted {config : BreakerConfig} {s : Traffic} (reached : Reachable config s) :
    SlotsAccounted s :=
  reached.invariant SlotsAccounted (fun _ => accounted_new config) step_preserves

private theorem allow_eq_none_iff {b : Breaker} (state : b.state = .halfOpen) (now : Instant) :
    (b.allow now).1 = none ↔ b.config.halfOpenMax ≤ b.inFlight := by
  have same : b.read now = (b, []) := by simp [Breaker.read, state]
  simp only [Breaker.allow, same, state]
  split <;> simp_all

private theorem allow_read (b : Breaker) (now : Instant) : ((b.read now).1.allow now).1 = (b.allow now).1 := by
  simp only [Breaker.allow, read_read]
  cases (b.read now).1.state with
  | closed => rfl
  | opened => rfl
  | halfOpen => simp only; split <;> rfl

/-- The counter of a breaker is the number of probes of the current round that are under way, whatever
has become of the other calls, so a caller who meets a half-open breaker is turned away exactly when
as many such probes are under way as there are slots. -/
theorem in_flight_eq_probes {config : BreakerConfig} {s : Traffic} (reached : Reachable config s)
    (few : rounds s < roundLimit) :
    s.breaker.inFlight = (if s.breaker.state = .halfOpen then probes s else 0) ∧
    s.breaker.inFlight ≤ config.normalized.halfOpenMax ∧
    (rounds s.observed < roundLimit → s.observed.breaker.state = .halfOpen →
      ((s.breaker.allow s.now).1 = none ↔ probes s.observed = config.normalized.halfOpenMax)) := by
  have accounted := reachable_accounted reached few
  refine ⟨?_, ?_, ?_⟩
  · rw [accounted.slots, probes, accounted.generation]
  · rw [← reached.config_eq]
    exact accounted.bounded
  · intro few state
    have reached : Reachable config s.observed := reached.step .observe rfl
    have accounted := reachable_accounted reached few
    have slots : s.observed.breaker.inFlight = probes s.observed := by
      rw [accounted.slots, if_pos state, probes, accounted.generation]
    have bounded := accounted.bounded
    rw [reached.config_eq] at bounded
    rw [← allow_read]
    refine (allow_eq_none_iff state s.now).trans ?_
    rw [reached.config_eq]
    omega

/-- Both slots are in use by probes of the first round, and a call from before it is still under way. -/
def crowded : Traffic where
  breaker :=
    { config := ⟨1, ⟨10⟩, 2⟩, state := .halfOpen, consecutiveFailures := 1, openedAt := some 0,
      inFlight := 2, generation := 1, failures := 1 }
  now := 10
  outstanding := [probe 1, probe 1, ⟨none⟩]
  known := [.transition .closed .opened 1, .transition .opened .halfOpen 1]

theorem in_flight_eq_probes_crowded :
    Reachable ⟨1, ⟨10⟩, 2⟩ crowded ∧ rounds crowded < roundLimit ∧
      crowded.breaker.inFlight = probes crowded ∧ (crowded.breaker.allow crowded.now).1 = none := by
  have reached : Reachable ⟨1, ⟨10⟩, 2⟩ crowded :=
    ⟨[.arrive, .arrive, .complete ⟨none⟩ false none, .elapse 10, .arrive, .arrive], by decide⟩
  have few : rounds crowded < roundLimit := by decide
  obtain ⟨slots, _, rejected⟩ := in_flight_eq_probes reached few
  exact ⟨reached, few, slots, (rejected (by decide) rfl).mpr (by decide)⟩

end Courier.Proofs.BreakerSlots
