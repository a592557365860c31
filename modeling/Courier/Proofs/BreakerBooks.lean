import Courier.Proofs.BreakerCalls

/-! The books of a breaker balance. Every call that has begun is on its way in, was rejected, or has run its
function; every function that was run has succeeded, has failed, counts as nothing, or still runs; and what
was recorded of the breaker's transitions is a walk along the edges of its diagram. -/

namespace Courier.Proofs.BreakerBooks
open Breaker BreakerCalls
open BreakerTraffic (read_cases succeed_cases fail_cases drop_cases)

variable {ε α : Type}

/-! ### Transitions -/

/-- The diagram of a breaker. -/
inductive Edge : BreakerState → BreakerState → Prop where
  | trip : Edge .closed .opened
  | probe : Edge .opened .halfOpen
  | recover : Edge .halfOpen .closed
  | reopen : Edge .halfOpen .opened

/-- All that a breaker does while its lock is held once, and what becomes known of it: it stays in its state,
or goes along one edge. Only the edge to the half-open state begins a round. -/
inductive Shift (b after : Breaker) : List BreakerEvent → Prop where
  | stay (state : after.state = b.state) (generation : after.generation = b.generation) : Shift b after []
  | move {source target : BreakerState} {failures : Nat} (edge : Edge source target)
      (before : b.state = source) (now : after.state = target)
      (generation : after.generation =
        if target = .halfOpen then (b.generation + 1) % roundLimit else b.generation) :
      Shift b after [.transition source target failures]

section
variable (b : Breaker) (now : Instant)

private theorem read_shift : Shift b (b.read now).1 (b.read now).2 := by
  rcases read_cases b now with same | ⟨opened, _, moved⟩
  · rw [same]
    exact .stay rfl rfl
  · rw [moved]
    exact .move .probe opened rfl rfl

private theorem allow_shift : Shift b (b.allow now).2.1 (b.read now).2 := by
  rw [allow_eq]
  rcases read_cases b now with same | ⟨opened, _, moved⟩
  · rw [same]
    exact .stay rfl rfl
  · rw [moved]
    exact .move .probe opened rfl rfl

private theorem succeed_shift : Shift b b.succeed.1 b.succeed.2 := by
  rcases succeed_cases b with ⟨_, same⟩ | ⟨half, same⟩ | ⟨_, same⟩ <;> rw [same]
  · exact .stay rfl rfl
  · exact .move .recover half rfl rfl
  · exact .stay rfl rfl

private theorem fail_shift : Shift b (b.fail now).1 (b.fail now).2 := by
  rcases fail_cases b now with ⟨_, _, same⟩ | ⟨closed, _, same⟩ | ⟨half, same⟩ | ⟨_, same⟩ <;> rw [same]
  · exact .stay rfl rfl
  · exact .move .trip closed rfl rfl
  · exact .move .reopen half rfl rfl
  · exact .stay rfl rfl

private theorem drop_shift (permit : Permit) : Shift b (b.drop permit) [] := by
  rcases drop_cases b permit with ⟨_, _, same⟩ | ⟨_, same⟩
  all_goals
    rw [same]
    exact .stay rfl rfl

end

def movesTo (target : BreakerState) : BreakerEvent → Bool
  | .transition _ other _ => other = target
  | .rejection => false

def moves (known : List BreakerEvent) (target : BreakerState) : Nat := known.countP (movesTo target)

private theorem moves_append (known more : List BreakerEvent) (target : BreakerState) :
    moves (known ++ more) target = moves known target + moves more target :=
  List.countP_append

structure Walked (b : Breaker) (known : List BreakerEvent) : Prop where
  opens : moves known .opened = moves known .halfOpen + (if b.state = .opened then 1 else 0)
  closes : moves known .closed + (if b.state = .halfOpen then 1 else 0) ≤ moves known .halfOpen
  rounds : b.generation = moves known .halfOpen % roundLimit

section
variable {b after : Breaker} {known events : List BreakerEvent}

private theorem walked_new (config : BreakerConfig) : Walked (.new config) [] := ⟨rfl, Nat.zero_le _, rfl⟩

private theorem Walked.shift (walked : Walked b known) (shift : Shift b after events) :
    Walked after (known ++ events) := by
  obtain ⟨opens, closes, rounds⟩ := walked
  cases shift with
  | stay state generation =>
    rw [List.append_nil]
    exact ⟨state ▸ opens, state ▸ closes, generation.trans rounds⟩
  | move edge before now generation =>
    rw [before] at opens closes
    -- On every edge but the one to the half-open state only the counts of the two states change.
    cases edge with
    | probe =>
      refine ⟨?_, ?_, ?_⟩ <;> simp only [now, moves_append]
      · simpa [moves, movesTo] using opens
      · simpa [moves, movesTo] using closes
      · rw [generation, rounds, if_pos rfl, Nat.mod_add_mod]
        rfl
    | trip | recover | reopen =>
      refine ⟨?_, ?_, ?_⟩ <;> simp only [now, moves_append]
      · simpa [moves, movesTo] using opens
      · simp [moves, movesTo] at closes ⊢
        omega
      · rw [generation, rounds, if_neg nofun]
        rfl

end

/-! ### Calls -/

def entering : Plain ε α → Bool
  | .arriving | .refused | .admitted _ => true
  | _ => false

def turnedAway : Plain ε α → Bool
  | .rejected => true
  | _ => false

def invoked : Plain ε α → Bool
  | .running _ | .returned _ _ _ | .finished _ _ | .dropped => true
  | _ => false

def underWay : Plain ε α → Bool
  | .running _ | .returned _ _ _ => true
  | _ => false

/-- A failure under a context that has ended counts as nothing. -/
def counted (ok : Bool) : Plain ε α → Bool
  | .finished (.ok _) _ => ok
  | .finished (.error _) none => !ok
  | _ => false

def uncounted : Plain ε α → Bool
  | .finished (.error _) (some _) | .dropped => true
  | _ => false

private theorem countP_cons_add {α : Type} (p : α → Bool) (first : α) (rest : List α) :
    (first :: rest).countP p = rest.countP p + (p first).toNat := by
  rw [List.countP_cons]
  cases p first <;> rfl

theorem length_eq (s : System ε α) :
    s.calls.length = s.count turnedAway + s.count invoked + s.count entering := by
  have one (stage : Plain ε α) :
      (turnedAway stage).toNat + (invoked stage).toNat + (entering stage).toNat = 1 := by
    cases stage <;> rfl
  simp only [System.count]
  induction s.calls with
  | nil => rfl
  | cons call calls ih =>
    have := one call.stage
    simp only [List.length_cons, countP_cons_add]
    omega

private theorem invoked_eq (s : System ε α) :
    s.count invoked =
      s.count (counted true) + s.count (counted false) + s.count uncounted + s.count underWay := by
  have split (stage : Plain ε α) : (invoked stage).toNat = (counted true stage).toNat +
      (counted false stage).toNat + (uncounted stage).toNat + (underWay stage).toNat := by
    cases stage with
    | finished result ended => cases result <;> cases ended <;> rfl
    | _ => rfl
  simp only [System.count]
  induction s.calls with
  | nil => rfl
  | cons call calls ih =>
    have := split call.stage
    simp only [countP_cons_add]
    omega

section
variable (b : Breaker) (now : Instant)

private theorem read_tally :
    (b.read now).1.successes = b.successes ∧ (b.read now).1.failures = b.failures := by
  rcases read_cases b now with same | ⟨_, _, moved⟩
  · rw [same]
    exact ⟨rfl, rfl⟩
  · rw [moved]
    exact ⟨rfl, rfl⟩

private theorem allow_tally :
    (b.allow now).2.1.successes = b.successes ∧ (b.allow now).2.1.failures = b.failures := by
  rw [allow_eq]
  exact read_tally b now

private theorem succeed_tally :
    b.succeed.1.successes = b.successes + 1 ∧ b.succeed.1.failures = b.failures := by
  rcases succeed_cases b with ⟨_, same⟩ | ⟨_, same⟩ | ⟨_, same⟩
  all_goals
    rw [same]
    exact ⟨rfl, rfl⟩

private theorem fail_tally :
    (b.fail now).1.successes = b.successes ∧ (b.fail now).1.failures = b.failures + 1 := by
  rcases fail_cases b now with ⟨_, _, same⟩ | ⟨_, _, same⟩ | ⟨_, same⟩ | ⟨_, same⟩
  all_goals
    rw [same]
    exact ⟨rfl, rfl⟩

private theorem drop_tally (permit : Permit) :
    (b.drop permit).successes = b.successes ∧ (b.drop permit).failures = b.failures := by
  rcases drop_cases b permit with ⟨_, _, same⟩ | ⟨_, same⟩
  all_goals
    rw [same]
    exact ⟨rfl, rfl⟩

end

/-- The accounts that calls keep with a breaker, and what becomes known of it, agree. -/
structure Balanced (s : System ε α) : Prop where
  walked : Walked s.breaker s.known
  rejections : s.known.count .rejection = s.count turnedAway
  successes : s.breaker.successes = s.count (counted true)
  failures : s.breaker.failures = s.count (counted false)

structure Posted (b : Breaker) (stage : Plain ε α) (turn : Turn (Plain ε α)) : Prop where
  walked : ∀ known, Walked b known → Walked turn.breaker (known ++ turn.known)
  rejections : turn.known.count .rejection + (turnedAway stage).toNat = (turnedAway turn.stage).toNat
  successes : turn.breaker.successes + (counted true stage).toNat =
    b.successes + (counted true turn.stage).toNat
  failures : turn.breaker.failures + (counted false stage).toNat =
    b.failures + (counted false turn.stage).toNat

section
variable {b after : Breaker} {now : Instant} {stage : Plain ε α} {turn : Turn (Plain ε α)}

private theorem Shift.rejections {events : List BreakerEvent} (shift : Shift b after events) :
    events.count .rejection = 0 := by
  cases shift with
  | stay => rfl
  | move => rfl

private theorem Walked.reject {known : List BreakerEvent} (walked : Walked b known) :
    Walked b (known ++ [.rejection]) := by
  obtain ⟨opens, closes, rounds⟩ := walked
  refine ⟨?_, ?_, ?_⟩ <;> simpa [moves_append, moves, movesTo]

private theorem Shift.posted {known : List BreakerEvent} {next : Plain ε α} (shift : Shift b after known)
    (rejections : turnedAway stage = turnedAway next)
    (successes : after.successes + (counted true stage).toNat = b.successes + (counted true next).toNat)
    (failures : after.failures + (counted false stage).toNat = b.failures + (counted false next).toNat) :
    Posted b stage ⟨after, next, known⟩ := by
  refine ⟨fun _ walked => walked.shift shift, ?_, successes, failures⟩
  simp only [shift.rejections, rejections, Nat.zero_add]

private theorem goes_posted (goes : Goes b now stage turn) : Posted b stage turn := by
  have stay : Shift b b [] := .stay rfl rfl
  cases goes with
  | letIn | turnAway =>
    obtain ⟨successes, failures⟩ := allow_tally b now
    exact (allow_shift b now).posted rfl (by rw [successes]; rfl) (by rw [failures]; rfl)
  | report => exact ⟨fun _ walked => walked.reject, rfl, rfl, rfl⟩
  | aside => exact stay.posted rfl rfl rfl
  | invoke | «return» => exact stay.posted rfl rfl rfl
  | @drop permit | @excuse permit =>
    obtain ⟨successes, failures⟩ := drop_tally b permit
    exact (drop_shift b permit).posted rfl (by rw [successes]; rfl) (by rw [failures]; rfl)
  | succeed =>
    obtain ⟨successes, failures⟩ := succeed_tally b
    exact (succeed_shift b).posted rfl (by rw [successes]; rfl) (by rw [failures]; rfl)
  | fail =>
    obtain ⟨successes, failures⟩ := fail_tally b now
    exact (fail_shift b now).posted rfl (by rw [successes]; rfl) (by rw [failures]; rfl)

end

section
variable {s after : System ε α} {event : Event ε α}

private theorem record_count {n : Nat} {call : Call ε α} (found : s.calls[n]? = some call) (turn : Turn (Call ε α))
    (p : Plain ε α → Bool) :
    (s.record n turn).count p + (p call.stage).toNat = s.count p + (p turn.stage.stage).toNat :=
  countP_set_add found turn.stage (p ·.stage)

private theorem begin_count (s : System ε α) (function : Except ε α) (fallback : Option (Except ε α))
    {p : Plain ε α → Bool} (out : p .arriving = false) :
    System.count { s with calls := s.calls ++ [.first function fallback] } p = s.count p := by
  have first : (Call.first function fallback).stage = .arriving := by
    cases fallback <;> rfl
  simp [System.count, first, out]

theorem step_preserves (balanced : Balanced s) (stepped : s.step event = some after) : Balanced after := by
  rcases System.step_cases stepped with
    ⟨function, fallback, rfl⟩ | ⟨n, call, turn, found, goes, rfl⟩ | rfl | ⟨_, rfl⟩
  · obtain ⟨walked, rejections, successes, failures⟩ := balanced
    refine ⟨walked, ?_, ?_, ?_⟩ <;> rwa [begin_count s function fallback rfl]
  · have posted := goes_posted goes
    refine ⟨posted.walked _ balanced.walked, ?_, ?_, ?_⟩
    · have counts := record_count found turn turnedAway
      have := posted.rejections
      have := balanced.rejections
      simp only [System.record, Turn.map, List.count_append] at *
      omega
    · have counts := record_count found turn (counted true)
      have := posted.successes
      have := balanced.successes
      simp only [System.record, Turn.map] at *
      omega
    · have counts := record_count found turn (counted false)
      have := posted.failures
      have := balanced.failures
      simp only [System.record, Turn.map] at *
      omega
  · obtain ⟨successes, failures⟩ := read_tally s.breaker s.now
    refine ⟨balanced.walked.shift (read_shift s.breaker s.now), ?_, ?_, ?_⟩
    · simpa only [List.count_append, (read_shift s.breaker s.now).rejections] using! balanced.rejections
    · exact successes.trans balanced.successes
    · exact failures.trans balanced.failures
  · exact ⟨balanced.walked, balanced.rejections, balanced.successes, balanced.failures⟩

theorem reachable_balanced {config : BreakerConfig} (reached : Reachable config s) : Balanced s :=
  reached.invariant Balanced ⟨walked_new config, rfl, rfl, rfl⟩ fun _ _ _ => step_preserves

end

/-! ### Metrics -/

section
variable (s : System ε α) (name : String)

def metrics : Counts := s.known.map (·.metric name)

def rejections : Nat := (metrics s name).value (.rejection name)

def transitions (target : BreakerState) : Nat := (metrics s name).value (.transition name target.name)

private theorem rejections_eq : rejections s name = s.known.count .rejection := by
  rw [rejections, Counts.value, metrics, List.count, List.count, List.countP_map]
  congr 1
  funext event
  cases event with
  | rejection => simp [BreakerEvent.metric]
  | transition => rfl

private theorem transitions_eq (target : BreakerState) :
    transitions s name target = moves s.known target := by
  rw [transitions, Counts.value, metrics, List.count, moves, List.countP_map]
  congr 1
  funext event
  cases event with
  | rejection => simp [BreakerEvent.metric, movesTo]
  | transition source other failures =>
    cases other <;> cases target <;> simp [BreakerEvent.metric, movesTo, BreakerState.name]

end

/-- At every moment, however the calls through a breaker interleave: of the calls that have begun, each has
been recorded as rejected, has run its function, or is still on its way to one of the two, and between two
waits nobody is; of the functions that were run, each has been counted as a success or as a failure, has
failed under a context that had ended or was dropped, or is under way; and the breaker has been recorded
to open as often as to become half-open, once more if it is open, and to close no more often than that. It
has become half-open as often as the number of its round says, which is kept in a machine word. -/
theorem books_balance {config : BreakerConfig} {s : System ε α} (reached : Reachable config s) (name : String) :
    s.calls.length = rejections s name + s.count invoked + s.count entering ∧
    (s.count entering = 0 → s.calls.length = rejections s name + s.count invoked) ∧
    s.count invoked =
      s.breaker.successes + s.breaker.failures + s.count uncounted + s.count underWay ∧
    transitions s name .opened =
      transitions s name .halfOpen + (if s.breaker.state = .opened then 1 else 0) ∧
    transitions s name .closed ≤ transitions s name .halfOpen ∧
    s.breaker.generation = transitions s name .halfOpen % roundLimit ∧
    (transitions s name .halfOpen < roundLimit →
      transitions s name .halfOpen = s.breaker.generation) := by
  obtain ⟨⟨opens, closes, rounds⟩, turned, successes, failures⟩ := reachable_balanced reached
  have begun := length_eq s
  have run := invoked_eq s
  rw [← turned, ← rejections_eq s name] at begun
  rw [← successes, ← failures] at run
  simp only [← transitions_eq s name] at opens closes rounds
  refine ⟨begun, ?_, run, opens, ?_, rounds, ?_⟩
  · intro nobody
    rw [begun, nobody, Nat.add_zero]
  · exact Nat.le_trans (Nat.le_add_right _ _) closes
  · intro few
    rw [rounds, Nat.mod_eq_of_lt few]

/-- The first call has opened the breaker, the second was rejected, and the third has closed it again. Of those
that were let in together then, one has failed under a cancelled context, one was dropped, one still runs,
and one has opened the breaker once more. Of the last two, which were turned away, one runs its fallback
and the other is not recorded yet. -/
def mixed : System Unit Unit where
  breaker :=
    { config := ⟨1, ⟨10⟩, 2⟩, state := .opened, consecutiveFailures := 1, openedAt := some 10,
      generation := 1, successes := 1, failures := 2 }
  now := 10
  calls :=
    [.plain (.error ()) (.finished (.error ()) none), .plain (.ok ()) .rejected,
      .backed (.ok ()) (.ok ()) (.finished (.ok ()) none),
      .plain (.error ()) (.finished (.error ()) (some .cancelled)), .plain (.ok ()) .dropped,
      .plain (.ok ()) (.running ⟨none⟩), .plain (.error ()) (.finished (.error ()) none),
      .backed (.ok ()) (.ok ()) .fallingBack, .plain (.ok ()) .refused]
  known :=
    [.transition .closed .opened 1, .rejection, .transition .opened .halfOpen 1,
      .transition .halfOpen .closed 0, .transition .closed .opened 1, .rejection]

theorem books_balance_mixed :
    Reachable ⟨1, ⟨10⟩, 2⟩ mixed ∧ mixed.count entering = 1 ∧
      mixed.calls.length = rejections mixed "infer" + mixed.count invoked + 1 ∧
      mixed.count invoked = 1 + 2 + mixed.count uncounted + mixed.count underWay ∧
      transitions mixed "infer" .opened = transitions mixed "infer" .halfOpen + 1 ∧
      transitions mixed "infer" .halfOpen = 1 := by
  have reached : Reachable ⟨1, ⟨10⟩, 2⟩ mixed :=
    ⟨[.begin (.error ()) none, .act 0 .proceed, .act 0 .proceed, .act 0 (.answer none), .act 0 .proceed,
      .begin (.ok ()) none, .act 1 .proceed, .elapse 10, .act 1 .proceed,
      .begin (.ok ()) (some (.ok ())), .act 2 .proceed, .act 2 .proceed, .act 2 (.answer none), .act 2 .proceed,
      .begin (.error ()) none, .begin (.ok ()) none, .begin (.ok ()) none, .begin (.error ()) none,
      .act 3 .proceed, .act 4 .proceed, .act 5 .proceed, .act 6 .proceed,
      .act 3 .proceed, .act 4 .proceed, .act 5 .proceed, .act 6 .proceed,
      .act 3 (.answer (some .cancelled)), .act 3 .proceed, .act 4 .drop,
      .act 6 (.answer none), .act 6 .proceed,
      .begin (.ok ()) (some (.ok ())), .begin (.ok ()) none, .act 7 .proceed, .act 8 .proceed, .act 7 .proceed],
      rfl⟩
  obtain ⟨begun, _, run, opens, _⟩ := books_balance reached "infer"
  have once : transitions mixed "infer" .halfOpen = 1 := by rw [transitions_eq]; rfl
  exact ⟨reached, rfl, begun, run, opens, once⟩

end Courier.Proofs.BreakerBooks
