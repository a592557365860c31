import Courier.Proofs.ReconnectingPacing

/-! The waits of a receive between its dials. After a dial that failed, the next one waits for the first
wait at least, whatever happens to the slot meanwhile. After a dial that brought a connection nothing has
to be waited for: when the connection breaks at once, the receive dials at the same instant again. -/

namespace Courier.Proofs.ReconnectingBackoff
open Reconnecting ReconnectingSections ReconnectingPacing

/-- One receive on the clock: since when it stands where it stands, when it has dialed, and what came of
the dials, the latest last. -/
structure Course where
  now : Instant := 0
  since : Instant := 0
  stage : Stage := .entering .receive
  dials : List Instant := []
  outcomes : List (Except TransportError Connection) := []

inductive Event where
  | pass (time : Duration)
  | go (m : Move)

namespace Course

def turn (c : Course) (m : Move) (t : Turn) : Course where
  now := c.now
  since := c.now
  stage := t.stage
  dials := c.dials ++ if .dial ∈ requests t.stage then [c.now] else []
  outcomes := c.outcomes ++ (outcome m).toList

/-- A rest takes its time, unless it is cut short. -/
def isDue (c : Course) (m : Move) : Bool :=
  match c.stage, m with
  | .standing (.ask _ (.resting _ wait _)), .answer _ .rested => c.since + wait.nanos ≤ c.now
  | _, _ => true

def step (config : Reconnect) (c : Course) : Event → Option Course
  | .pass time => some { c with now := c.now + time.nanos }
  | .go m => if c.isDue m then (moved config c.stage m).map (c.turn m) else none

end Course

/-! ### Instants with gaps -/

/-- Where a dial failed, the next one comes a gap later at the earliest. -/
def Spaced (gap : Nat) (dials : List Instant) (outcomes : List (Except TransportError Connection)) : Prop :=
  ∀ (i : Nat) (t later : Instant) (why : TransportError), dials[i]? = some t → dials[i + 1]? = some later →
    outcomes[i]? = some (.error why) → t + gap ≤ later

section
variable {gap : Nat} {dials : List Instant} {outcomes : List (Except TransportError Connection)}
  {u v : Instant}

private theorem Spaced.init (spaced : Spaced gap (dials ++ [u]) outcomes) : Spaced gap dials outcomes := by
  intro i t later why first next failed
  exact spaced i t later why (found_before first u) (found_before next u) failed

/-- If nothing speaks against an instant for the next dial, nothing speaks against a later one. -/
theorem Spaced.mono (spaced : Spaced gap (dials ++ [u]) outcomes) (le : u ≤ v) :
    Spaced gap (dials ++ [v]) outcomes := by
  intro i t later why first next failed
  rcases found_append next with inside | ⟨last, rfl⟩
  · have before : i < dials.length := by
      have := (List.getElem?_eq_some_iff.mp inside).1
      omega
    rw [List.getElem?_append_left before] at first
    exact spaced.init i t later why first inside failed
  · have before : i < dials.length := by omega
    rw [List.getElem?_append_left before] at first
    have gapped := spaced i t u why ((List.getElem?_append_left before).trans first)
      (by rw [last, List.getElem?_concat_length]) failed
    exact Nat.le_trans gapped le

/-- What came of the last dial decides when the next may come. -/
theorem Spaced.answered (spaced : Spaced gap dials outcomes) (one : dials.length = outcomes.length + 1)
    (result : Except TransportError Connection)
    (late : ∀ why, result = .error why → ∀ t ∈ dials, t + gap ≤ u) :
    Spaced gap (dials ++ [u]) (outcomes ++ [result]) := by
  intro i t later why first next failed
  rcases found_append next with inside | ⟨last, rfl⟩
  · have before := (List.getElem?_eq_some_iff.mp inside).1
    rw [List.getElem?_append_left (by omega)] at first failed
    exact spaced i t later why first inside failed
  · have before : i < dials.length := by omega
    obtain rfl : i = outcomes.length := by omega
    rw [List.getElem?_append_left before] at first
    rw [List.getElem?_concat_length] at failed
    exact late why (Option.some.inj failed) t (List.mem_of_getElem? first)

end

/-! ### The waits along a course -/

/-- All dials have come to an end, and nothing speaks against another one at this instant. -/
def Ready (gap : Nat) (c : Course) (instant : Instant) : Prop :=
  c.dials.length = c.outcomes.length ∧ Spaced gap (c.dials ++ [instant]) c.outcomes

def Stands (gap : Nat) (c : Course) : Stage → Prop
  | .standing (.finish _) => Spaced gap c.dials c.outcomes
  | .standing (.ask _ (.dialing _ _)) =>
    c.dials.length = c.outcomes.length + 1 ∧ Spaced gap c.dials c.outcomes
  | .standing (.ask _ (.resting _ wait _)) => Ready gap c (c.since + wait.nanos)
  | _ => Ready gap c c.now

structure Valid (config : Reconnect) (c : Course) : Prop where
  past : ∀ t ∈ c.dials, t ≤ c.now
  waits : ∀ wait ∈ waitOf c.stage, config.firstWait ≤ wait
  stands : Stands config.firstWait.nanos c c.stage

section
variable {config : Reconnect} {gap : Nat} {c after : Course} {stage : Stage} {m : Move} {t : Turn}

theorem Stands.spaced (stands : Stands gap c stage) : Spaced gap c.dials c.outcomes := by
  cases stage with
  | standing next =>
    cases next with
    | finish reply => exact stands
    | ask request phase =>
      cases phase with
      | dialing s wait => exact stands.2
      | _ => exact stands.2.init
  | _ => exact stands.2.init

private theorem stands_iff_ready (free : Free stage) : Stands gap c stage ↔ Ready gap c c.now := by
  cases stage with
  | standing next =>
    cases next with
    | finish reply => exact free.elim
    | ask request phase =>
      cases phase with
      | dialing s wait => exact free.elim
      | resting s wait last => exact free.elim
      | _ => exact .rfl
  | _ => exact .rfl

theorem Stands.pass (stands : Stands gap c stage) (time : Duration) :
    Stands gap { c with now := c.now + time.nanos } stage := by
  have later (ready : Ready gap c c.now) : Ready gap { c with now := c.now + time.nanos }
      (c.now + time.nanos) := ⟨ready.1, ready.2.mono (Nat.le_add_right _ _)⟩
  cases stage with
  | standing next =>
    cases next with
    | finish reply => exact stands
    | ask request phase =>
      cases phase with
      | dialing s wait => exact stands
      | resting s wait last => exact stands
      | _ => exact later stands
  | _ => exact later stands

private theorem turn_silent (c : Course) (m : Move) (silent : .dial ∉ requests t.stage) :
    c.turn m t =
      { now := c.now
        since := c.now
        stage := t.stage
        dials := c.dials
        outcomes := c.outcomes ++ (outcome m).toList } := by
  simp only [Course.turn, if_neg silent, List.append_nil]

private theorem turn_free (past : ∀ t ∈ c.dials, t ≤ c.now) (ready : Ready config.firstWait.nanos c c.now)
    (unheard : outcome m = none) (silent : .dial ∉ requests t.stage) (free : Free t.stage)
    (waits : ∀ wait ∈ waitOf t.stage, config.firstWait ≤ wait) : Valid config (c.turn m t) := by
  rw [turn_silent c m silent, unheard, Option.toList_none, List.append_nil]
  exact ⟨past, waits, (stands_iff_ready free).mpr ready⟩

private theorem first_le_nextWait {wait : Duration} (ordered : config.firstWait ≤ config.longestWait)
    (long : config.firstWait ≤ wait) : config.firstWait ≤ config.nextWait wait := by
  change config.firstWait ≤ if wait.doubled ≤ config.longestWait then wait.doubled else config.longestWait
  split
  · exact Nat.le_trans long (Nat.le_mul_of_pos_right wait.nanos Nat.two_pos)
  · exact ordered

private theorem dialed_ready (valid : Valid config c) {request : Request} {s : Search} {wait : Duration}
    (result : Except TransportError Connection) (stage : c.stage = .standing (.ask request (.dialing s wait)))
    {u : Instant} (late : ∀ why, result = .error why → c.now + config.firstWait.nanos ≤ u) :
    (c.dials.length = (c.outcomes ++ [result]).length) ∧
      Spaced config.firstWait.nanos (c.dials ++ [u]) (c.outcomes ++ [result]) := by
  obtain ⟨past, _, stands⟩ := valid
  rw [stage] at stands
  obtain ⟨one, spaced⟩ := stands
  refine ⟨by simpa using one, spaced.answered one result ?_⟩
  intro why failed t member
  exact Nat.le_trans (Nat.add_le_add_right (past t member) _) (late why failed)

private theorem turn_valid (ordered : config.firstWait ≤ config.longestWait) (valid : Valid config c)
    (due : c.isDue m = true) (turned : moved config c.stage m = some t) : Valid config (c.turn m t) := by
  obtain ⟨past, waits, stands⟩ := id valid
  have ready (free : Free c.stage) : Ready config.firstWait.nanos c c.now := (stands_iff_ready free).mp stands
  have paced := moved_paced turned
  generalize place : c.stage = before at paced waits stands ready
  obtain ⟨slot, reports, stage⟩ := t
  dsimp only at paced
  cases paced with
  | begins s free waitless silent =>
    refine turn_free past (ready free) silent nofun trivial ?_
    rintro _ ⟨⟩
    exact Nat.le_refl _
  | looks m s wait last silent => exact turn_free past (ready trivial) silent nofun trivial waits
  | dials m s wait last silent =>
    have ready := ready trivial
    refine ⟨?_, waits, ?_, ?_⟩
    · intro t member
      rcases List.mem_append.mp member with before | now
      · exact past t before
      · exact Nat.le_of_eq (List.mem_singleton.mp now)
    · simp [Course.turn, requests, silent, ready.1]
    · simpa [Course.turn, requests, silent] using ready.2
  | fails slot request s wait why =>
    have long : config.firstWait ≤ wait := waits wait rfl
    rw [turn_silent c _ (by simp [requests])]
    exact ⟨past, waits, dialed_ready valid (.error why) place fun _ _ => Nat.add_le_add_left long _⟩
  | arrives slot request s wait connection =>
    rw [turn_silent c _ (by simp [requests])]
    exact ⟨past, nofun, dialed_ready valid (.ok connection) place nofun⟩
  | rests slot request s wait last =>
    have elapsed : c.since + wait.nanos ≤ c.now := by
      simpa [Course.isDue, place] using due
    refine turn_free past ⟨stands.1, stands.2.mono elapsed⟩ rfl nofun trivial ?_
    rintro _ ⟨⟩
    exact first_le_nextWait ordered (waits wait rfl)
  | stops reply silent =>
    rw [turn_silent c _ (by simp [requests]), silent, Option.toList_none, List.append_nil]
    exact ⟨past, nofun, stands.spaced⟩
  | leaves free outside silent =>
    refine turn_free past (ready free) silent outside.silent outside.free ?_
    intro wait some
    cases outside.waitless.symm.trans some

theorem step_valid (ordered : config.firstWait ≤ config.longestWait) (valid : Valid config c)
    {event : Event} (stepped : c.step config event = some after) : Valid config after := by
  cases event with
  | pass time =>
    cases stepped
    exact ⟨fun t member => Nat.le_add_right_of_le (valid.past t member), valid.waits,
      valid.stands.pass time⟩
  | go m =>
    obtain ⟨due, stepped⟩ := Option.ite_none_right_eq_some.mp stepped
    obtain ⟨t, turned, rfl⟩ := Option.map_eq_some_iff.mp stepped
    exact turn_valid ordered valid due turned

private theorem valid_initial (config : Reconnect) : Valid config {} :=
  ⟨nofun, nofun, rfl, nofun⟩

end

abbrev Reachable (config : Reconnect) (c : Course) : Prop := Leads (Course.step config) {} c

/-- Whatever others do to the slot, and whenever the context ends: between a dial that failed and the next
dial of the same receive, the clock advances by the first wait at least, unless it is longer than the
longest. -/
theorem waits_after_failed_dial {config : Reconnect}
    (ordered : config.normalized.firstWait ≤ config.normalized.longestWait) {c : Course}
    (reached : Reachable config.normalized c) {i : Nat} {t later : Instant} {why : TransportError}
    (dialed : c.dials[i]? = some t) (next : c.dials[i + 1]? = some later)
    (failed : c.outcomes[i]? = some (.error why)) :
    t + config.normalized.firstWait.nanos ≤ later := by
  have valid := reached.invariant (Valid config.normalized) (valid_initial _)
    fun _ _ _ valid stepped => step_valid ordered valid stepped
  exact valid.stands.spaced i t later why dialed next failed

/-- A dial fails, and the next one comes after a tenth of a second. -/
def refused : Course where
  now := 100000000
  since := 100000000
  stage := .standing (.ask .dial (.dialing { goal := .receive } (.ofMillis 200)))
  dials := [0, 100000000]
  outcomes := [.error (.closed "peer")]

theorem waits_after_failed_dial_refused :
    Reachable (Reconnect.normalized {}) refused ∧
      0 + (Reconnect.normalized {}).firstWait.nanos ≤ 100000000 := by
  have reached : Reachable (Reconnect.normalized {}) refused :=
    ⟨[.go (.look {} none), .go (.look {} none), .go (.look {} none),
      .go (.answer {} (.dialed (.error (.closed "peer")))), .pass (.ofMillis 100), .go (.answer {} .rested),
      .go (.look {} none), .go (.look {} none)], rfl⟩
  exact ⟨reached, waits_after_failed_dial (by decide) reached (i := 0) rfl rfl rfl⟩

/-- A dial brings a connection that breaks at once. The receive drops it and dials again, and no time
passes. -/
theorem dials_again_at_once :
    ∃ c, Reachable (Reconnect.normalized {}) c ∧
      (Reconnect.normalized {}).firstWait ≤ (Reconnect.normalized {}).longestWait ∧
      c.dials = [0, 0] ∧ ¬ 0 + (Reconnect.normalized {}).firstWait.nanos ≤ 0 := by
  refine ⟨_, ⟨[.go (.look {} none), .go (.look {} none), .go (.look {} none), .go (.answer {} (.dialed (.ok 7))),
    .go (.look {} none), .go (.answer { connection := some 7 } (.replied (.error (.closed "peer")) none)),
    .go (.look { connection := some 7 } none), .go (.answer {} (.replied (.ok none) none)),
    .go (.look {} none), .go (.look {} none)], rfl⟩, ?_, rfl, ?_⟩ <;> decide

end Courier.Proofs.ReconnectingBackoff
