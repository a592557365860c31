import Courier.Proofs.BreakerCalls

/-! Fallbacks and the breaker. Runs of calls that differ only in the fallbacks are told apart by nothing but
what those callers get who were turned away. -/

namespace Courier.Proofs.BreakerFallbacks
open Breaker BreakerCalls

variable {ε α : Type}

/-- The same run, but for the fallbacks that calls bring along, and for what these do. -/
def Replaced (events others : List (Event ε α)) : Prop :=
  others.filterMap Event.plainly = events.filterMap Event.plainly

private theorem call_plainly (call : Call ε α) {b : Breaker} {now : Instant} {deed : Deed} (seen : deed.aside = false) :
    call.plainly.step b now deed = (call.step b now deed).map (Turn.map Call.plainly) := by
  calc call.plainly.step b now deed
    _ = (call.stage.step call.function b now deed).map (·.map (.plain call.function)) := rfl
    _ = ((call.step b now deed).map (Turn.map Call.stage)).map (·.map (.plain call.function)) := by
      rw [step_stage call seen]
    _ = (call.step b now deed).map (Turn.map Call.plainly) := by
      cases stepped : call.step b now deed with
      | none => rfl
      | some turn => simp [Turn.map, Call.plainly, step_function stepped]

section
variable {s t : System ε α}

private theorem first_plainly (function : Except ε α) (fallback : Option (Except ε α)) :
    (Call.first function fallback).plainly = .first function none := by
  cases fallback <;> rfl

private theorem event_plainly {event seen : Event ε α} (plainly : event.plainly = some seen) (s : System ε α) :
    s.plainly.step seen = (s.step event).map System.plainly := by
  cases event with
  | begin function fallback =>
    obtain rfl := Option.some.inj plainly
    simp [System.step, System.plainly, first_plainly]
  | act n deed =>
    simp only [Event.plainly] at plainly
    split at plainly <;> cases plainly
    next own =>
    have own : deed.aside = false := Bool.of_not_eq_true own
    simp only [System.step, System.plainly, List.getElem?_map]
    cases s.calls[n]? with
    | none => rfl
    | some call =>
      simp only [Option.map_some, Option.bind_some, call_plainly call own, Option.map_map]
      congr 1
      funext turn
      simp [System.record, System.plainly, Turn.map, List.map_set]
  | observe | elapse =>
    obtain rfl := Option.some.inj plainly
    rfl

private theorem event_aside {event : Event ε α} (aside : event.plainly = none) (stepped : s.step event = some t) :
    t.plainly = s.plainly := by
  cases event with
  | act n deed =>
    simp only [Event.plainly] at aside
    split at aside <;> cases aside
    next own =>
    obtain ⟨call, found, turned⟩ := Option.bind_eq_some_iff.mp stepped
    obtain ⟨turn, went, rfl⟩ := Option.map_eq_some_iff.mp turned
    obtain ⟨breaker, after, known⟩ := turn
    obtain ⟨rfl, stage, rfl⟩ := Turn.mk.inj (step_aside own went)
    have function : after.function = call.function := step_function went
    have plainly : after.plainly = call.plainly := by
      rw [Call.plainly, Call.plainly, function, stage]
    obtain ⟨inside, rfl⟩ := List.getElem?_eq_some_iff.mp found
    have same : (s.calls.set n after).map Call.plainly = s.calls.map Call.plainly := by
      rw [List.map_set, plainly, ← List.map_set, List.set_getElem_self]
    simp only [System.plainly, System.record, List.append_nil, same]
  | begin | observe | elapse => cases aside

/-- A run, seen without fallbacks, is a run of plain calls. -/
theorem run_plainly {events : List (Event ε α)} (ran : events.foldlM System.step s = some t) :
    (events.filterMap Event.plainly).foldlM System.step s.plainly = some t.plainly := by
  induction events generalizing s with
  | nil =>
    cases ran
    rfl
  | cons event rest ih =>
    rw [List.foldlM_cons] at ran
    obtain ⟨middle, stepped, ran⟩ := Option.bind_eq_some_iff.mp ran
    cases plainly : event.plainly with
    | none =>
      rw [List.filterMap_cons_none plainly, ← event_aside plainly stepped]
      exact ih ran
    | some seen =>
      rw [List.filterMap_cons_some plainly, List.foldlM_cons, event_plainly plainly, stepped]
      exact ih ran

/-- Whatever plain calls can do, calls can do that bring fallbacks along. -/
theorem run_replaced {events : List (Event ε α)} (seen : ∀ event ∈ events, event.plainly ≠ none)
    (ran : (events.filterMap Event.plainly).foldlM System.step s.plainly = some t) :
    ∃ last, events.foldlM System.step s = some last := by
  induction events generalizing s with
  | nil => exact ⟨s, rfl⟩
  | cons event rest ih =>
    obtain ⟨first, plainly⟩ := Option.ne_none_iff_exists'.mp (seen event List.mem_cons_self)
    rw [List.filterMap_cons_some plainly, List.foldlM_cons, event_plainly plainly] at ran
    obtain ⟨middle, moved, ran⟩ := Option.bind_eq_some_iff.mp ran
    obtain ⟨next, stepped, rfl⟩ := Option.map_eq_some_iff.mp moved
    obtain ⟨last, led⟩ := ih (fun later member => seen later (List.mem_cons_of_mem _ member)) ran
    refine ⟨last, ?_⟩
    rw [List.foldlM_cons, stepped]
    exact led

end

/-! ### What callers get -/

/-- Two calls of one function that have fared alike. -/
structure Paired (call other : Call ε α) : Prop where
  function : other.function = call.function
  permit : other.permit? = call.permit?
  turnedAway : other.turnedAway = call.turnedAway
  invoked : other.invoked = call.invoked
  reply : call.turnedAway = false → other.reply? = call.reply?

/-- Whoever was let in gets what the function has returned, and whoever was turned away something else. -/
structure Answered (call : Call ε α) : Prop where
  letIn : call.turnedAway = false → ∀ outcome ∈ call.reply?, outcome = .returned call.function
  turnedAway : call.turnedAway = true → ∀ outcome ∈ call.reply?, outcome = call.instead

private theorem paired_plainly (call : Call ε α) : Paired call call.plainly := by
  cases call with
  | plain function stage => exact ⟨rfl, rfl, rfl, rfl, fun _ => rfl⟩
  | backed function fallback stage =>
    cases stage with
    | fallingBack | fellBack | abandoned => exact ⟨rfl, rfl, rfl, rfl, nofun⟩
    | _ => exact ⟨rfl, rfl, rfl, rfl, fun _ => rfl⟩

private theorem Paired.of_plainly {call other : Call ε α} (same : other.plainly = call.plainly) : Paired call other := by
  have one := paired_plainly call
  have two := paired_plainly other
  rw [same] at two
  refine ⟨two.function.symm.trans one.function, two.permit.symm.trans one.permit,
    two.turnedAway.symm.trans one.turnedAway, two.invoked.symm.trans one.invoked, ?_⟩
  intro letIn
  have alike : other.turnedAway = false := (two.turnedAway.symm.trans one.turnedAway).trans letIn
  exact (two.reply alike).symm.trans (one.reply letIn)

def Honest : Call ε α → Prop
  | .plain function (.returned _ result _) | .plain function (.finished result _) => result = function
  | .backed function _ (.returned _ result _) | .backed function _ (.finished result _) => result = function
  | .backed _ fallback (.fellBack result) => result = fallback
  | _ => True

private theorem Honest.answered {call : Call ε α} (honest : Honest call) : Answered call := by
  cases call with
  | plain function stage =>
    cases stage with
    | rejected => exact ⟨nofun, fun _ outcome got => (Option.some.inj got).symm⟩
    | finished result ended =>
      obtain rfl : result = function := honest
      exact ⟨fun _ outcome got => (Option.some.inj got).symm, nofun⟩
    | _ => exact ⟨fun _ => nofun, fun _ => nofun⟩
  | backed function fallback stage =>
    cases stage with
    | finished result ended =>
      obtain rfl : result = function := honest
      exact ⟨fun _ outcome got => (Option.some.inj got).symm, nofun⟩
    | fellBack result =>
      obtain rfl : result = fallback := honest
      exact ⟨nofun, fun _ outcome got => (Option.some.inj got).symm⟩
    | _ => exact ⟨fun _ => nofun, fun _ => nofun⟩

private theorem Honest.step {call : Call ε α} (honest : Honest call) {b : Breaker} {now : Instant} {deed : Deed}
    {turn : Turn (Call ε α)} (stepped : call.step b now deed = some turn) : Honest turn.stage := by
  cases call with
  | plain function stage =>
    obtain ⟨inner, went, rfl⟩ := Option.map_eq_some_iff.mp stepped
    cases stage with
    | arriving =>
      cases deed with
      | proceed =>
        simp only [Plain.step] at went
        split at went <;> cases went <;> trivial
      | _ => cases went
    | returned permit result ended =>
      cases deed <;> cases went
      exact honest
    | _ => cases deed <;> cases went <;> trivial
  | backed function fallback stage =>
    obtain ⟨inner, went, rfl⟩ := Option.map_eq_some_iff.mp stepped
    cases stage with
    | arriving =>
      cases deed with
      | proceed =>
        simp only [Backed.step] at went
        split at went <;> cases went <;> trivial
      | _ => cases went
    | returned permit result ended =>
      cases deed <;> cases went
      exact honest
    | _ => cases deed <;> cases went <;> trivial

theorem step_honest {s after : System ε α} {event : Event ε α} (honest : ∀ call ∈ s.calls, Honest call)
    (stepped : s.step event = some after) : ∀ call ∈ after.calls, Honest call := by
  cases event with
  | begin function fallback =>
    cases stepped
    intro call member
    rcases List.mem_append.mp member with before | begun
    · exact honest call before
    · rw [List.mem_singleton.mp begun]
      cases fallback <;> trivial
  | act n deed =>
    obtain ⟨call, found, turned⟩ := Option.bind_eq_some_iff.mp stepped
    obtain ⟨turn, went, rfl⟩ := Option.map_eq_some_iff.mp turned
    intro other member
    rcases List.mem_or_eq_of_mem_set member with before | rfl
    · exact honest other before
    · exact (honest call (List.mem_of_getElem? found)).step went
  | observe | elapse =>
    cases stepped
    exact honest

theorem reachable_honest {config : BreakerConfig} {s : System ε α}
    (reached : Leads System.step (.start config) s) : ∀ call ∈ s.calls, Honest call :=
  reached.invariant (fun s => ∀ call ∈ s.calls, Honest call) nofun fun _ _ _ => step_honest

/-- Any calls of a run may bring along fallbacks, or other fallbacks, and the run is as possible as before. The
breaker goes through the same states with the same counts, and the same becomes known of it, from which its
metrics are counted, whatever the fallbacks do. Every call is let in or turned away as before, has called its
function or has not, and gets the function's own result if it was let in. If it was turned away, it gets
the result of its fallback in place of the rejection, as soon as the fallback returns. -/
theorem replaced_alike {config : BreakerConfig} {events others : List (Event ε α)}
    (alike : Replaced events others) {s : System ε α}
    (ran : events.foldlM System.step (.start config) = some s) :
    ((∀ event ∈ others, event.plainly ≠ none) → ∃ t, others.foldlM System.step (.start config) = some t) ∧
    ∀ t, others.foldlM System.step (.start config) = some t →
      t.breaker = s.breaker ∧ t.now = s.now ∧ t.known = s.known ∧ t.calls.length = s.calls.length ∧
      (∀ (n : Nat) call other, s.calls[n]? = some call → t.calls[n]? = some other → Paired call other) ∧
      (∀ call ∈ t.calls, Answered call) ∧
      ∀ (n : Nat) function fallback, t.calls[n]? = some (.backed function fallback .fallingBack) →
        t.step (.act n .fallBack) =
          some { t with calls := t.calls.set n (.backed function fallback (.fellBack fallback)) } := by
  have plain := run_plainly ran
  rw [← alike] at plain
  constructor
  · intro seen
    exact run_replaced seen plain
  · intro t ranOther
    have same : t.plainly = s.plainly := Option.some.inj ((run_plainly ranOther).symm.trans plain)
    have breaker : t.plainly.breaker = s.plainly.breaker := congrArg System.breaker same
    have now : t.plainly.now = s.plainly.now := congrArg System.now same
    have known : t.plainly.known = s.plainly.known := congrArg System.known same
    have calls : t.calls.map Call.plainly = s.calls.map Call.plainly := congrArg System.calls same
    refine ⟨breaker, now, known, ?_, ?_, ?_, ?_⟩
    · simpa using congrArg List.length calls
    · intro n call other found there
      have here := congrArg (·[n]?) calls
      simp only [List.getElem?_map, found, there, Option.map_some] at here
      exact .of_plainly (Option.some.inj here)
    · intro call member
      exact (reachable_honest ⟨others, ranOther⟩ call member).answered
    · intro n function fallback found
      simp [System.step, found, Call.step, Backed.step, System.record, Turn.map]

/-- The first call opens the breaker, and the second is turned away. The third is let in when the breaker has been
open long enough, the fourth is turned away while it runs, and then it closes the breaker. -/
def crowded (second third fourth : Option (Except String Nat)) : List (Event String Nat) :=
  [.begin (.error "lost") none, .act 0 .proceed, .act 0 .proceed, .act 0 (.answer none), .act 0 .proceed,
    .begin (.ok 2) second, .act 1 .proceed, .act 1 .proceed, .elapse 10,
    .begin (.ok 3) third, .act 2 .proceed, .act 2 .proceed, .begin (.ok 4) fourth, .act 3 .proceed, .act 3 .proceed,
    .act 2 (.answer none), .act 2 .proceed]

def fallingBack : List (Event String Nat) :=
  crowded (some (.ok 20)) (some (.ok 30)) (some (.error "down")) ++ [.act 3 .fallBack, .act 1 .fallBack]

theorem replaced_alike_crowded :
    ∃ s t, (crowded none none none).foldlM System.step (.start ⟨1, ⟨10⟩, 1⟩) = some s ∧
      fallingBack.foldlM System.step (.start ⟨1, ⟨10⟩, 1⟩) = some t ∧
      t.breaker = s.breaker ∧ t.known = s.known ∧
      s.calls.map Call.reply? =
        [some (.returned (.error "lost")), some .rejected, some (.returned (.ok 3)), some .rejected] ∧
      t.calls.map Call.reply? =
        [some (.returned (.error "lost")), some (.returned (.ok 20)), some (.returned (.ok 3)),
          some (.returned (.error "down"))] := by
  have alike : Replaced (crowded none none none) fallingBack := rfl
  have ran : (crowded none none none).foldlM System.step (.start ⟨1, ⟨10⟩, 1⟩) = some _ := rfl
  obtain ⟨breaker, _, known, _⟩ := (replaced_alike alike ran).2 _ rfl
  exact ⟨_, _, rfl, rfl, breaker, known, rfl, rfl⟩

end Courier.Proofs.BreakerFallbacks
