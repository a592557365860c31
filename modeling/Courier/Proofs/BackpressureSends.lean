import Courier.Proofs.ChannelTasks
import Courier.Proofs.ClockWaits
import Mathlib.Algebra.Group.Nat.Defs

/-! Blocking sends on the clock. Others send, receive and close on the same direction of a channel as they like, and
contexts are cancelled at any time. A blocking send appends its message once, or it fails with its context and has
appended nothing; and after each refusal it rests for twice as long as before, up to a tenth of a second. -/

namespace Courier.Proofs.BackpressureSends
open ChannelTasks ClockWaits Simulation

/-! ### The rests -/

def restAfter (k : Nat) : Duration := .ofMillis (min (2 ^ k) 100)

private theorem nextWait_capped (ms : Nat) :
    Backpressure.nextWait (.ofMillis (min ms 100)) = .ofMillis (min (ms * 2) 100) := by
  change (if min ms 100 * 1000000 * 2 ≤ 100 * 1000000 then (⟨min ms 100 * 1000000 * 2⟩ : Duration)
    else ⟨100 * 1000000⟩) = ⟨min (ms * 2) 100 * 1000000⟩
  split
  · refine congrArg Duration.mk ?_
    omega
  · refine congrArg Duration.mk ?_
    omega

private theorem nextWait_restAfter (k : Nat) : Backpressure.nextWait (restAfter k) = restAfter (k + 1) :=
  nextWait_capped (2 ^ k)

private theorem roundUp_add {t : Nat} (whole : (t + 1000000 - 1) / 1000000 * 1000000 = t) (ms : Nat) :
    (t + ms * 1000000 + 1000000 - 1) / 1000000 * 1000000 = t + ms * 1000000 := by
  have apart : t + ms * 1000000 + 1000000 - 1 = t + 1000000 - 1 + ms * 1000000 := by omega
  rw [apart, Nat.add_mul_div_right _ _ (by omega), Nat.add_mul, whole]

/-- When a rest ends that has begun then. -/
def restEnd (since : Instant) (wait : Duration) : Instant := wholeMillis (since + wait.nanos)

private theorem restEnd_restAfter {since : Instant} (whole : wholeMillis since = since) (k : Nat) :
    restEnd since (restAfter k) = since + (restAfter k).nanos := by
  rw [wholeMillis, millisecond] at whole
  rw [restEnd, wholeMillis, millisecond]
  exact roundUp_add whole _

/-! ### One blocking send among others -/

structure Course where
  lane : Lane
  clock : Clock
  /-- When the sender came to stand where it stands. -/
  since : Instant
  attempts : List Instant
  failures : List Instant := []
  appended : List Message := []
  /-- How its context stood when it last went on. -/
  seen : Option ContextError := none

inductive Event where
  | pass (t : Instant)
  | cancel (token : Token)
  | other (event : ChannelTasks.Event)
  | go
  /-- The sender notices in its rest that its context has ended. -/
  | notice

def concerns (n : Nat) : ChannelTasks.Event → Bool
  | .start _ => false
  | .act task _ => task = n

def rest? : Task → Option Duration
  | .send _ (.resting wait) => some wait
  | _ => none

def isTrying : Task → Bool
  | .send _ (.checking _) => true
  | _ => false

namespace Course

def start (l : Lane) (m : Message) (clock : Clock) : Course where
  lane := l.begin (.blockingSend m)
  clock := clock
  since := clock.now
  attempts := [clock.now]

section
variable (n : Nat) (ctx : Context) (c : Course)

def turn (t : Turn) : Course where
  lane := c.lane.record n t
  clock := c.clock
  since := c.clock.now
  attempts := c.attempts ++ if isTrying t.task then [c.clock.now] else []
  failures := c.failures ++ if (rest? t.task).isSome then [c.clock.now] else []
  appended := c.appended ++ t.queue.items.drop c.lane.queue.items.length
  seen := c.clock.ended? ctx

/-- No time passes beyond the end of a rest. A rest that is over goes on to the next attempt, even where the
context has ended as well. -/
def step (c : Course) : Event → Option Course
  | .pass t => do
    let task ← c.lane.tasks[n]?
    if (rest? task).all fun wait => t ≤ restEnd c.since wait then some { c with clock := c.clock.advanceTo t }
    else none
  | .cancel token => some { c with clock := c.clock.cancel token }
  | .other event => if concerns n event then none else (c.lane.step event).map fun lane => { c with lane }
  | .go => do
    let task ← c.lane.tasks[n]?
    match rest? task with
    | none => (task.step c.lane.queue (c.clock.ended? ctx)).map (c.turn n ctx)
    | some wait =>
      if restEnd c.since wait ≤ c.clock.now then (task.step c.lane.queue none).map (c.turn n ctx) else none
  | .notice => do
    let task ← c.lane.tasks[n]?
    if (rest? task).isSome && (c.clock.ended? ctx).isSome then
      (task.step c.lane.queue (c.clock.ended? ctx)).map (c.turn n ctx)
    else none

end
end Course

/-! ### What becomes of the sender -/

/-- An attempt comes as much later than the failure before it as the rest takes. -/
def Spaced (attempts failures : List Instant) : Prop :=
  ∀ k later, attempts[k + 1]? = some later →
    ∃ failed, failures[k]? = some failed ∧ later = restEnd failed (restAfter k)

section
variable {attempts failures : List Instant}

theorem Spaced.failed (spaced : Spaced attempts failures) (instant : Instant) :
    Spaced attempts (failures ++ [instant]) := by
  intro k later next
  obtain ⟨failed, found, same⟩ := spaced k later next
  exact ⟨failed, found_before found instant, same⟩

private theorem Spaced.begun (spaced : Spaced attempts failures) {k : Nat} (count : attempts.length = k + 1)
    {failed : Instant} (last : failures[k]? = some failed) :
    Spaced (attempts ++ [restEnd failed (restAfter k)]) failures := by
  intro j later next
  rcases found_append next with before | ⟨same, rfl⟩
  · exact spaced j later before
  · obtain rfl : j = k := Nat.succ.inj (same.trans count)
    exact ⟨failed, last, rfl⟩

end

/-- Where a sender stands after so many failed attempts, and what it has done by then. -/
inductive Stands (c : Course) (m : Message) : Sending → Prop where
  | checking {k : Nat} (begun : c.attempts.length = k + 1) (failed : c.failures.length = k)
      (untouched : c.appended = []) : Stands c m (.checking (some (restAfter k)))
  | pushing {k : Nat} (begun : c.attempts.length = k + 1) (failed : c.failures.length = k)
      (untouched : c.appended = []) : Stands c m (.pushing (some (restAfter k)))
  | calling {k : Nat} (appended : c.appended = [m]) : Stands c m (.calling (some (restAfter k)))
  | resting {k : Nat} (begun : c.attempts.length = k + 1) (failed : c.failures.length = k + 1)
      (last : c.failures[k]? = some c.since) (due : c.clock.now ≤ restEnd c.since (restAfter k))
      (untouched : c.appended = []) : Stands c m (.resting (restAfter k))
  | sent (appended : c.appended = [m]) : Stands c m (.done (.ok none))
  | gaveUp {e : ContextError} (ended : c.seen = some e) (untouched : c.appended = []) :
      Stands c m (.done (.error (.context e)))

structure Valid (n : Nat) (m : Message) (phase : Sending) (c : Course) : Prop where
  listed : c.lane.tasks[n]? = some (.send m phase)
  stands : Stands c m phase
  spaced : Spaced c.attempts c.failures

section
variable {n k : Nat} {m : Message} {ctx : Context} {c after : Course} {phase : Sending}

private theorem turn_listed (listed : c.lane.tasks[n]? = some (.send m phase)) (t : Turn) :
    (c.turn n ctx t).lane.tasks[n]? = some t.task := found_self listed _

private theorem valid_silent {next : Sending} {queue : Queue} (valid : Valid n m phase c)
    (same : queue.items = c.lane.queue.items) (calm : isTrying (.send m next) = false)
    (awake : rest? (.send m next) = none)
    (stands : ∀ after, after = c.turn n ctx { queue, task := .send m next } → after.attempts = c.attempts →
      after.failures = c.failures → after.appended = c.appended → Stands after m next) :
    Valid n m next (c.turn n ctx { queue, task := .send m next }) := by
  have attempts : (c.turn n ctx { queue, task := .send m next }).attempts = c.attempts := by
    simp [Course.turn, calm]
  have failures : (c.turn n ctx { queue, task := .send m next }).failures = c.failures := by
    simp [Course.turn, awake]
  refine ⟨turn_listed valid.listed _, stands _ rfl attempts failures ?_, ?_⟩
  · simp [Course.turn, same]
  · rw [attempts, failures]
    exact valid.spaced

private theorem valid_refused (valid : Valid n m phase c) (begun : c.attempts.length = k + 1)
    (failed : c.failures.length = k) (untouched : c.appended = []) :
    Valid n m (.resting (restAfter k))
      (c.turn n ctx { queue := c.lane.queue, task := .send m (.resting (restAfter k)) }) := by
  refine ⟨turn_listed valid.listed _, .resting ?_ ?_ ?_ ?_ ?_, ?_⟩
  · simpa [Course.turn, isTrying] using begun
  · simp [Course.turn, rest?, failed]
  · simp [Course.turn, rest?, ← failed]
  · exact Nat.le_trans (Nat.le_add_right _ _) (le_wholeMillis _)
  · simpa [Course.turn] using untouched
  · simpa [Course.turn, isTrying, rest?] using valid.spaced.failed c.clock.now

private theorem awake_valid (valid : Valid n m phase c) (awake : rest? (.send m phase) = none) {t : Turn}
    (stepped : (Task.send m phase).step c.lane.queue (c.clock.ended? ctx) = some t) :
    ∃ next, Valid n m next (c.turn n ctx t) := by
  have stands := valid.stands
  cases stands with
  | @checking k begun failed untouched =>
    cases ended : c.clock.ended? ctx with
    | some e =>
      rw [ended] at stepped
      cases stepped
      exact ⟨_, valid_refused valid begun failed untouched⟩
    | none =>
      rw [ended] at stepped
      cases stepped
      refine ⟨.pushing (some (restAfter k)), valid_silent valid rfl rfl rfl ?_⟩
      rintro after - attempts failures appended
      exact .pushing (attempts ▸ begun) (failures ▸ failed) (appended.trans untouched)
  | @pushing k begun failed untouched =>
    rcases push_cases c.lane.queue m (c.clock.ended? ctx) (some (restAfter k)) with
      ⟨_, moved⟩ | ⟨_, _, moved⟩ | ⟨_, _, moved⟩ <;> cases moved.symm.trans stepped
    · exact ⟨_, valid_refused valid begun failed untouched⟩
    · exact ⟨_, valid_refused valid begun failed untouched⟩
    · refine ⟨_, turn_listed valid.listed _, .calling ?_, ?_⟩
      · simp [Course.turn, untouched]
      · simpa [Course.turn, isTrying, rest?] using valid.spaced
  | @calling k appended =>
    cases stepped
    refine ⟨.done (.ok none), valid_silent valid (callOne_same _).items rfl rfl ?_⟩
    rintro after - - - same
    exact .sent (same.trans appended)
  | resting begun failed last due untouched => cases awake
  | sent appended => cases stepped
  | gaveUp ended untouched => cases stepped

private theorem rested_valid {wait : Duration} (valid : Valid n m (.resting wait) c)
    (passed : restEnd c.since wait ≤ c.clock.now) :
    ∃ next, Valid n m next (c.turn n ctx
      { queue := c.lane.queue, task := .send m (.onward (Backpressure.afterRest wait none)) }) := by
  cases valid.stands with
  | @resting k begun failed last due untouched =>
    -- The clock stops at the end of the rest, so the next attempt begins then.
    have exactly : c.clock.now = restEnd c.since (restAfter k) := Nat.le_antisymm due passed
    refine ⟨.checking (some (restAfter (k + 1))), ?_, ?_, ?_⟩
    · rw [turn_listed valid.listed, ← nextWait_restAfter]
      rfl
    · refine .checking ?_ ?_ ?_
      · simp [Course.turn, Backpressure.afterRest, Sending.onward, isTrying, begun]
      · simpa [Course.turn, Backpressure.afterRest, Sending.onward, rest?] using failed
      · simpa [Course.turn] using untouched
    · have spaced := valid.spaced.begun begun last
      rw [← exactly] at spaced
      simpa [Course.turn, Backpressure.afterRest, Sending.onward, isTrying, rest?] using spaced

private theorem noticed_valid {wait : Duration} (valid : Valid n m (.resting wait) c) {e : ContextError}
    (ended : c.clock.ended? ctx = some e) :
    Valid n m (.done (.error (.context e))) (c.turn n ctx
      { queue := c.lane.queue, task := .send m (.onward (Backpressure.afterRest wait (some e))) }) := by
  cases valid.stands with
  | resting begun failed last due untouched =>
    refine valid_silent valid rfl rfl rfl ?_
    rintro after rfl - - same
    exact .gaveUp ended (same.trans untouched)

/-- What others do to the lane changes nothing that the sender has done, and neither does the time, as long as it
does not pass over the end of a rest. -/
theorem Stands.meanwhile (stands : Stands c m phase) {lane : Lane} {clock : Clock}
    (due : ∀ wait, phase = .resting wait → c.clock.now ≤ restEnd c.since wait →
      clock.now ≤ restEnd c.since wait) : Stands { c with lane, clock } m phase := by
  cases stands with
  | checking begun failed untouched => exact .checking begun failed untouched
  | pushing begun failed untouched => exact .pushing begun failed untouched
  | calling appended => exact .calling appended
  | resting begun failed last before untouched => exact .resting begun failed last (due _ rfl before) untouched
  | sent appended => exact .sent appended
  | gaveUp ended untouched => exact .gaveUp ended untouched

private theorem other_listed (listed : c.lane.tasks[n]? = some (.send m phase)) {event : ChannelTasks.Event}
    (other : concerns n event = false) {lane : Lane} (moved : c.lane.step event = some lane) :
    lane.tasks[n]? = some (.send m phase) := by
  cases event with
  | start job =>
    cases moved
    exact found_before listed _
  | act task ended =>
    have apart : task ≠ n := of_decide_eq_false other
    obtain ⟨_, _, moved⟩ := Option.bind_eq_some_iff.mp moved
    obtain ⟨_, _, moved⟩ := Option.bind_eq_some_iff.mp moved
    cases moved
    exact (List.getElem?_set_ne apart).trans listed

private theorem rest_cases (phase : Sending) (m : Message) :
    rest? (.send m phase) = none ∨ ∃ wait, phase = .resting wait ∧ rest? (.send m phase) = some wait := by
  cases phase with
  | resting wait => exact .inr ⟨wait, rfl, rfl⟩
  | checking patience => exact .inl rfl
  | pushing patience => exact .inl rfl
  | calling patience => exact .inl rfl
  | done reply => exact .inl rfl

private theorem go_valid (valid : Valid n m phase c) (moved : c.step n ctx .go = some after) :
    ∃ next, Valid n m next after := by
  simp only [Course.step, valid.listed, Option.bind_eq_bind, Option.bind_some] at moved
  rcases rest_cases phase m with awake | ⟨wait, rfl, asleep⟩
  · rw [awake] at moved
    obtain ⟨t, stepped, rfl⟩ := Option.map_eq_some_iff.mp moved
    exact awake_valid valid awake stepped
  · simp only [asleep, Option.ite_none_right_eq_some] at moved
    obtain ⟨passed, moved⟩ := moved
    cases moved
    exact rested_valid valid passed

private theorem notice_valid (valid : Valid n m phase c) (moved : c.step n ctx .notice = some after) :
    ∃ next, Valid n m next after := by
  simp only [Course.step, valid.listed, Option.bind_eq_bind, Option.bind_some,
    Option.ite_none_right_eq_some, Bool.and_eq_true] at moved
  obtain ⟨⟨asleep, isOver⟩, moved⟩ := moved
  obtain ⟨e, ended⟩ := Option.isSome_iff_exists.mp isOver
  rcases rest_cases phase m with awake | ⟨wait, rfl, _⟩
  · simp [awake] at asleep
  · rw [ended] at moved
    cases moved
    exact ⟨_, noticed_valid valid ended⟩

/-- Whatever happens, the sender stands somewhere. -/
theorem step_valid (valid : Valid n m phase c) (event : Event) (moved : c.step n ctx event = some after) :
    ∃ next, Valid n m next after := by
  cases event with
  | pass t =>
    simp only [Course.step, valid.listed, Option.bind_eq_bind, Option.bind_some,
      Option.ite_none_right_eq_some] at moved
    obtain ⟨inTime, moved⟩ := moved
    cases moved
    refine ⟨phase, valid.listed, valid.stands.meanwhile ?_, valid.spaced⟩
    rintro wait rfl due
    have bounded : t ≤ restEnd c.since wait := by simpa [rest?] using inTime
    exact Nat.max_le.mpr ⟨due, bounded⟩
  | cancel token =>
    cases moved
    exact ⟨phase, valid.listed, valid.stands.meanwhile fun _ _ due => due, valid.spaced⟩
  | other event =>
    simp only [Course.step] at moved
    split at moved
    next => cases moved
    next apart =>
      obtain ⟨lane, stepped, rfl⟩ := Option.map_eq_some_iff.mp moved
      exact ⟨phase, other_listed valid.listed (Bool.eq_false_iff.mpr apart) stepped,
        valid.stands.meanwhile fun _ _ due => due, valid.spaced⟩
  | go => exact go_valid valid moved
  | notice => exact notice_valid valid moved

theorem start_valid (l : Lane) (m : Message) (clock : Clock) :
    Valid l.tasks.length m (.checking (some (restAfter 0))) (.start l m clock) := by
  refine ⟨List.getElem?_concat_length, .checking rfl rfl rfl, ?_⟩
  intro k later next
  cases next

end

section
variable {l : Lane} {m : Message} {ctx : Context} {clock : Clock} {c : Course}

private theorem valid_of_leads (reached : Leads (Course.step l.tasks.length ctx) (.start l m clock) c) :
    ∃ phase, Valid l.tasks.length m phase c :=
  reached.invariant (fun c => ∃ phase, Valid l.tasks.length m phase c) ⟨_, start_valid l m clock⟩
    fun _ event _ ⟨_, valid⟩ moved => step_valid valid event moved

/-- A send that succeeds has appended its message once. One that fails has appended nothing, and fails with
the end of its context. Between a failed attempt and the next there lies the whole rest and no more. -/
theorem all_or_nothing (reached : Leads (Course.step l.tasks.length ctx) (.start l m clock) c) :
    ∃ phase, c.lane.tasks[l.tasks.length]? = some (.send m phase) ∧
      (∀ found, phase = .done (.ok found) → c.appended = [m]) ∧
      (∀ why, phase = .done (.error why) → c.appended = [] ∧ ∃ e, why = .context e ∧ c.seen = some e) ∧
      (∀ wait, phase = .resting wait → ∃ k, c.failures.length = k + 1 ∧ wait = .ofMillis (min (2 ^ k) 100)) ∧
      ∀ k later, c.attempts[k + 1]? = some later → ∃ failed, c.failures[k]? = some failed ∧
        later = restEnd failed (.ofMillis (min (2 ^ k) 100)) ∧
        (wholeMillis failed = failed → later = failed + (Duration.ofMillis (min (2 ^ k) 100)).nanos) := by
  obtain ⟨phase, listed, stands, spaced⟩ := valid_of_leads reached
  refine ⟨phase, listed, ?_, ?_, ?_, ?_⟩
  · rintro found rfl
    cases stands with
    | sent appended => exact appended
  · rintro why rfl
    cases stands with
    | gaveUp ended untouched => exact ⟨untouched, _, rfl, ended⟩
  · rintro wait rfl
    cases stands with
    | resting begun failed last due untouched => exact ⟨_, failed, rfl⟩
  · intro k later next
    obtain ⟨failed, found, rfl⟩ := spaced k later next
    exact ⟨failed, found, rfl, fun whole => restEnd_restAfter whole k⟩

end

/-- Another message takes the only place before the sender tries, and a receiver takes it away during the second
rest. -/
def squeezed : List Event :=
  [.other (.start (.operate (.send default))), .other (.act 1 none), .other (.act 1 none), .other (.act 1 none),
   .go, .go, .pass 1000000, .go, .go, .go,
   .other (.start (.operate .receive)), .other (.act 2 none), .other (.act 2 none), .other (.act 2 none),
   .pass 3000000, .go, .go, .go, .go]

theorem all_or_nothing_squeezed :
    ∃ c, Leads (Course.step 0 (.background 0)) (.start (.fresh 1) default {}) c ∧
      c.lane.tasks[0]? = some (.send default (.done (.ok none))) ∧ c.appended = [default] ∧
      c.attempts = [0, 1000000, 3000000] ∧
      ∃ failed, c.failures[1]? = some failed ∧ 3000000 = restEnd failed (.ofMillis 2) := by
  obtain ⟨c, ran, task, attempts⟩ :
      ∃ c, squeezed.foldlM (Course.step 0 (.background 0)) (.start (.fresh 1) default {}) = some c ∧
        c.lane.tasks[0]? = some (.send default (.done (.ok none))) ∧ c.attempts = [0, 1000000, 3000000] :=
    ⟨_, rfl, rfl, rfl⟩
  obtain ⟨phase, listed, sent, _, _, spaced⟩ := all_or_nothing (l := .fresh 1) ⟨squeezed, ran⟩
  obtain rfl : phase = .done (.ok none) := by
    cases listed.symm.trans task
    rfl
  obtain ⟨failed, found, rounded, _⟩ := spaced 1 3000000 (by rw [attempts]; rfl)
  exact ⟨c, ⟨squeezed, ran⟩, task, sent none rfl, attempts, failed, found, rounded⟩

end Courier.Proofs.BackpressureSends
