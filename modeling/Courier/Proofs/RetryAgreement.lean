import Courier.Middleware
import Courier.Proofs.RetryExecution

/-! A wrapper that repeats sends and a retry policy with the same numbers, over one inner transport. Both
are loops, and they keep in step: after any number of sends they ask for the same. What they report
differs in one case only. When the last attempt has failed, the wrapper says that the attempts are
used up, and why. -/

namespace Courier.Proofs.RetryAgreement
open Simulation ClockWaits RetryExecution

/-! ### A context of one's own

A wrapper sends under a child of its caller's context when there is a span to open. As nobody else
knows the child's token, the child ends when the context does. -/

def Unknown (token : Token) (c : Clock) : Prop :=
  token ∉ c.cancelled ∧ ∀ entry ∈ c.planned, entry.2 ≠ token

section
variable {token : Token} {c : Clock}

theorem Unknown.advanceTo (unknown : Unknown token c) (t : Instant) : Unknown token (c.advanceTo t) := by
  simp only [Unknown, Clock.advanceTo, List.partition_eq_filter_filter, List.mem_append, List.mem_map,
    List.mem_filter]
  refine ⟨?_, ?_⟩
  · rintro (⟨entry, ⟨planned, _⟩, same⟩ | cancelled)
    · exact unknown.2 entry planned same
    · exact unknown.1 cancelled
  · rintro entry ⟨planned, _⟩
    exact unknown.2 entry planned

private theorem Unknown.rested (unknown : Unknown token c) (ctx : Context) (d : Duration) :
    Unknown token (rested ctx d c) := by
  unfold ClockWaits.rested
  split
  next => exact unknown
  next => exact unknown.advanceTo _

theorem ended_withSpan (unknown : Unknown token c) (ctx : Context) (span : Nat) :
    c.ended? (ctx.withSpan token span) = c.ended? ctx := by
  -- The deadline is that of the parent, so only the child's own token could make a difference.
  have alive : c.cancelled.contains token = false := by
    simpa using unknown.1
  have same : (ctx.withSpan token span).isCancelled c.cancelled = ctx.isCancelled c.cancelled := by
    simp only [Context.isCancelled, Context.withSpan, Context.child, List.any_cons, alive, Bool.false_or]
  rw [Clock.ended?, Context.ended?, same]
  rfl

private theorem endOf_withSpan (unknown : Unknown token c) (ctx : Context) (span : Nat) :
    c.endOf (ctx.withSpan token span) = c.endOf ctx := by
  unfold Clock.endOf
  rw [ended_withSpan unknown, List.filter_congr]
  · rfl
  · rintro ⟨due, other⟩ planned
    have different : (other == token) = false := by
      simpa using unknown.2 _ planned
    simp only [Context.withSpan, Context.child, List.contains_cons, different, Bool.false_or]

private theorem rested_withSpan (unknown : Unknown token c) (ctx : Context) (span : Nat) (d : Duration) :
    rested (ctx.withSpan token span) d c = rested ctx d c := by
  rw [ClockWaits.rested, ended_withSpan unknown, sleep_until, endOf_withSpan unknown]
  rfl

private theorem go_withSpan {φ β ρ : Type} (l : Loop φ β ρ) {script : Script β}
    (kept : ∀ number c, Unknown token c → Unknown token (script.during number c)) (ctx : Context)
    (span fuel : Nat) (calls : List Instant) (unknown : Unknown token c) (request : Request φ ρ) :
    l.go script (ctx.withSpan token span) calls c fuel request = l.go script ctx calls c fuel request := by
  induction fuel generalizing calls c request with
  | zero => rfl
  | succ fuel ih =>
    cases request with
    | finish result => rfl
    | call phase => exact ih _ (kept _ _ unknown) _
    | rest delay phase =>
      have later := unknown.rested ctx delay
      simp only [Loop.go, rested_withSpan unknown, ended_withSpan later]
      exact ih _ later _

end

/-! ### The wrapper as a loop -/

def requestOf : Middleware.Next → Request Middleware.Phase Reply
  | .send phase => .call phase
  | .rest wait phase => .rest wait phase
  | .finish reply _ => .finish reply

/-- The sending of a message through a wrapper around a transport. -/
def ofMiddleware (w : Middleware) (inner : String) (m : Message) : Loop Middleware.Phase Reply Reply where
  start ended := requestOf (w.start ended)
  afterCall
    | .sending attempt wait, reply => requestOf (w.afterSend inner m attempt wait reply).1
    | phase, _ => .call phase
  afterRest
    | .resting attempt wait last, ended => requestOf (w.afterRest attempt wait last ended)
    | phase, _ => .call phase

/-- The policy with the same numbers, which leaves nothing to chance. -/
def policyOf (r : SendRetry) : RetryPolicy := ⟨r.maxAttempts, r.initialWait, r.maxWait, r.multiplier, .zero⟩

/-- The same sends under a policy that repeats after every error. -/
def repeating (r : SendRetry) (chance : Nat → Binary64) (script : Script Reply) (ctx : Context)
    (clock : Clock) : Execution TransportError (Option Message) where
  policy := policyOf r
  retryable _ := true
  ofContext := .context
  chance := chance
  script := script
  ctx := ctx
  clock := clock

/-- The context of the sends: a child with the span, if one is opened, or else that of the caller. -/
def sendContext (ctx : Context) : Option (Token × Nat) → Context
  | none => ctx
  | some (token, span) => ctx.withSpan token span

def wrapped (w : Middleware) (inner : String) (m : Message) (script : Script Reply) (ctx : Context)
    (clock : Clock) : Course Reply :=
  (ofMiddleware w inner m).go script ctx [] clock (2 * (w.retry.elim 1 (·.maxAttempts)) + 2)
    ((ofMiddleware w inner m).start (clock.ended? ctx))

def reported (limit sends : Nat) : Reply → Reply
  | .ok received => .ok received
  | .error why => .error (if sends = limit then .retriesExhausted limit why else why)

/-- The loops ask for the same after so many sends. -/
inductive InStep (limit sends : Nat) :
    Request (RetryPolicy.Phase TransportError) Reply → Request Middleware.Phase Reply → Prop
  | call (left : sends < limit) (wait : Duration) :
      InStep limit sends (.call (.calling (sends + 1) wait)) (.call (.sending (sends + 1) wait))
  | rest (left : sends < limit) (delay wait : Duration) (last : TransportError) :
      InStep limit sends (.rest delay (.resting sends wait last)) (.rest delay (.resting sends wait last))
  | finish (reply : Reply) : InStep limit sends (.finish reply) (.finish (reported limit sends reply))

private theorem InStep.finish_early {limit sends : Nat} (early : sends ≠ limit) (reply : Reply) :
    InStep limit sends (.finish reply) (.finish reply) := by
  have same : reported limit sends reply = reply := by
    cases reply with
    | ok received => rfl
    | error why => rw [reported, if_neg early]
  have step : InStep limit sends (.finish reply) (.finish (reported limit sends reply)) := .finish reply
  rwa [same] at step

private theorem InStep.finish_last (limit : Nat) (why : TransportError) :
    InStep limit limit (.finish (.error why)) (.finish (.error (.retriesExhausted limit why))) := by
  have step : InStep limit limit (.finish (.error why)) (.finish (reported limit limit (.error why))) :=
    .finish (.error why)
  rwa [reported, if_pos rfl] at step

section
variable {r : SendRetry} (many : 2 ≤ r.maxAttempts) (w : Middleware) (inner : String) (m : Message)
  (chance : Nat → Binary64) (script : Script Reply) (ctx : Context) (clock : Clock)
include many

private theorem attempts_policyOf : (policyOf r).attempts = r.maxAttempts :=
  Nat.max_eq_left (Nat.le_of_succ_le many)

private theorem retry_withRetry : (w.withRetry r).retry = some r :=
  if_pos many

private theorem inStep_start (ended : Option ContextError) :
    InStep r.maxAttempts 0 ((repeating r chance script ctx clock).loop.start ended)
      ((ofMiddleware (w.withRetry r) inner m).start ended) := by
  have positive : 0 < r.maxAttempts := Nat.lt_of_lt_of_le Nat.zero_lt_two many
  simp only [ofMiddleware, Middleware.start, retry_withRetry many, Middleware.proceed,
    if_neg (Nat.not_lt.mpr positive)]
  cases ended with
  | some why =>
    have same : (repeating r chance script ctx clock).loop.start (some why) =
      .finish (.error (.context why)) := start_ended _ why
    rw [same]
    exact .finish_early (Nat.ne_of_lt positive) _
  | none =>
    have same : (repeating r chance script ctx clock).loop.start none =
      .call (.calling 1 r.initialWait) := start_live _
    rw [same]
    exact .call positive _

private theorem inStep_afterCall {sends : Nat} (left : sends < r.maxAttempts) (wait : Duration) (reply : Reply) :
    InStep r.maxAttempts (sends + 1)
      ((repeating r chance script ctx clock).loop.afterCall (.calling (sends + 1) wait) reply)
      ((ofMiddleware (w.withRetry r) inner m).afterCall (.sending (sends + 1) wait) reply) := by
  simp only [ofMiddleware, Middleware.afterSend, retry_withRetry many]
  change InStep _ _ (.ofAction ((policyOf r).afterCall _ _ _ _ _)) _
  cases reply with
  | ok received =>
    rw [afterCall_finish (by intro why same; cases same)]
    exact .finish (.ok received)
  | error why =>
    by_cases last : sends + 1 = r.maxAttempts
    · rw [afterCall_finish (by intro _ _ _; rw [attempts_policyOf many, last])]
      simp only [if_pos last]
      rw [last]
      exact .finish_last _ _
    · rw [afterCall_rest rfl (by rwa [attempts_policyOf many])]
      simp only [if_neg last]
      exact .rest (Nat.lt_of_le_of_ne left last) _ _ _

private theorem inStep_afterRest {sends : Nat} (left : sends < r.maxAttempts)
    (wait : Duration) (last : TransportError) (ended : Option ContextError) :
    InStep r.maxAttempts sends
      ((repeating r chance script ctx clock).loop.afterRest (.resting sends wait last) ended)
      ((ofMiddleware (w.withRetry r) inner m).afterRest (.resting sends wait last) ended) := by
  simp only [ofMiddleware, Middleware.afterRest, retry_withRetry many, Middleware.proceed]
  change InStep _ _ (.ofAction ((policyOf r).afterRest _ _ _ _)) _
  cases ended with
  | some why =>
    rw [afterRest_ended last rfl]
    exact .finish_early (Nat.ne_of_lt left) _
  | none =>
    rw [afterRest_live last (by rwa [attempts_policyOf many]) rfl]
    simp only [if_neg (Nat.not_lt.mpr left)]
    exact .call left _

/-- Loops in step make the same sends at the same times, and end together. -/
theorem go_inStep (fuel : Nat) (calls : List Instant) {now : Clock}
    {one : Request (RetryPolicy.Phase TransportError) Reply} {other : Request Middleware.Phase Reply}
    (step : InStep r.maxAttempts calls.length one other) :
    let course := (repeating r chance script ctx clock).loop.go script ctx calls now fuel one
    (ofMiddleware (w.withRetry r) inner m).go script ctx calls now fuel other =
      ⟨course.calls, course.clock, course.result.map (reported r.maxAttempts course.calls.length)⟩ := by
  induction fuel generalizing calls now one other with
  | zero => rfl
  | succ fuel ih =>
    cases step with
    | finish reply => rfl
    | rest left delay wait last =>
      apply ih
      exact inStep_afterRest many w inner m chance script ctx clock left wait last _
    | call left wait =>
      apply ih
      rw [List.length_append]
      exact inStep_afterCall many w inner m chance script ctx clock left wait _

private theorem wrapped_repeating :
    let course := (repeating r chance script ctx clock).course
    wrapped (w.withRetry r) inner m script ctx clock =
      ⟨course.calls, course.clock, course.result.map (reported r.maxAttempts course.calls.length)⟩ := by
  have fuel : (repeating r chance script ctx clock).policy.attempts = r.maxAttempts := attempts_policyOf many
  rw [wrapped, Execution.course, retry_withRetry many, Option.elim_some, fuel]
  apply go_inStep many
  exact inStep_start many w inner m chance script ctx clock _

end

/-- A token that a run does not come to know. -/
def Private (token : Token) (script : Script Reply) (clock : Clock) : Prop :=
  Unknown token clock ∧ ∀ number c, Unknown token c → Unknown token (script.during number c)

private theorem wrapped_sendContext {w : Middleware} {inner : String} {m : Message} {script : Script Reply}
    {ctx : Context} {clock : Clock} {span : Option (Token × Nat)}
    (fresh : ∀ opened ∈ span, Private opened.1 script clock) :
    wrapped w inner m script (sendContext ctx span) clock = wrapped w inner m script ctx clock := by
  cases span with
  | none => rfl
  | some opened =>
    obtain ⟨token, span⟩ := opened
    obtain ⟨unknown, kept⟩ := fresh (token, span) rfl
    rw [wrapped, wrapped, sendContext, ended_withSpan unknown]
    exact go_withSpan _ kept ctx span _ _ unknown _

/-- The wrapper and the policy make the same sends at the same times. Their result is what came of the
last send, or the end of the context if there was none, and the wrapper reports an error of the last
attempt as the end of its attempts. It never reports success unless a send has succeeded. -/
theorem retries_agree {r : SendRetry} (many : 2 ≤ r.maxAttempts) (w : Middleware) (inner : String)
    (m : Message) (chance : Nat → Binary64) (script : Script Reply) (ctx : Context)
    (span : Option (Token × Nat)) (clock : Clock)
    (fresh : ∀ opened ∈ span, Private opened.1 script clock) :
    let policy := (repeating r chance script ctx clock).course
    let wrapper := wrapped (w.withRetry r) inner m script (sendContext ctx span) clock
    wrapper.calls = policy.calls ∧ wrapper.clock = policy.clock ∧
      ∃ result, policy.result = some result ∧
        wrapper.result = some (reported r.maxAttempts policy.calls.length result) ∧
        (policy.calls = [] → ∃ why, result = .error (.context why)) ∧
        (policy.calls ≠ [] → result = script.outcome policy.calls.length) ∧
        ∀ received, wrapper.result = some (.ok received) →
          ∃ number, 1 ≤ number ∧ script.outcome number = .ok received := by
  intro policy wrapper
  have same : wrapper = ⟨policy.calls, policy.clock,
      policy.result.map (reported r.maxAttempts policy.calls.length)⟩ := by
    simp only [wrapper, wrapped_sendContext fresh]
    exact wrapped_repeating many w inner m chance script ctx clock
  obtain ⟨result, ends, uncalled, called⟩ := (repeating r chance script ctx clock).course_result
  have reports : wrapper.result = some (reported r.maxAttempts policy.calls.length result) := by
    rw [same]
    exact congrArg (Option.map (reported r.maxAttempts policy.calls.length)) ends
  refine ⟨by rw [same], by rw [same], result, ends, reports, uncalled, called, ?_⟩
  intro received succeeded
  rw [reports] at succeeded
  cases result with
  | error why => cases succeeded
  | ok found =>
    cases succeeded
    have some : policy.calls ≠ [] := by
      intro none
      obtain ⟨why, failed⟩ := uncalled none
      cases failed
    exact ⟨policy.calls.length, List.length_pos_iff.mpr some, (called some).symm⟩

def refusing : Script Reply := ⟨fun _ => .error .bufferFull, fun _ clock => clock.advanceTo (clock.now + 7)⟩

theorem retries_agree_refusing :
    let wrapper := wrapped (Middleware.withRetry {} {}) "channel" default refusing
      (sendContext (.background 0) (some (1, 0))) {}
    wrapper.calls = [0, 101000000, 302000000] ∧
      wrapper.result = some (.error (.retriesExhausted 3 .bufferFull)) := by
  have fresh : ∀ opened ∈ some ((1 : Token), 0), Private opened.1 refusing {} := by
    intro opened same
    cases Option.mem_some.mp same
    refine ⟨⟨List.not_mem_nil, fun _ planned => absurd planned List.not_mem_nil⟩, ?_⟩
    intro _ c unknown
    exact unknown.advanceTo _
  obtain ⟨calls, _, result, ends, reports, _, called, _⟩ :=
    retries_agree (r := {}) (by decide) {} "channel" default (fun _ => .zero) refusing (.background 0)
      (some (1, 0)) {} fresh
  have times : (repeating {} (fun _ => .zero) refusing (.background 0) {}).course.calls =
      [0, 101000000, 302000000] := by
    decide +kernel
  intro wrapper
  refine ⟨calls.trans times, ?_⟩
  have failed := called (by rw [times]; exact List.cons_ne_nil _ _)
  rw [reports, times, failed]
  rfl

end Courier.Proofs.RetryAgreement
