import Courier.Simulation.Task

/-! Calls through a wrapper, one step after another: what the wrapper asks of the transport inside, and what it
leaves in the world. -/

namespace Courier.Proofs.MiddlewareCalls
open Simulation

inductive Built : Middleware → Prop where
  | wrap : Built {}
  | withRetry {mw : Middleware} (built : Built mw) (r : SendRetry) : Built (mw.withRetry r)
  | withMetrics {mw : Middleware} (built : Built mw) : Built { mw with metered := true }

/-- A wrapper that repeats sends has more than one attempt. -/
theorem Built.many {mw : Middleware} (built : Built mw) {r : SendRetry} (repeats : mw.retry = some r) :
    1 < r.maxAttempts := by
  induction built with
  | wrap => cases repeats
  | withRetry built other =>
    simp only [Middleware.withRetry, Option.ite_none_right_eq_some] at repeats
    obtain ⟨many, same⟩ := repeats
    cases same
    exact many
  | withMetrics built ih => exact ih repeats

/-! ### Scopes -/

/-- What a send is made under: its context, the span that it has opened, and the world with that span. -/
structure Scope where
  world : World
  ctx : Context
  span : Option Nat

def scope (w : World) (ctx : Context) (m : Message) : Scope :=
  match ctx.span with
  | none => ⟨w, ctx, none⟩
  | some parent =>
    let (fresh, w) := w.fresh
    let (n, w) := w.addSpan (Middleware.openSpan fresh (w.span parent) m)
    let (token, w) := w.freshToken
    ⟨w, ctx.withSpan token n, some n⟩

theorem scope_bare {ctx : Context} (bare : ctx.span = none) (w : World) (m : Message) :
    scope w ctx m = ⟨w, ctx, none⟩ := by
  simp only [scope, bare]

/-- Under a span, a send has a child of it, which is the next span that there is. -/
theorem scope_spanned {ctx : Context} {parent : Nat} (under : ctx.span = some parent) (w : World) (m : Message) :
    ∃ fresh nextId,
      scope w ctx m =
        { world := { w with
            nextId
            clock.nextToken := w.clock.nextToken + 1
            spans := w.spans.push (Middleware.openSpan fresh (w.span parent) m) }
          ctx := ctx.withSpan w.clock.nextToken w.spans.size
          span := some w.spans.size } := by
  refine ⟨w.fresh.1, w.fresh.2.nextId, ?_⟩
  simp only [scope, under]
  rfl

def closing (w : World) (span : Option Nat) (started : Instant) (attempts : Nat) (reply : Reply) : World :=
  match span with
  | none => w
  | some n => w.setSpan n (Middleware.closeSpan (w.span n) w.wallTime ⟨w.clock.now - started⟩ attempts reply)

section
variable (w : World) (ctx : Context) (m : Message) (span : Option Nat) (started : Instant) (attempts : Nat)
  (reply : Reply) (seen : List Observation)

@[simp] theorem scope_devices : (scope w ctx m).world.devices = w.devices := by
  unfold scope
  split <;> rfl

@[simp] theorem scope_seen : (scope w ctx m).world.seen = w.seen := by
  unfold scope
  split <;> rfl

@[simp] theorem closing_devices : (closing w span started attempts reply).devices = w.devices := by
  cases span <;> rfl

@[simp] theorem closing_seen : (closing w span started attempts reply).seen = w.seen := by
  cases span <;> rfl

@[simp] theorem observe_devices : (w.observe seen).devices = w.devices := rfl

theorem counts_observe : (w.observe seen).counts = w.counts ++ Observation.counts seen := by
  simp [World.counts, World.observe, Observation.counts]

variable {w} {v : World}

theorem counts_congr (same : v.seen = w.seen) : v.counts = w.counts := by
  rw [World.counts, same, World.counts]

theorem device_congr (same : v.devices = w.devices) (p : Place) : v.device p = w.device p := by
  rw [World.device, same, World.device]

theorem nameOf_congr (same : v.devices = w.devices) (p : Place) : v.nameOf p = w.nameOf p := by
  have follows : ∀ depth p, World.nameOf.go v p depth = World.nameOf.go w p depth := by
    intro depth
    induction depth with
    | zero => exact fun _ => rfl
    | succ depth ih =>
      intro p
      simp only [World.nameOf.go, device_congr same, ih]
  rw [World.nameOf, follows, same, World.nameOf]

end

/-! ### Steps of a call -/

section
variable {w : World} {p inner : Place} {mw : Middleware} (placed : w.device p = .middleware mw inner) (ctx : Context)
  (m : Message) (span : Option Nat) (started : Instant) (attempt : Nat) (wait : Duration) (reply : Reply)
include placed

theorem operate_send :
    w.operate ctx p (.send m) =
      let s := scope w ctx m
      s.world.afterSendStep s.ctx p inner mw m s.span s.world.clock.now (mw.start (s.world.ended? s.ctx)) := by
  cases spanned : ctx.span with
  | none => simp only [World.operate, placed, World.wrappedOperation, scope, spanned]
  | some parent => simp only [World.operate, placed, World.wrappedOperation, scope, spanned]

/-- Receives and closes are passed on as they are. -/
theorem operate_plain {op : Operation} (plain : ∀ m, op ≠ .send m) :
    w.operate ctx p op = (w, .call ctx (.receive p) inner op) := by
  cases op with
  | send m => exact absurd rfl (plain m)
  | receive => simp only [World.operate, placed, World.wrappedOperation]
  | close => simp only [World.operate, placed, World.wrappedOperation]

theorem resume_sending :
    w.resume ctx reply (.send p m (.sending attempt wait) span started) =
      let turn := mw.afterSend (w.nameOf inner) m attempt wait reply
      (w.observe turn.2).afterSendStep ctx p inner mw m span started turn.1 := by
  simp only [World.resume, placed]

theorem resume_resting (last : TransportError) :
    w.resume ctx reply (.send p m (.resting attempt wait last) span started) =
      w.afterSendStep ctx p inner mw m span started (mw.afterRest attempt wait last (w.ended? ctx)) := by
  simp only [World.resume, placed]

theorem resume_plain :
    w.resume ctx reply (.receive p) =
      (w.observe (mw.afterReceive (w.nameOf inner) reply), .reply reply) := by
  simp only [World.resume, placed]

end

theorem afterSendStep_finish (w : World) (ctx : Context) (p inner : Place) (mw : Middleware) (m : Message)
    (span : Option Nat) (started : Instant) (reply : Reply) (attempts : Nat) :
    w.afterSendStep ctx p inner mw m span started (.finish reply attempts) =
      ((closing w span started attempts reply).observe (mw.afterAll (w.nameOf inner) m attempts reply),
        .reply reply) := by
  rw [← nameOf_congr (closing_devices w span started attempts reply) inner]
  cases span <;> rfl

end Courier.Proofs.MiddlewareCalls
