import Courier.Proofs.MiddlewareCalls
import Courier.Proofs.RetryAgreement
import Courier.Proofs.Runs
import Mathlib.Data.List.Forall2

/-! Wrappers that do not repeat sends are transparent. Whatever the transport inside is, those who call it through
such a wrapper get what they would get if they called it themselves, and it comes to stand where it would stand. A
send that is made under a span is handed on under a child of it, and a transport that looks at its span does what it
does in that child. -/

namespace Courier.Proofs.MiddlewareTransparency
open Simulation MiddlewareCalls RetryAgreement

inductive Plain : Middleware → Prop where
  | wrap : Plain {}
  | withRetry (mw : Middleware) {r : SendRetry} (once : r.maxAttempts ≤ 1) : Plain (mw.withRetry r)
  | withMetrics {mw : Middleware} (plain : Plain mw) : Plain { mw with metered := true }

private theorem Plain.retry {mw : Middleware} (plain : Plain mw) : mw.retry = none := by
  induction plain with
  | wrap => rfl
  | withRetry mw once => exact if_neg (Nat.not_lt.mpr once)
  | withMetrics plain ih => exact ih

/-! ### Transports of any kind -/

/-- What an operation can learn from its context: the time, whether the context has ended, its deadline, and the
span that it is in. -/
structure View where
  now : Instant
  ended : Option ContextError
  deadline : Option Instant
  span : Option Span

def view (clock : Clock) (ctx : Context) (span : Option Span) : View where
  now := clock.now
  ended := clock.ended? ctx
  deadline := ctx.deadline
  span := span

inductive Progress (φ : Type) where
  | busy (activity : φ)
  | done (reply : Reply)

/-- A transport begins an operation, or goes on with one that it is busy with, and changes its state. -/
structure Transport (σ φ : Type) where
  go : Operation → Option φ → View → σ → σ × Progress φ

inductive Event (σ : Type) where
  | call (ctx : Context) (op : Operation)
  | go (call : Nat)
  | pass (t : Instant)
  | cancel (token : Token)
  | outside (change : σ → σ)

/-- What callers and others know: tokens below a number, and the spans that there are. -/
structure Known where
  tokens : Token
  spans : Array Span

def Known.has (k : Known) (ctx : Context) : Bool := ctx.span.all (· < k.spans.size)

def Known.span (k : Known) (ctx : Context) : Option Span := ctx.span.map fun n => k.spans.getD n default

/-! ### Without a wrapper -/

namespace Direct

/-- An event, and the span of the operation that begins with it. -/
abbrev Event (σ : Type) := MiddlewareTransparency.Event σ × Option Span

structure Call (φ : Type) where
  op : Operation
  ctx : Context
  span : Option Span
  activity : Option φ := none
  result : Option Reply := none

structure Course (σ φ : Type) where
  clock : Clock
  inner : σ
  calls : List (Call φ) := []

section
variable {σ φ : Type}

def Call.after (call : Call φ) : Progress φ → Call φ
  | .busy activity => { call with activity := some activity }
  | .done reply => { call with activity := none, result := some reply }

def turn (T : Transport σ φ) (clock : Clock) (inner : σ) (call : Call φ) : σ × Call φ :=
  let (inner, progress) := T.go call.op call.activity (view clock call.ctx call.span) inner
  (inner, call.after progress)

def Course.step (T : Transport σ φ) (k : Known) (c : Course σ φ) : Event σ → Option (Course σ φ)
  | (.call ctx op, span) =>
    if k.has ctx then
      let (inner, call) := turn T c.clock c.inner { op, ctx, span }
      some { c with inner, calls := c.calls ++ [call] }
    else none
  | (.go n, _) => do
    let call ← c.calls[n]?
    if call.result.isNone then
      let (inner, call) := turn T c.clock c.inner call
      some { c with inner, calls := c.calls.set n call }
    else none
  | (.pass t, _) => some { c with clock := c.clock.advanceTo t }
  | (.cancel token, _) => if token < k.tokens then some { c with clock := c.clock.cancel token } else none
  | (.outside change, _) => some { c with inner := change c.inner }

end
end Direct

/-! ### Through a wrapper -/

structure Call (φ : Type) where
  op : Operation
  ctx : Context
  next : Next
  /-- What the wrapper has asked the transport inside for, and under which contexts. -/
  asked : List (Operation × Context) := []
  span : Option Span := none
  activity : Option φ := none

structure Course (σ φ : Type) where
  world : World
  inner : σ
  calls : List (Call φ) := []

def reply? : Next → Option Reply
  | .done (.reply reply) => some reply
  | _ => none

def spanOf (w : World) (ctx : Context) : Option Span := ctx.span.map w.span

def begunIn (w : World) : Next → Option Span
  | .call ctx _ _ _ => spanOf w ctx
  | _ => none

section
variable {σ φ : Type}

/-- The transport inside begins what the wrapper asks for, or goes on with it. When it is done, the wrapper is told. -/
def turn (T : Transport σ φ) (w : World) (inner : σ) (call : Call φ) : Option (World × σ × Call φ) :=
  match call.next with
  | .call ctx frame _ op =>
    let asked := if call.activity.isNone then call.asked ++ [(op, ctx)] else call.asked
    let (inner, progress) := T.go op call.activity (view w.clock ctx (spanOf w ctx)) inner
    match progress with
    | .busy activity => some (w, inner, { call with asked, activity := some activity })
    | .done reply =>
      let (w, next) := w.resume ctx reply frame
      some (w, inner, { call with asked, next, activity := none })
  | _ => none

def Course.step (T : Transport σ φ) (k : Known) (p : Place) (c : Course σ φ) : Event σ → Option (Course σ φ)
  | .call ctx op =>
    if k.has ctx then do
      let (world, next) := c.world.operate ctx p op
      let (world, inner, call) ← turn T world c.inner { op, ctx, next, span := begunIn world next }
      some { world, inner, calls := c.calls ++ [call] }
    else none
  | .go n => do
    let call ← c.calls[n]?
    let (world, inner, call) ← turn T c.world c.inner call
    some { world, inner, calls := c.calls.set n call }
  | .pass t => some { c with world.clock := c.world.clock.advanceTo t }
  | .cancel token =>
    if token < k.tokens then some { c with world.clock := c.world.clock.cancel token } else none
  | .outside change => some { c with inner := change c.inner }

def Call.unwrapped (call : Call φ) : Direct.Call φ :=
  ⟨call.op, call.ctx, call.span, call.activity, reply? call.next⟩

/-- A clock without the tokens that the wrapper has taken. -/
def shared (clock : Clock) : Clock := { clock with nextToken := 0 }

/-- What is left when the wrapper is taken away. -/
def Course.unwrapped (c : Course σ φ) : Direct.Course σ φ where
  clock := shared c.world.clock
  inner := c.inner
  calls := c.calls.map Call.unwrapped

end

/-! ### What is handed on -/

def outcome : Reply → String
  | .ok _ => "ok"
  | .error _ => "error"

/-- A span below another one. It ends with the result of its send, and not before. -/
structure Child (parent child : Span) (result : Option Reply) : Prop where
  trace : child.traceId = parent.traceId
  below : child.parentId = some parent.spanId
  operation : child.operation = "transport.send"
  status : child.status = result.map outcome
  open_ : child.finish = 0 ↔ result = none

/-- The spans that operations have with the wrapper: a send under a span has an open child of it, and everything else
what the caller has. -/
inductive Lends {σ : Type} (k : Known) : Event σ → Direct.Event σ → Prop where
  | child {m : Message} {ctx : Context} {parent : Nat} {child : Span} (under : ctx.span = some parent)
      (below : Child (k.spans.getD parent default) child none) :
      Lends k (.call ctx (.send m)) (.call ctx (.send m), some child)
  | bare {m : Message} {ctx : Context} (alone : ctx.span = none) :
      Lends k (.call ctx (.send m)) (.call ctx (.send m), none)
  | own {op : Operation} {ctx : Context} (plain : ∀ m, op ≠ .send m) :
      Lends k (.call ctx op) (.call ctx op, k.span ctx)
  | other {event : Event σ} (quiet : ∀ ctx op, event ≠ .call ctx op) : Lends k event (event, none)

inductive Handed (k : Known) (w : World) (result : Option Reply) : Operation → Context → Context → Prop where
  | passed {op : Operation} {ctx : Context} (known : k.has ctx = true) (plain : ∀ m, op ≠ .send m) :
      Handed k w result op ctx ctx
  | bare {m : Message} {ctx : Context} (none : ctx.span = none) : Handed k w result (.send m) ctx ctx
  | spanned {m : Message} {ctx : Context} {parent n : Nat} {token : Token} (under : ctx.span = some parent)
      (known : parent < k.spans.size) (own : k.tokens ≤ token) (new : k.spans.size ≤ n) (there : n < w.spans.size)
      (child : Child (k.spans.getD parent default) (w.span n) result) :
      Handed k w result (.send m) ctx (ctx.withSpan token n)

def own? : Operation → Context → Option Nat
  | .send _, handed => handed.span
  | _, _ => none

inductive Frames (p : Place) : Operation → Context → Frame → Prop where
  | send {m : Message} {handed : Context} {started : Instant} :
      Frames p (.send m) handed (.send p m (.sending 1 .zero) handed.span started)
  | plain {op : Operation} {handed : Context} (plain : ∀ m, op ≠ .send m) : Frames p op handed (.receive p)

structure Below (bound : Token) (clock : Clock) : Prop where
  cancelled : ∀ token ∈ clock.cancelled, token < bound
  planned : ∀ entry ∈ clock.planned, entry.2 < bound

section
variable {bound token : Token} {clock : Clock}

private theorem below_shared : Below bound (shared clock) ↔ Below bound clock :=
  ⟨fun below => ⟨below.cancelled, below.planned⟩, fun below => ⟨below.cancelled, below.planned⟩⟩

private theorem Below.unknown (below : Below bound clock) (later : bound ≤ token) : Unknown token clock := by
  refine ⟨fun known => ?_, fun entry planned same => ?_⟩
  · exact absurd (below.cancelled token known) (Nat.not_lt.mpr later)
  · exact absurd (same ▸ below.planned entry planned) (Nat.not_lt.mpr later)

theorem Below.cancel (below : Below bound clock) (known : token < bound) : Below bound (clock.cancel token) where
  cancelled other member := by
    rcases List.mem_cons.mp member with rfl | before
    · exact known
    · exact below.cancelled other before
  planned := below.planned

theorem Below.advanceTo (below : Below bound clock) (t : Instant) : Below bound (clock.advanceTo t) := by
  simp only [Clock.advanceTo, List.partition_eq_filter_filter]
  refine ⟨?_, fun entry member => below.planned entry (List.mem_filter.mp member).1⟩
  intro token member
  rcases List.mem_append.mp member with due | before
  · obtain ⟨entry, planned, rfl⟩ := List.mem_map.mp due
    exact below.planned entry (List.mem_filter.mp planned).1
  · exact below.cancelled token before

end

section
variable {k : Known} {w after : World} {result : Option Reply} {op : Operation} {ctx handed : Context}

private theorem Handed.ended (hands : Handed k w result op ctx handed) (below : Below k.tokens w.clock) :
    w.clock.ended? handed = w.clock.ended? ctx := by
  cases hands with
  | passed known plain => rfl
  | bare none => rfl
  | spanned under known own new there child => exact ended_withSpan (below.unknown own) ctx _

private theorem Handed.deadline (hands : Handed k w result op ctx handed) : handed.deadline = ctx.deadline := by
  cases hands <;> rfl

private theorem Handed.same (hands : Handed k w result op ctx handed) (alone : (∀ m, op ≠ .send m) ∨ ctx.span = none) :
    handed = ctx := by
  cases hands with
  | passed known plain => rfl
  | bare none => rfl
  | spanned under known own new there child =>
    rcases alone with plain | none
    · exact absurd rfl (plain _)
    · cases none.symm.trans under

private theorem Handed.child (hands : Handed k w result op ctx handed) (m : Message) (parent : Nat) (sends : op = .send m)
    (under : ctx.span = some parent) :
    ∃ n, handed.span = some n ∧ Child (k.spans.getD parent default) (w.span n) result := by
  cases hands with
  | passed known plain => exact absurd sends (plain m)
  | bare none => cases none.symm.trans under
  | @spanned _ _ other n token same known own new there child =>
    cases under.symm.trans same
    exact ⟨n, rfl, child⟩

private theorem view_handed (hands : Handed k w result op ctx handed) (below : Below k.tokens w.clock) (span : Option Span) :
    view w.clock handed span = view (shared w.clock) ctx span := by
  have ended : w.clock.ended? handed = (shared w.clock).ended? ctx := hands.ended below
  rw [view, ended, hands.deadline]
  rfl

private theorem Handed.lends {σ : Type} (hands : Handed k w none op ctx handed)
    (parents : ∀ n < k.spans.size, w.span n = k.spans.getD n default) :
    Lends (σ := σ) k (.call ctx op) (.call ctx op, spanOf w handed) := by
  cases hands with
  | passed known plain =>
    have same : spanOf w ctx = k.span ctx := by
      cases span : ctx.span with
      | none => simp only [spanOf, Known.span, span, Option.map_none]
      | some n =>
        have inside : n < k.spans.size := by simpa [Known.has, span] using known
        simp only [spanOf, Known.span, span, Option.map_some, parents n inside]
    rw [same]
    exact .own plain
  | bare none =>
    rw [spanOf, none, Option.map_none]
    exact .bare none
  | spanned under known own new there child => exact .child under child

end

/-! ### Steps of a wrapper -/

structure Spared (own : Option Nat) (w after : World) : Prop where
  size : w.spans.size ≤ after.spans.size
  spans : ∀ n < w.spans.size, own ≠ some n → after.span n = w.span n

/-- What a step of the wrapper leaves as it was: the devices, the clock but for new tokens, and all spans but one. -/
structure Kept (own : Option Nat) (w after : World) : Prop extends Spared own w after where
  devices : after.devices = w.devices
  clock : shared after.clock = shared w.clock
  tokens : w.clock.nextToken ≤ after.clock.nextToken

section
variable (w : World) (n : Nat) (s : Span)

private theorem span_addSpan_new : (w.addSpan s).2.span w.spans.size = s := by
  simp [World.span, World.addSpan]

private theorem span_addSpan_old (inside : n < w.spans.size) : (w.addSpan s).2.span n = w.span n := by
  simp [World.span, World.addSpan, Array.getElem_push, inside, Nat.lt_succ_of_lt inside]

private theorem size_setSpan : (w.setSpan n s).spans.size = w.spans.size := by
  simp [World.setSpan]

private theorem span_setSpan_self (inside : n < w.spans.size) : (w.setSpan n s).span n = s := by
  simp [World.span, World.setSpan, inside]

private theorem span_setSpan_other {m : Nat} (other : n ≠ m) : (w.setSpan n s).span m = w.span m := by
  simp [World.span, World.setSpan, Array.getD_getElem?, other]

end

section
variable {k : Known} {w after : World} {own : Option Nat} {result : Option Reply} {op : Operation}
  {ctx handed : Context}

theorem Kept.refl (own : Option Nat) (w : World) : Kept own w w :=
  ⟨⟨Nat.le_refl _, fun _ _ _ => rfl⟩, rfl, rfl, Nat.le_refl _⟩

private theorem Handed.kept (hands : Handed k w result op ctx handed) (kept : Spared own w after)
    (apart : ∀ n, own = some n → own? op handed ≠ some n) : Handed k after result op ctx handed := by
  cases hands with
  | passed known plain => exact .passed known plain
  | bare none => exact .bare none
  | @spanned m _ parent n token under known fresh new there child =>
    have same : after.span n = w.span n := kept.spans n there fun mine => apart n mine rfl
    exact .spanned under known fresh new (Nat.lt_of_lt_of_le there kept.size) (same ▸ child)

private theorem Handed.spanOf_kept (hands : Handed k w result op ctx handed) (kept : Spared own w after)
    (apart : ∀ n, own = some n → own? op handed ≠ some n) (size : k.spans.size ≤ w.spans.size)
    (new : ∀ n, own = some n → k.spans.size ≤ n) : spanOf after handed = spanOf w handed := by
  cases hands with
  | passed inside plain =>
    cases span : ctx.span with
    | none => simp only [spanOf, span, Option.map_none]
    | some n =>
      have inside : n < k.spans.size := by simpa [Known.has, span] using inside
      have same := kept.spans n (Nat.lt_of_lt_of_le inside size) fun mine => Nat.not_lt.mpr (new n mine) inside
      simp only [spanOf, span, Option.map_some, same]
  | bare none => simp only [spanOf, none, Option.map_none]
  | @spanned _ _ parent n token under _ own fresh there child =>
    exact congrArg some (kept.spans n there fun mine => apart n mine rfl)

private theorem Handed.fresh (hands : Handed k w result op ctx handed) {n : Nat} (mine : own? op handed = some n) :
    k.spans.size ≤ n ∧ n < w.spans.size := by
  cases hands with
  | passed known plain =>
    cases op with
    | send m => exact absurd rfl (plain m)
    | receive => cases mine
    | close => cases mine
  | bare none => cases none.symm.trans mine
  | spanned under known fresh new there child =>
    cases mine
    exact ⟨new, there⟩

end

section
variable {k : Known} {w : World} {p inner : Place} {mw : Middleware} {ctx : Context} {op : Operation}

private theorem child_open (fresh : Fresh) (parent : Span) (m : Message) :
    Child parent (Middleware.openSpan fresh parent m) none :=
  ⟨rfl, rfl, rfl, rfl, iff_of_true rfl rfl⟩

private theorem child_close {parent child : Span} (opened : Child parent child none) (w : World) (elapsed : Duration)
    (attempts : Nat) (reply : Reply) :
    Child parent (Middleware.closeSpan child w.wallTime elapsed attempts reply) (some reply) := by
  have later : w.wallTime ≠ 0 := by
    simp only [World.wallTime, World.epoch]
    omega
  cases reply with
  | ok found => exact ⟨opened.trace, opened.below, opened.operation, rfl, iff_of_false later nofun⟩
  | error why => exact ⟨opened.trace, opened.below, opened.operation, rfl, iff_of_false later nofun⟩

private theorem operate_hands (once : mw.retry = none) (placed : w.device p = .middleware mw inner)
    (known : k.has ctx = true) (tokens : k.tokens ≤ w.clock.nextToken) (spans : k.spans.size ≤ w.spans.size)
    (parents : ∀ n < k.spans.size, w.span n = k.spans.getD n default) (op : Operation) :
    ∃ after handed frame, w.operate ctx p op = (after, .call handed frame inner op) ∧ Frames p op handed frame ∧
      Handed k after none op ctx handed ∧ Kept none w after ∧ ∀ n, own? op handed = some n → w.spans.size ≤ n := by
  by_cases sends : ∃ m, op = .send m
  · obtain ⟨m, rfl⟩ := sends
    have starts (ended : Option ContextError) : mw.start ended = .send (.sending 1 .zero) := by
      rw [Middleware.start, once]
    simp only [operate_send placed, starts]
    cases under : ctx.span with
    | none =>
      rw [scope_bare under]
      refine ⟨w, ctx, _, rfl, ?_, .bare under, .refl none w, ?_⟩
      · have frames : Frames p (.send m) ctx (.send p m (.sending 1 .zero) ctx.span w.clock.now) := .send
        rwa [under] at frames
      · intro n mine
        cases under.symm.trans mine
    | some parent =>
      have inside : parent < k.spans.size := by simpa [Known.has, under] using known
      obtain ⟨fresh, nextId, opened⟩ := scope_spanned under w m
      rw [opened]
      refine ⟨_, _, _, rfl, .send, .spanned under inside tokens spans ?_ ?_, ?_, ?_⟩
      · simp
      · rw [← parents parent inside]
        have new := child_open fresh (w.span parent) m
        rwa [← span_addSpan_new w (Middleware.openSpan fresh (w.span parent) m)] at new
      · exact ⟨⟨by simp, fun n there _ => span_addSpan_old w n _ there⟩, rfl, rfl, Nat.le_succ _⟩
      · intro n mine
        cases mine
        exact Nat.le_refl _
  · have plain : ∀ m, op ≠ .send m := fun m same => sends ⟨m, same⟩
    refine ⟨w, ctx, _, operate_plain placed ctx plain, .plain plain, .passed known plain, .refl none w, ?_⟩
    intro n mine
    cases op with
    | send m => exact absurd rfl (plain m)
    | receive => cases mine
    | close => cases mine

private theorem resume_ends (once : mw.retry = none) (placed : w.device p = .middleware mw inner) {handed : Context}
    {frame : Frame} (frames : Frames p op handed frame) (hands : Handed k w none op ctx handed) (reply : Reply) :
    ∃ after, w.resume handed reply frame = (after, .reply reply) ∧ Kept (own? op handed) w after ∧
      Handed k after (some reply) op ctx handed := by
  cases frames with
  | @send m _ started =>
    have ends : mw.afterSend (w.nameOf inner) m 1 .zero reply = (.finish reply 1, []) := by
      unfold Middleware.afterSend
      rw [once]
    simp only [resume_sending placed, ends, afterSendStep_finish]
    refine ⟨_, rfl, ?_⟩
    cases hands with
    | passed known plain => exact absurd rfl (plain m)
    | bare none =>
      rw [own?, none]
      exact ⟨⟨⟨Nat.le_refl _, fun _ _ _ => rfl⟩, rfl, rfl, Nat.le_refl _⟩, .bare none⟩
    | @spanned _ _ parent n token under known own new there child =>
      have child := child_close child w ⟨w.clock.now - started⟩ 1 reply
      refine ⟨⟨⟨?_, ?_⟩, rfl, rfl, Nat.le_refl _⟩, .spanned under known own new ?_ ?_⟩
      · exact Nat.le_of_eq (size_setSpan w n _).symm
      · intro j there apart
        exact span_setSpan_other w n _ fun same => apart (congrArg some same)
      · exact Nat.lt_of_lt_of_eq there (size_setSpan w n _).symm
      · change Child _ ((w.setSpan n _).span n) _
        rwa [span_setSpan_self w n _ there]
  | plain plain =>
    rw [resume_plain placed]
    refine ⟨_, rfl, ⟨⟨Nat.le_refl _, fun _ _ _ => rfl⟩, rfl, rfl, Nat.le_refl _⟩, ?_⟩
    cases hands with
    | passed known _ => exact .passed known plain
    | bare => exact absurd rfl (plain _)
    | spanned => exact absurd rfl (plain _)

end

/-! ### Calls in progress -/

def Call.own? {φ : Type} (call : Call φ) : Option Nat :=
  call.asked.head?.bind fun (op, handed) => MiddlewareTransparency.own? op handed

/-- Where a call stands. It has asked for its operation once, and waits for it or has its result. -/
inductive Stands {φ : Type} (k : Known) (w : World) (p inner : Place) : Call φ → Prop where
  | waiting {op : Operation} {ctx handed : Context} {frame : Frame} {activity : φ} (frames : Frames p op handed frame)
      (hands : Handed k w none op ctx handed) :
      Stands k w p inner ⟨op, ctx, .call handed frame inner op, [(op, handed)], spanOf w handed, some activity⟩
  | done {op : Operation} {ctx handed : Context} {reply : Reply} {span : Option Span}
      (hands : Handed k w (some reply) op ctx handed) :
      Stands k w p inner ⟨op, ctx, .done (.reply reply), [(op, handed)], span, none⟩

/-- A world with the wrapper, and with all that callers know as they know it. -/
structure Home (k : Known) (mw : Middleware) (p inner : Place) (w : World) : Prop where
  placed : w.device p = .middleware mw inner
  below : Below k.tokens w.clock
  tokens : k.tokens ≤ w.clock.nextToken
  size : k.spans.size ≤ w.spans.size
  parents : ∀ n < k.spans.size, w.span n = k.spans.getD n default

structure Valid {σ φ : Type} (k : Known) (mw : Middleware) (p inner : Place) (c : Course σ φ) : Prop where
  home : Home k mw p inner c.world
  stand : ∀ call ∈ c.calls, Stands k c.world p inner call
  apart : ∀ (i j : Nat) (one other : Call φ) (n : Nat), c.calls[i]? = some one → c.calls[j]? = some other → i ≠ j →
    one.own? = some n → other.own? ≠ some n

section
variable {σ φ : Type} {k : Known} {mw : Middleware} {p inner : Place} {w after : World} {own : Option Nat}
  {call : Call φ}

private theorem Home.kept (home : Home k mw p inner w) (kept : Kept own w after) (new : ∀ n, own = some n → k.spans.size ≤ n) :
    Home k mw p inner after where
  placed := (device_congr kept.devices p).trans home.placed
  below := by
    rw [← below_shared, kept.clock, below_shared]
    exact home.below
  tokens := Nat.le_trans home.tokens kept.tokens
  size := Nat.le_trans home.size kept.size
  parents n there := by
    rw [kept.spans n (Nat.lt_of_lt_of_le there home.size), home.parents n there]
    exact fun mine => Nat.not_lt.mpr (new n mine) there

theorem Stands.kept (stands : Stands k w p inner call) (kept : Spared own w after)
    (apart : ∀ n, own = some n → call.own? ≠ some n) (size : k.spans.size ≤ w.spans.size)
    (new : ∀ n, own = some n → k.spans.size ≤ n) : Stands k after p inner call := by
  cases stands with
  | waiting frames hands =>
    rw [← hands.spanOf_kept kept apart size new]
    exact .waiting frames (hands.kept kept apart)
  | done hands => exact .done (hands.kept kept apart)

theorem Stands.fresh (stands : Stands k w p inner call) {n : Nat} (mine : call.own? = some n) :
    k.spans.size ≤ n ∧ n < w.spans.size := by
  cases stands with
  | waiting frames hands => exact hands.fresh mine
  | done hands => exact hands.fresh mine

private theorem Stands.handed (stands : Stands k w p inner call) :
    ∃ handed, call.asked = [(call.op, handed)] ∧ Handed k w (reply? call.next) call.op call.ctx handed := by
  cases stands with
  | waiting frames hands => exact ⟨_, rfl, hands⟩
  | done hands => exact ⟨_, rfl, hands⟩

/-- The transport inside does for the wrapper what it would do for the caller in the same span. -/
theorem turn_waiting (once : mw.retry = none) (home : Home k mw p inner w) (T : Transport σ φ) (s : σ)
    {op : Operation} {ctx handed : Context} {frame : Frame} (frames : Frames p op handed frame)
    (hands : Handed k w none op ctx handed) (before : List (Operation × Context)) (activity : Option φ)
    (asked : (if activity.isNone then before ++ [(op, handed)] else before) = [(op, handed)]) :
    let span := spanOf w handed
    let direct := Direct.turn T (shared w.clock) s { op, ctx, span, activity }
    ∃ after later,
      turn T w s ⟨op, ctx, .call handed frame inner op, before, span, activity⟩ = some (after, direct.1, later) ∧
      later.unwrapped = direct.2 ∧ Kept (own? op handed) w after ∧ Stands k after p inner later ∧
      later.own? = own? op handed := by
  obtain ⟨go⟩ := T
  simp only [turn, Direct.turn, view_handed hands home.below, asked]
  rcases go op activity (view (shared w.clock) ctx (spanOf w handed)) s with ⟨s, activity | reply⟩
  · exact ⟨w, _, rfl, rfl, .refl _ w, .waiting frames hands, rfl⟩
  · obtain ⟨after, ends, kept, hands⟩ := resume_ends once home.placed frames hands reply
    simp only [ends]
    exact ⟨after, _, rfl, rfl, kept, .done hands, rfl⟩

end

section
variable {σ φ : Type} {k : Known} {mw : Middleware} {p inner : Place} {c : Course σ φ} {opened after : World}
  {own : Option Nat} {later : Call φ}

/-- A call that begins has a span of its own, if it has one at all, which no other call knows. -/
theorem Valid.begun (valid : Valid k mw p inner c) (opens : Kept none c.world opened) (kept : Kept own opened after)
    (new : ∀ n, own = some n → c.world.spans.size ≤ n) (stands : Stands k after p inner later)
    (mine : later.own? = own) (s : σ) : Valid k mw p inner ⟨after, s, c.calls ++ [later]⟩ := by
  -- All spans that other calls have opened were there when this one was opened.
  have older {call : Call φ} (member : call ∈ c.calls) {n : Nat} (its : call.own? = some n) : own ≠ some n := by
    intro same
    exact Nat.not_lt.mpr (new n same) ((valid.stand call member).fresh its).2
  have home := valid.home.kept opens nofun
  have unknown (n : Nat) (same : own = some n) : k.spans.size ≤ n := (stands.fresh (mine.trans same)).1
  refine ⟨home.kept kept unknown, ?_, ?_⟩
  · intro call member
    rcases List.mem_append.mp member with before | last
    · have meanwhile := (valid.stand call before).kept opens.toSpared nofun valid.home.size nofun
      exact meanwhile.kept kept.toSpared (fun n same its => older before its same) home.size unknown
    · cases List.mem_singleton.mp last
      exact stands
  · intro i j one other n here there different its same
    rcases found_append here with before | ⟨rfl, rfl⟩ <;> rcases found_append there with early | ⟨rfl, rfl⟩
    · exact valid.apart i j one other n before early different its same
    · exact older (List.mem_of_getElem? before) its (mine ▸ same)
    · exact older (List.mem_of_getElem? early) same (mine ▸ its)
    · exact different rfl

/-- A call that goes on changes no span but its own. -/
theorem Valid.went (valid : Valid k mw p inner c) {n : Nat} {call : Call φ} (found : c.calls[n]? = some call)
    (kept : Kept own c.world after) (its : call.own? = own) (stands : Stands k after p inner later)
    (mine : later.own? = own) (s : σ) : Valid k mw p inner ⟨after, s, c.calls.set n later⟩ := by
  have unknown (m : Nat) (same : own = some m) : k.spans.size ≤ m := (stands.fresh (mine.trans same)).1
  refine ⟨valid.home.kept kept unknown, ?_, ?_⟩
  · intro other member
    obtain ⟨i, there⟩ := List.mem_iff_getElem?.mp member
    rcases found_set found there with ⟨_, rfl⟩ | ⟨different, there⟩
    · exact stands
    · have apart (m : Nat) (same : own = some m) : other.own? ≠ some m :=
        valid.apart n i call other m found there different.symm (its.trans same)
      exact (valid.stand other (List.mem_of_getElem? there)).kept kept.toSpared apart valid.home.size unknown
  · intro i j one other m here there different
    rcases found_set found here with ⟨rfl, rfl⟩ | ⟨_, first⟩ <;>
      rcases found_set found there with ⟨rfl, rfl⟩ | ⟨_, second⟩
    · exact absurd rfl different
    · rw [mine, ← its]
      exact valid.apart i j call other m found second different
    · rw [mine, ← its]
      exact valid.apart i j one call m first found different
    · exact valid.apart i j one other m first second different

end

/-! ### Steps and runs -/

section
variable {σ φ : Type} {k : Known} {mw : Middleware} {p inner : Place} {c : Course σ φ}

/-- An event happens with the wrapper and without it, and does the same to the transport inside. Without the wrapper
the operation is given the span that it has with the wrapper. -/
def Agrees (T : Transport σ φ) (k : Known) (mw : Middleware) (p inner : Place) (c : Course σ φ)
    (event : Event σ) : Prop :=
  ∃ lent, Lends k event lent ∧ c.unwrapped.step T k lent = (c.step T k p event).map Course.unwrapped ∧
    ∀ after, c.step T k p event = some after → Valid k mw p inner after

private theorem Agrees.of_step {T : Transport σ φ} {event : Event σ} {lent : Direct.Event σ} {after : Course σ φ}
    (lends : Lends k event lent) (stepped : c.step T k p event = some after)
    (direct : c.unwrapped.step T k lent = some after.unwrapped) (valid : Valid k mw p inner after) :
    Agrees T k mw p inner c event := by
  refine ⟨lent, lends, by rw [stepped, direct, Option.map_some], fun other same => ?_⟩
  cases stepped.symm.trans same
  exact valid

private theorem Agrees.of_none {T : Transport σ φ} {event : Event σ} {lent : Direct.Event σ} (lends : Lends k event lent)
    (stepped : c.step T k p event = none) (direct : c.unwrapped.step T k lent = none) :
    Agrees T k mw p inner c event := by
  refine ⟨lent, lends, by rw [stepped, direct, Option.map_none], fun other same => ?_⟩
  cases stepped.symm.trans same

private theorem lends_exists (k : Known) (event : Event σ) : ∃ lent, Lends k event lent ∧ lent.1 = event := by
  cases event with
  | call ctx op =>
    by_cases sends : ∃ m, op = .send m
    · obtain ⟨m, rfl⟩ := sends
      cases under : ctx.span with
      | none => exact ⟨_, .bare under, rfl⟩
      | some parent => exact ⟨_, .child under (child_open ⟨"", "", 0⟩ (k.spans.getD parent default) m), rfl⟩
    · exact ⟨_, .own fun m same => sends ⟨m, same⟩, rfl⟩
  | go n => exact ⟨_, .other nofun, rfl⟩
  | pass t => exact ⟨_, .other nofun, rfl⟩
  | cancel token => exact ⟨_, .other nofun, rfl⟩
  | outside change => exact ⟨_, .other nofun, rfl⟩

private theorem call_agrees (once : mw.retry = none) (T : Transport σ φ) (valid : Valid k mw p inner c) (ctx : Context)
    (op : Operation) : Agrees T k mw p inner c (.call ctx op) := by
  by_cases known : k.has ctx = true
  · obtain ⟨opened, handed, frame, operates, frames, hands, opens, new⟩ :=
      operate_hands once valid.home.placed known valid.home.tokens valid.home.size valid.home.parents op
    have home := valid.home.kept opens nofun
    obtain ⟨after, later, turned, same, kept, stands, mine⟩ := turn_waiting once home T c.inner frames hands [] none rfl
    let span := spanOf opened handed
    have stepped : c.step T k p (.call ctx op) =
        some ⟨after, (Direct.turn T (shared opened.clock) c.inner { op, ctx, span }).1, c.calls ++ [later]⟩ := by
      simp only [Course.step, known, if_true, operates, begunIn, turned, Option.bind_eq_bind, Option.bind_some]
      rfl
    refine .of_step (hands.lends home.parents) stepped ?_ (valid.begun opens kept new stands mine _)
    simp [Course.unwrapped, Direct.Course.step, known, same, kept.clock, opens.clock, span]
  · obtain ⟨⟨event, span⟩, lends, same⟩ := lends_exists k (.call (σ := σ) ctx op)
    obtain rfl : event = _ := same
    exact .of_none lends (if_neg known) (if_neg known)

private theorem go_agrees (once : mw.retry = none) (T : Transport σ φ) (valid : Valid k mw p inner c) (n : Nat) :
    Agrees T k mw p inner c (.go n) := by
  have lends : Lends k (.go (σ := σ) n) (.go n, none) := .other nofun
  cases found : c.calls[n]? with
  | none =>
    exact .of_none lends (by simp [Course.step, found]) (by simp [Direct.Course.step, Course.unwrapped, found])
  | some call =>
    have stands := valid.stand call (List.mem_of_getElem? found)
    cases stands with
    | @waiting op ctx handed frame activity frames hands =>
      obtain ⟨after, later, turned, same, kept, stands, mine⟩ :=
        turn_waiting once valid.home T c.inner frames hands [(op, handed)] (some activity) rfl
      let call : Direct.Call φ := { op, ctx, span := spanOf c.world handed, activity := some activity }
      have stepped : c.step T k p (.go n) =
          some ⟨after, (Direct.turn T (shared c.world.clock) c.inner call).1, c.calls.set n later⟩ := by
        simp only [Course.step, found, turned, Option.bind_eq_bind, Option.bind_some]
        rfl
      have direct : c.unwrapped.calls[n]? = some call := by
        simp only [Course.unwrapped, List.getElem?_map, found]
        rfl
      refine .of_step lends stepped ?_ (valid.went found kept rfl stands mine _)
      simp only [Direct.Course.step, direct, Option.bind_eq_bind, Option.bind_some]
      simp [Course.unwrapped, same, kept.clock, List.map_set, call]
    | done hands =>
      refine .of_none lends ?_ ?_
      · simp [Course.step, found, turn]
      · simp [Direct.Course.step, Course.unwrapped, found, Call.unwrapped, reply?]

private theorem clock_agrees {T : Transport σ φ} {event : Event σ} {clock : Clock} (quiet : ∀ ctx op, event ≠ .call ctx op)
    (stepped : c.step T k p event = some { c with world.clock := clock })
    (direct : c.unwrapped.step T k (event, none) = some { c.unwrapped with clock := shared clock })
    (valid : Valid k mw p inner c) (below : Below k.tokens clock) (tokens : k.tokens ≤ clock.nextToken) :
    Agrees T k mw p inner c event := by
  have home : Home k mw p inner { c.world with clock } :=
    ⟨valid.home.placed, below, tokens, valid.home.size, valid.home.parents⟩
  have spared : Spared none c.world { c.world with clock } := ⟨Nat.le_refl _, fun _ _ _ => rfl⟩
  refine .of_step (.other quiet) stepped direct ⟨home, fun call member => ?_, valid.apart⟩
  exact (valid.stand call member).kept spared nofun valid.home.size nofun

theorem step_agrees (once : mw.retry = none) (T : Transport σ φ) (valid : Valid k mw p inner c) (event : Event σ) :
    Agrees T k mw p inner c event := by
  cases event with
  | call ctx op => exact call_agrees once T valid ctx op
  | go n => exact go_agrees once T valid n
  | pass t => exact clock_agrees nofun rfl rfl valid (valid.home.below.advanceTo t) valid.home.tokens
  | cancel token =>
    by_cases known : token < k.tokens
    · exact clock_agrees nofun (if_pos known) (if_pos known) valid (valid.home.below.cancel known) valid.home.tokens
    · exact .of_none (.other nofun) (if_neg known) (if_neg known)
  | outside change => exact .of_step (.other nofun) rfl rfl ⟨valid.home, valid.stand, valid.apart⟩

/-- The spans that are lent depend on the events before, as the wrapper gives each a name that nothing has yet. -/
theorem run_agrees (once : mw.retry = none) (T : Transport σ φ) (valid : Valid k mw p inner c)
    (events : List (Event σ)) :
    ∃ lent, List.Forall₂ (Lends k) events lent ∧
      lent.foldlM (Direct.Course.step T k) c.unwrapped = (events.foldlM (Course.step T k p) c).map Course.unwrapped := by
  induction events generalizing c with
  | nil => exact ⟨[], .nil, rfl⟩
  | cons event events ih =>
    obtain ⟨span, lends, direct, next⟩ := step_agrees once T valid event
    simp only [List.foldlM_cons]
    cases stepped : c.step T k p event with
    | none =>
      choose lend lends' _ using lends_exists (σ := σ) k
      refine ⟨span :: events.map lend, .cons lends ?_, ?_⟩
      · rw [List.forall₂_map_right_iff]
        exact List.forall₂_same.mpr fun event _ => lends' event
      · rw [List.foldlM_cons, direct, stepped]
        rfl
    | some after =>
      obtain ⟨lent, all, same⟩ := ih (next after stepped)
      refine ⟨span :: lent, .cons lends all, ?_⟩
      rw [List.foldlM_cons, direct, stepped]
      exact same

/-! ### Transports that do not look at their span -/

/-- All that a span tells of itself is its trace. -/
def faint (s : Span) : Span := { (default : Span) with traceId := s.traceId }

def View.faint (seen : View) : View := { seen with span := seen.span.map MiddlewareTransparency.faint }

/-- A transport that learns nothing from the span that it is in but the trace. -/
def Oblivious (T : Transport σ φ) : Prop :=
  ∀ op activity seen s, T.go op activity seen s = T.go op activity seen.faint s

/-- The event as it is without a wrapper: an operation has the span of its caller. -/
def Known.own (k : Known) : Event σ → Direct.Event σ
  | .call ctx op => (.call ctx op, k.span ctx)
  | event => (event, none)

namespace Direct

def Event.faint (event : Event σ) : Event σ := (event.1, event.2.map MiddlewareTransparency.faint)

def Call.faint (call : Call φ) : Call φ := { call with span := call.span.map MiddlewareTransparency.faint }

def Course.faint (c : Course σ φ) : Course σ φ := { c with calls := c.calls.map Call.faint }

section
variable {T : Transport σ φ} (oblivious : Oblivious T) (k : Known)
include oblivious

private theorem turn_faint (clock : Clock) (inner : σ) (call : Call φ) :
    turn T clock inner call.faint = ((turn T clock inner call).1, (turn T clock inner call).2.faint) := by
  have same : T.go call.op call.activity (view clock call.ctx call.span) inner =
      T.go call.faint.op call.faint.activity (view clock call.faint.ctx call.faint.span) inner :=
    oblivious call.op call.activity (view clock call.ctx call.span) inner
  rw [turn, turn, ← same]
  rcases T.go call.op call.activity (view clock call.ctx call.span) inner with ⟨s, activity | reply⟩ <;> rfl

theorem step_faint (c : Course σ φ) (event : Event σ) :
    c.faint.step T k event.faint = (c.step T k event).map Course.faint := by
  obtain ⟨event, span⟩ := event
  cases event with
  | call ctx op =>
    have turned := turn_faint oblivious c.clock c.inner { op, ctx, span }
    simp only [Call.faint] at turned
    by_cases known : k.has ctx = true
    · simp [Course.step, Event.faint, Course.faint, known, turned, Call.faint]
    · simp [Course.step, Event.faint, known]
  | go n =>
    cases found : c.calls[n]? with
    | none => simp [Course.step, Event.faint, Course.faint, found]
    | some call =>
      have turned := turn_faint oblivious c.clock c.inner call
      have results : call.faint.result = call.result := rfl
      cases ended : call.result with
      | none => simp [Course.step, Event.faint, Course.faint, found, turned, results, ended, List.map_set]
      | some reply => simp [Course.step, Event.faint, Course.faint, found, results, ended]
  | pass t => rfl
  | cancel token =>
    by_cases known : token < k.tokens
    · simp [Course.step, Event.faint, Course.faint, known]
    · simp [Course.step, Event.faint, known]
  | outside change => rfl

theorem run_faint (c : Course σ φ) (events : List (Event σ)) :
    (events.map Event.faint).foldlM (Course.step T k) c.faint =
      (events.foldlM (Course.step T k) c).map Course.faint := by
  rw [List.foldlM_map]
  refine foldlM_map (fun _ => True) ?_ trivial events
  intro before event _
  exact ⟨step_faint oblivious k before event, fun _ _ => trivial⟩

end
end Direct

private theorem Lends.faint {event : Event σ} {lent : Direct.Event σ} (lends : Lends k event lent) :
    Direct.Event.faint lent = Direct.Event.faint (k.own event) := by
  cases lends with
  | child under below =>
    simp only [Known.own, Known.span, under, Direct.Event.faint, Option.map_some, MiddlewareTransparency.faint,
      below.trace]
  | bare alone => simp only [Known.own, Known.span, alone, Option.map_none]
  | own plain => rfl
  | other quiet =>
    cases event with
    | call ctx op => exact absurd rfl (quiet ctx op)
    | go n => rfl
    | pass t => rfl
    | cancel token => rfl
    | outside change => rfl

private theorem lent_faint {events : List (Event σ)} {lent : List (Direct.Event σ)}
    (all : List.Forall₂ (Lends k) events lent) :
    lent.map Direct.Event.faint = (events.map k.own).map Direct.Event.faint := by
  induction all with
  | nil => rfl
  | cons lends all ih => rw [List.map_cons, List.map_cons, List.map_cons, lends.faint, ih]

/-! ### All of it -/

def Course.start (w : World) (s : σ) : Course σ φ := { world := w, inner := s }

theorem start_valid {w : World} (placed : w.device p = .middleware mw inner) (below : Below w.clock.nextToken w.clock)
    (s : σ) : Valid (φ := φ) ⟨w.clock.nextToken, w.spans⟩ mw p inner (.start w s) where
  home := ⟨placed, below, Nat.le_refl _, Nat.le_refl _, fun _ _ => rfl⟩
  stand _ member := absurd member List.not_mem_nil
  apart _ _ _ _ _ found := by cases found

/-- With the wrapper and without it, the same events can happen, and afterwards the transport is in the same state and
all calls have the same results, if without the wrapper every operation has the span that it has with it. For a
transport that does not look at its span, it may as well have the span of its caller. For each call the wrapper has
asked for its operation once. A send under a span is handed on under a child of it, which ends with the result; any
other operation is handed on under the context of the caller. -/
theorem transparent (plain : Plain mw) {w : World} (placed : w.device p = .middleware mw inner)
    (below : Below w.clock.nextToken w.clock) (T : Transport σ φ) (s : σ) (events : List (Event σ)) :
    let known : Known := ⟨w.clock.nextToken, w.spans⟩
    let ran := events.foldlM (Course.step T known p) (.start w s)
    let direct (events : List (Direct.Event σ)) :=
      events.foldlM (Direct.Course.step T known) { clock := shared w.clock, inner := s }
    (∃ lent, List.Forall₂ (Lends known) events lent ∧ direct lent = ran.map Course.unwrapped) ∧
      (Oblivious T →
        (direct (events.map known.own)).map Direct.Course.faint = ran.map fun c => c.unwrapped.faint) ∧
      ∀ c ∈ ran, ∀ call ∈ c.calls, ∃ handed, call.asked = [(call.op, handed)] ∧
        c.world.ended? handed = c.world.ended? call.ctx ∧ handed.deadline = call.ctx.deadline ∧
        ((∀ m, call.op ≠ .send m) ∨ call.ctx.span = none → handed = call.ctx) ∧
        ∀ m parent, call.op = .send m → call.ctx.span = some parent → ∃ n, handed.span = some n ∧
          Child (w.span parent) (c.world.span n) (reply? call.next) := by
  intro known ran direct
  have initial : Valid (φ := φ) known mw p inner (.start w s) := start_valid placed below s
  obtain ⟨lent, all, same⟩ := run_agrees plain.retry T initial events
  refine ⟨⟨lent, all, same⟩, ?_, fun c reached call member => ?_⟩
  · intro oblivious
    have faintly := Direct.run_faint oblivious known { clock := shared w.clock, inner := s }
    have own := faintly (events.map known.own)
    rw [← lent_faint all, faintly lent] at own
    rw [← own]
    change Option.map _ (lent.foldlM _ _) = _
    have same : lent.foldlM (Direct.Course.step T known) { clock := shared w.clock, inner := s } = _ := same
    rw [same, Option.map_map]
    rfl
  · have valid : Valid known mw p inner c := by
      refine Leads.invariant ⟨events, reached⟩ _ initial ?_
      intro before event after valid moved
      obtain ⟨_, _, _, kept⟩ := step_agrees plain.retry T valid event
      exact kept after moved
    obtain ⟨handed, asked, hands⟩ := (valid.stand call member).handed
    exact ⟨handed, asked, hands.ended valid.home.below, hands.deadline, hands.same, hands.child⟩

end

/-- A queue of messages, in which receivers wait for the next one. A message that is sent under a span leaves with the
name of this span in place of its source. -/
def queue : Transport (List Message) Unit where
  go
    | .send m, _, seen, held =>
      match seen.ended, seen.span with
      | some e, _ => (held, .done (.error (.context e)))
      | none, some span => (held ++ [{ m with source := span.stateHeader }], .done (.ok none))
      | none, none => (held ++ [m], .done (.ok none))
    | .receive, _, _, m :: held => (held, .done (.ok (some m)))
    | .receive, _, _, [] => ([], .busy ())
    | .close, _, _, held => (held, .done (.ok none))

def single : Middleware := Middleware.withRetry { metered := true } { maxAttempts := 1 }

def wrappedQueue : World where
  clock.nextToken := 1
  devices := #[.channel (.loopback 0), .middleware single 0]
  spans := #[.root ⟨"trace", "parent", 1⟩ "request"]

def sentUnderSpan : List (Event (List Message)) :=
  [.call (.background 0) .receive, .call { tokens := [0], span := some 0 } (.send default), .go 0]

/-- The message is received with the name of the child. -/
theorem transparent_queue :
    ∃ (c : Course (List Message) Unit) (lent : List (Direct.Event (List Message))) (child : Span),
      sentUnderSpan.foldlM (Course.step queue ⟨1, wrappedQueue.spans⟩ 1) (.start wrappedQueue []) = some c ∧
      List.Forall₂ (Lends ⟨1, wrappedQueue.spans⟩) sentUnderSpan lent ∧
      lent.foldlM (Direct.Course.step queue ⟨1, wrappedQueue.spans⟩)
        { clock := shared wrappedQueue.clock, inner := [] } = some c.unwrapped ∧
      c.unwrapped.calls.map (·.result) =
        [some (.ok (some { (default : Message) with source := child.stateHeader })), some (.ok none)] ∧
      ∃ call handed n, c.calls[1]? = some call ∧ call.asked = [(.send default, handed)] ∧ handed.span = some n ∧
        call.span = some child ∧ Child (wrappedQueue.span 0) (c.world.span n) (some (.ok none)) := by
  obtain ⟨c, child, ran, results, call, found, op, ctx, reply, span⟩ :
      ∃ (c : Course (List Message) Unit) (child : Span),
        sentUnderSpan.foldlM (Course.step queue ⟨1, wrappedQueue.spans⟩ 1) (.start wrappedQueue []) = some c ∧
        c.unwrapped.calls.map (·.result) =
          [some (.ok (some { (default : Message) with source := child.stateHeader })), some (.ok none)] ∧
        ∃ call, c.calls[1]? = some call ∧ call.op = .send default ∧ call.ctx.span = some 0 ∧
          reply? call.next = some (.ok none) ∧ call.span = some child :=
    ⟨_, _, rfl, rfl, _, rfl, rfl, rfl, rfl, rfl⟩
  have below : Below wrappedQueue.clock.nextToken wrappedQueue.clock :=
    ⟨fun _ member => absurd member List.not_mem_nil, fun _ member => absurd member List.not_mem_nil⟩
  have plain : Plain single := .withRetry _ (Nat.le_refl 1)
  obtain ⟨⟨lent, all, same⟩, _, each⟩ := transparent plain (w := wrappedQueue) (p := 1) rfl below queue [] sentUnderSpan
  obtain ⟨handed, asked, _, _, _, opened⟩ := each c ran call (List.mem_of_getElem? found)
  obtain ⟨n, mine, opened⟩ := opened default 0 op ctx
  rw [op] at asked
  rw [reply] at opened
  refine ⟨c, lent, child, ran, all, same.trans ?_, results, call, handed, n, found, asked, mine, span, opened⟩
  exact congrArg (Option.map Course.unwrapped) ran

end Courier.Proofs.MiddlewareTransparency
