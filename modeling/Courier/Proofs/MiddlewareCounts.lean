import Courier.Proofs.Exchanges
import Courier.Proofs.MiddlewareCalls
import Courier.Proofs.Runs

/-! What a wrapper counts. Any number of calls go on at a time, under any contexts, and the transport inside answers
as it likes. Whether the wrapper repeats sends or not, its counts are those of the answers that it has heard. -/

namespace Courier.Proofs.MiddlewareCounts
open Simulation Exchanges MiddlewareCalls

structure Call where
  op : Operation
  next : Next

/-- A world with calls through a wrapper, and what they have heard of the transport inside. -/
structure Course where
  world : World
  calls : List Call := []
  heard : List Exchange := []

inductive Event where
  | call (ctx : Context) (op : Operation)
  | answer (call : Nat) (reply : Reply)
  | wake (call : Nat)
  /-- Time passes, contexts end, and others do what they like. -/
  | outside (w : World)

namespace Course

def start (w : World) : Course where
  world := { w with seen := [] }

def went (c : Course) (n : Nat) (call : Call) (result : World × Next) : Course :=
  { c with world := result.1, calls := c.calls.set n { call with next := result.2 } }

def step (p : Place) (c : Course) : Event → Option Course
  | .call ctx op =>
    let result := c.world.operate ctx p op
    some { c with world := result.1, calls := c.calls ++ [⟨op, result.2⟩] }
  | .answer n reply => do
    let call ← c.calls[n]?
    let (result, heard) ← hear c.world call.next reply
    some { c.went n call result with heard := c.heard ++ [heard] }
  | .wake n => do
    let call ← c.calls[n]?
    match call.next with
    | .wait ctx frame wait =>
      if c.world.isOver ctx frame wait then some (c.went n call (c.world.resume ctx (.ok none) frame)) else none
    | _ => none
  | .outside w => some { c with world := { w with devices := c.world.devices, seen := c.world.seen } }

end Course

/-! ### Outcomes -/

def isSend : Operation → Bool
  | .send _ => true
  | _ => false

def isReceive : Operation → Bool
  | .receive => true
  | _ => false

def Call.succeeded (call : Call) : Bool :=
  match call.next with
  | .done (.reply reply) => reply.isOk
  | _ => false

/-- What is counted for an answer of a transport that has this name. -/
def told (name : String) (op : Operation) (reply : Reply) : List Metric :=
  match op, reply with
  | .send _, .ok _ => [.sent name, .sendLatency name]
  | .send _, .error _ => [.sendFailure name]
  | .receive, .ok _ => [.received name]
  | _, _ => []

/-! ### One step of a call -/

inductive Stands (p inner : Place) (mw : Middleware) : Call → Prop where
  | sending {ctx : Context} {m : Message} {attempt : Nat} {wait : Duration} {span : Option Nat} {started : Instant} :
      Stands p inner mw
        ⟨.send m, .call ctx (.send p m (.sending attempt wait) span started) inner (.send m)⟩
  | resting {ctx : Context} {m : Message} {attempt : Nat} {wait : Duration} {last : TransportError}
      {span : Option Nat} {started : Instant} {until_ : Wait} (repeats : mw.retry.isSome = true) :
      Stands p inner mw ⟨.send m, .wait ctx (.send p m (.resting attempt wait last) span started) until_⟩
  | passing {ctx : Context} {op : Operation} (plain : ∀ m, op ≠ .send m) :
      Stands p inner mw ⟨op, .call ctx (.receive p) inner op⟩
  | done {op : Operation} {reply : Reply} : Stands p inner mw ⟨op, .done (.reply reply)⟩

/-- What a wrapper can ask for while it sends. -/
inductive Asks (mw : Middleware) : Middleware.Next → Prop where
  | send {attempt : Nat} {wait : Duration} : Asks mw (.send (.sending attempt wait))
  | rest {attempt : Nat} {rest wait : Duration} {last : TransportError} (repeats : mw.retry.isSome = true) :
      Asks mw (.rest rest (.resting attempt wait last))
  | finish {attempts : Nat} {reply : Reply} : Asks mw (.finish reply attempts)

/-- What is counted when a send is over. -/
def posted (mw : Middleware) (name : String) (m : Message) : Middleware.Next → List Metric
  | .finish reply attempts => Observation.counts (mw.afterAll name m attempts reply)
  | _ => []

def succeeds : Middleware.Next → Bool
  | .finish reply _ => reply.isOk
  | _ => false

section
variable {mw : Middleware} (name : String) (m : Message) (attempt attempts : Nat) (wait : Duration)
  (why : TransportError) (reply : Reply)

private theorem posted_error :
    posted mw name m (.finish (.error why) attempts) =
      if mw.metered && mw.retry.isNone then [.sendFailure name] else [] := by
  cases mw with
  | mk retry metered => cases retry <;> cases metered <;> rfl

private theorem start_asks (built : Built mw) (ended : Option ContextError) :
    Asks mw (mw.start ended) ∧ posted mw name m (mw.start ended) = [] ∧ succeeds (mw.start ended) = false := by
  unfold Middleware.start
  split
  next => exact ⟨.send, rfl, rfl⟩
  next r repeats =>
    have many : ¬ r.maxAttempts < 1 := Nat.not_lt.mpr (Nat.le_of_lt (built.many repeats))
    simp only [Middleware.proceed, if_neg many]
    cases ended with
    | none => exact ⟨.send, rfl, rfl⟩
    | some e => exact ⟨.finish, by simp [posted_error, repeats], rfl⟩

private theorem afterRest_asks (repeats : mw.retry.isSome = true) (ended : Option ContextError) :
    let next := mw.afterRest attempt wait why ended
    Asks mw next ∧ posted mw name m next = [] ∧ succeeds next = false := by
  obtain ⟨r, repeats⟩ := Option.isSome_iff_exists.mp repeats
  have silent (why : TransportError) (attempts : Nat) : posted mw name m (.finish (.error why) attempts) = [] := by
    simp [posted_error, repeats]
  simp only [Middleware.afterRest, repeats]
  cases ended with
  | some e => exact ⟨.finish, silent _ _, rfl⟩
  | none =>
    simp only [Middleware.proceed]
    split
    next => exact ⟨.finish, silent _ _, rfl⟩
    next => exact ⟨.send, rfl, rfl⟩

private theorem afterSend_asks (metered : mw.metered = true) :
    let turn := mw.afterSend name m attempt wait reply
    Asks mw turn.1 ∧ Observation.counts turn.2 ++ posted mw name m turn.1 = told name (.send m) reply ∧
      succeeds turn.1 = reply.isOk := by
  rcases reply with why | found
  · cases repeats : mw.retry with
    | none =>
      simp only [Middleware.afterSend, repeats]
      exact ⟨.finish, by simp [posted_error, metered, repeats, Observation.counts, told], rfl⟩
    | some r =>
      by_cases last : attempt = r.maxAttempts
      · simp only [Middleware.afterSend, repeats, if_pos last]
        exact ⟨.finish, by simp [posted_error, metered, repeats, Observation.counts, told, Middleware.counted], rfl⟩
      · simp only [Middleware.afterSend, repeats, if_neg last]
        exact ⟨.rest (by rw [repeats]; rfl),
          by simp [posted, metered, Observation.counts, told, Middleware.counted], rfl⟩
  · have passes : mw.afterSend name m attempt wait (.ok found) = (.finish (.ok found) attempt, []) := by
      unfold Middleware.afterSend
      cases mw.retry <;> rfl
    rw [passes]
    exact ⟨.finish, by simp [posted, metered, Observation.counts, told, Middleware.afterAll, Middleware.passed,
      Middleware.counted], rfl⟩

private theorem afterReceive_counts (metered : mw.metered = true) {op : Operation} (plain : ∀ m, op ≠ .send m)
    (answers : fits op reply = true) :
    Observation.counts (mw.afterReceive name reply) = told name op reply := by
  rcases reply with why | found
  · cases op with
    | send m => exact absurd rfl (plain m)
    | receive => rfl
    | close => rfl
  · cases op with
    | send m => exact absurd rfl (plain m)
    | receive =>
      obtain ⟨m, rfl⟩ := Option.isSome_iff_exists.mp answers
      simp [Middleware.afterReceive, Middleware.passed, Middleware.counted, metered, Observation.counts, told]
    | close =>
      obtain rfl := Option.isNone_iff_eq_none.mp answers
      rfl

end

structure Leaves (p inner : Place) (mw : Middleware) (op : Operation) (before : World) (result : World × Next)
    (counted : List Metric) (succeeded : Bool) : Prop where
  devices : result.1.devices = before.devices
  counts : result.1.counts = before.counts ++ counted
  stands : Stands p inner mw ⟨op, result.2⟩
  outcome : Call.succeeded ⟨op, result.2⟩ = succeeded

section
variable {w : World} {p inner : Place} {mw : Middleware} {ctx : Context} {m : Message} {span : Option Nat}
  {started : Instant}

private theorem afterSendStep_leaves {next : Middleware.Next} (asks : Asks mw next) {counted : List Metric}
    (counts : posted mw (w.nameOf inner) m next = counted) {succeeded : Bool} (outcome : succeeds next = succeeded) :
    Leaves p inner mw (.send m) w (w.afterSendStep ctx p inner mw m span started next) counted succeeded := by
  subst counts outcome
  cases asks with
  | send => exact ⟨rfl, (List.append_nil _).symm, .sending, rfl⟩
  | rest repeats => exact ⟨rfl, (List.append_nil _).symm, .resting repeats, rfl⟩
  | @finish attempts reply =>
    rw [afterSendStep_finish]
    refine ⟨by simp, ?_, .done, rfl⟩
    rw [counts_observe, counts_congr (closing_seen w span started attempts reply)]
    rfl

/-- A step that comes after another one, which has left the devices as they are. -/
theorem Leaves.since {v : World} {op : Operation} {result : World × Next} {before counted : List Metric}
    {succeeded : Bool} (left : Leaves p inner mw op w result counted succeeded) (devices : w.devices = v.devices)
    (counts : w.counts = v.counts ++ before) {total : List Metric} (all : before ++ counted = total) :
    Leaves p inner mw op v result total succeeded where
  devices := left.devices.trans devices
  counts := by rw [left.counts, counts, List.append_assoc, all]
  stands := left.stands
  outcome := left.outcome

variable (placed : w.device p = .middleware mw inner)
include placed

private theorem operate_leaves (built : Built mw) (op : Operation) :
    Leaves p inner mw op w (w.operate ctx p op) [] false := by
  cases op with
  | send m =>
    rw [operate_send placed]
    obtain ⟨asks, silent, waits⟩ := start_asks ((scope w ctx m).world.nameOf inner) m built
      ((scope w ctx m).world.ended? (scope w ctx m).ctx)
    refine (afterSendStep_leaves asks silent waits).since (scope_devices w ctx m) ?_ (List.append_nil [])
    exact (counts_congr (scope_seen w ctx m)).trans (List.append_nil _).symm
  | receive =>
    rw [operate_plain placed ctx (by nofun)]
    exact ⟨rfl, (List.append_nil _).symm, .passing (by nofun), rfl⟩
  | close =>
    rw [operate_plain placed ctx (by nofun)]
    exact ⟨rfl, (List.append_nil _).symm, .passing (by nofun), rfl⟩

private theorem answer_leaves (metered : mw.metered = true) {call : Call} (stands : Stands p inner mw call) {reply : Reply}
    {result : World × Next} {heard : Exchange} (hears : hear w call.next reply = some (result, heard)) :
    Leaves p inner mw call.op w result (told (w.nameOf inner) heard.op heard.reply) heard.reply.isOk ∧
      heard.op = call.op ∧ heard.place = inner ∧ call.succeeded = false := by
  obtain ⟨_, _, _, _, waits, answers, rfl, rfl⟩ := hear_cases hears
  cases stands with
  | @sending _ m attempt wait span started =>
    cases waits
    rw [resume_sending placed]
    obtain ⟨asks, counted, succeeded⟩ := afterSend_asks (w.nameOf inner) m attempt wait reply metered
    refine ⟨?_, rfl, rfl, rfl⟩
    refine (afterSendStep_leaves asks ?_ succeeded).since (observe_devices w _) (counts_observe w _) counted
    rw [nameOf_congr (observe_devices w _)]
  | passing plain =>
    cases waits
    rw [resume_plain placed]
    refine ⟨⟨rfl, ?_, .done, rfl⟩, rfl, rfl, rfl⟩
    rw [counts_observe, afterReceive_counts _ _ metered plain answers]
  | resting | done => cases waits

private theorem wake_leaves {call : Call} (stands : Stands p inner mw call) {frame : Frame} {until_ : Wait}
    (waits : call.next = .wait ctx frame until_) :
    Leaves p inner mw call.op w (w.resume ctx (.ok none) frame) [] false ∧ call.succeeded = false := by
  cases stands with
  | @resting _ m attempt wait last span started _ repeats =>
    cases waits
    rw [resume_resting placed]
    obtain ⟨asks, silent, fails⟩ := afterRest_asks (w.nameOf inner) m attempt wait last repeats (w.ended? ctx)
    exact ⟨afterSendStep_leaves asks silent fails, rfl⟩
  | sending | passing | done => cases waits

end

/-! ### Runs -/

def Call.gave (kind : Operation → Bool) (call : Call) : Bool := kind call.op && call.succeeded

def gave (kind : Operation → Bool) (e : Exchange) : Bool := kind e.op && e.reply.isOk

structure Valid (p inner : Place) (mw : Middleware) (name : String) (c : Course) : Prop where
  placed : c.world.device p = .middleware mw inner
  named : c.world.nameOf inner = name
  stand : ∀ call ∈ c.calls, Stands p inner mw call
  inside : ∀ e ∈ c.heard, e.place = inner
  counted : c.world.counts = c.heard.flatMap fun e => told name e.op e.reply
  gives : ∀ kind, c.calls.countP (Call.gave kind) = c.heard.countP (gave kind)

section
variable {p inner : Place} {mw : Middleware} {name : String} {c after : Course}

private theorem went_stand (valid : Valid p inner mw name c) {n : Nat} {call : Call} {result : World × Next}
    (stands : Stands p inner mw ⟨call.op, result.2⟩) :
    ∀ other ∈ (c.went n call result).calls, Stands p inner mw other := by
  intro other member
  rcases List.mem_or_eq_of_mem_set member with before | rfl
  · exact valid.stand other before
  · exact stands

private theorem went_gives (valid : Valid p inner mw name c) {n : Nat} {call : Call} {result : World × Next}
    (found : c.calls[n]? = some call) (open_ : call.succeeded = false) {succeeded : Bool}
    (outcome : Call.succeeded ⟨call.op, result.2⟩ = succeeded) (kind : Operation → Bool) :
    (c.went n call result).calls.countP (Call.gave kind) =
      c.heard.countP (gave kind) + (kind call.op && succeeded).toNat := by
  have counted := countP_set_add found ⟨call.op, result.2⟩ (Call.gave kind)
  have before : call.gave kind = false := by simp [Call.gave, open_]
  rw [before] at counted
  rw [← valid.gives kind, ← outcome]
  exact counted

private theorem call_valid (built : Built mw) (valid : Valid p inner mw name c) {ctx : Context} {op : Operation}
    (moved : c.step p (.call ctx op) = some after) : Valid p inner mw name after := by
  cases moved
  have left : Leaves p inner mw op c.world (c.world.operate ctx p op) [] false := operate_leaves valid.placed built op
  refine ⟨(device_congr left.devices p).trans valid.placed, (nameOf_congr left.devices inner).trans valid.named, ?_,
    valid.inside, ?_, ?_⟩
  · intro call member
    rcases List.mem_append.mp member with before | begun
    · exact valid.stand call before
    · cases List.mem_singleton.mp begun
      exact left.stands
  · exact (left.counts.trans (List.append_nil _)).trans valid.counted
  · intro kind
    have silent : Call.gave kind ⟨op, (c.world.operate ctx p op).2⟩ = false := by
      simp [Call.gave, left.outcome]
    rw [List.countP_append, List.countP_singleton, silent, valid.gives kind]
    rfl

private theorem answer_valid (metered : mw.metered = true) (valid : Valid p inner mw name c) {n : Nat} {reply : Reply}
    (moved : c.step p (.answer n reply) = some after) : Valid p inner mw name after := by
  obtain ⟨call, found, moved⟩ := Option.bind_eq_some_iff.mp moved
  obtain ⟨⟨result, heard⟩, hears, moved⟩ := Option.bind_eq_some_iff.mp moved
  cases moved
  obtain ⟨left, same, inside, open_⟩ :=
    answer_leaves valid.placed metered (valid.stand call (List.mem_of_getElem? found)) hears
  refine ⟨(device_congr left.devices p).trans valid.placed, (nameOf_congr left.devices inner).trans valid.named,
    went_stand valid left.stands, ?_, ?_, ?_⟩
  · intro e member
    rcases List.mem_append.mp member with before | last
    · exact valid.inside e before
    · cases List.mem_singleton.mp last
      exact inside
  · refine left.counts.trans ?_
    rw [valid.named, valid.counted]
    simp
  · intro kind
    refine (went_gives valid found open_ left.outcome kind).trans ?_
    rw [List.countP_append, List.countP_singleton, gave, same]
    cases kind call.op && heard.reply.isOk <;> rfl

private theorem wake_valid (valid : Valid p inner mw name c) {n : Nat} (moved : c.step p (.wake n) = some after) :
    Valid p inner mw name after := by
  obtain ⟨call, found, moved⟩ := Option.bind_eq_some_iff.mp moved
  split at moved
  next ctx frame wait waits =>
    obtain ⟨_, moved⟩ := Option.ite_none_right_eq_some.mp moved
    cases moved
    obtain ⟨left, open_⟩ := wake_leaves valid.placed (valid.stand call (List.mem_of_getElem? found)) waits
    refine ⟨(device_congr left.devices p).trans valid.placed, (nameOf_congr left.devices inner).trans valid.named,
      went_stand valid left.stands, valid.inside, (left.counts.trans (List.append_nil _)).trans valid.counted, ?_⟩
    intro kind
    refine (went_gives valid found open_ left.outcome kind).trans ?_
    rw [Bool.and_false]
    rfl
  next => cases moved

theorem step_valid (built : Built mw) (metered : mw.metered = true) (valid : Valid p inner mw name c) (event : Event)
    (moved : c.step p event = some after) : Valid p inner mw name after := by
  cases event with
  | call ctx op => exact call_valid built valid moved
  | answer n reply => exact answer_valid metered valid moved
  | wake n => exact wake_valid valid moved
  | outside w =>
    cases moved
    have same : World.devices { w with devices := c.world.devices, seen := c.world.seen } = c.world.devices := rfl
    exact ⟨valid.placed, (nameOf_congr same inner).trans valid.named, valid.stand, valid.inside,
      valid.counted, valid.gives⟩

theorem start_valid {w : World} (placed : w.device p = .middleware mw inner) :
    Valid p inner mw (w.nameOf inner) (.start w) where
  placed := placed
  named := nameOf_congr (v := (Course.start w).world) (w := w) rfl inner
  stand _ member := absurd member List.not_mem_nil
  inside _ member := absurd member List.not_mem_nil
  counted := rfl
  gives _ := rfl

private theorem count_told {heard : List Exchange} {metric : Metric} {q : Exchange → Bool}
    (each : ∀ e, (told name e.op e.reply).count metric = (q e).toNat) :
    (heard.flatMap fun e => told name e.op e.reply).count metric = heard.countP q := by
  induction heard with
  | nil => rfl
  | cons e heard ih =>
    rw [List.flatMap_cons, List.count_append, ih, each, List.countP_cons, Nat.add_comm]
    cases q e <;> rfl

private theorem count_each (name : String) (op : Operation) (reply : Reply) :
    (told name op reply).count (.sendFailure name) = (isSend op && !reply.isOk).toNat ∧
      (told name op reply).count (.sent name) = (isSend op && reply.isOk).toNat ∧
      (told name op reply).count (.sendLatency name) = (isSend op && reply.isOk).toNat ∧
      (told name op reply).count (.received name) = (isReceive op && reply.isOk).toNat := by
  cases op <;> cases reply <;> simp [told, isSend, isReceive, Except.isOk, Except.toBool]

end

/-- Failed sends are the answers of the transport inside that are errors; sends and their times are its answers that
are successes, and those are the sends that have succeeded through the wrapper; receives are those that have
succeeded through the wrapper. -/
theorem counts_inner_outcomes {mw : Middleware} (built : Built mw) (metered : mw.metered = true) {w : World}
    {p inner : Place} (placed : w.device p = .middleware mw inner) {c : Course}
    (reached : Leads (Course.step p) (.start w) c) :
    let name := w.nameOf inner
    let failed := c.heard.countP fun e => isSend e.op && !e.reply.isOk
    let sent := c.heard.countP fun e => isSend e.op && e.reply.isOk
    (∀ e ∈ c.heard, e.place = inner) ∧
      c.world.counts.value (.sendFailure name) = failed ∧
      c.world.counts.value (.sent name) = sent ∧ c.world.counts.value (.sendLatency name) = sent ∧
      (c.calls.countP fun call => isSend call.op && call.succeeded) = sent ∧
      c.world.counts.value (.received name) = c.calls.countP fun call => isReceive call.op && call.succeeded := by
  intro name failed sent
  have valid : Valid p inner mw name c :=
    reached.invariant _ (start_valid placed) fun _ event _ valid moved => step_valid built metered valid event moved
  have received := valid.gives isReceive
  simp only [Counts.value, valid.counted]
  refine ⟨valid.inside, count_told fun e => (count_each name e.op e.reply).1,
    count_told fun e => (count_each name e.op e.reply).2.1, count_told fun e => (count_each name e.op e.reply).2.2.1,
    valid.gives isSend, ?_⟩
  exact (count_told fun e => (count_each name e.op e.reply).2.2.2).trans received.symm

def wrappedChannel : World where
  devices := #[.channel (.loopback 0), .middleware { Middleware.withRetry {} {} with metered := true } 0]

def repeated : List Event :=
  [.call (.background 0) (.send default), .answer 0 (.error .bufferFull), .outside { clock.now := 100000000 }, .wake 0,
   .answer 0 (.ok none), .call (.background 0) .receive, .answer 1 (.ok (some default))]

theorem counts_inner_outcomes_repeated :
    ∃ c, Leads (Course.step 1) (.start wrappedChannel) c ∧ c.world.counts.value (.sendFailure "channel") = 1 ∧
      c.world.counts.value (.sent "channel") = 1 ∧ c.world.counts.value (.sendLatency "channel") = 1 ∧
      c.world.counts.value (.received "channel") = 1 := by
  obtain ⟨c, ran, failed, sent, received⟩ :
      ∃ c, repeated.foldlM (Course.step 1) (.start wrappedChannel) = some c ∧
        (c.heard.countP fun e => isSend e.op && !e.reply.isOk) = 1 ∧
        (c.heard.countP fun e => isSend e.op && e.reply.isOk) = 1 ∧
        (c.calls.countP fun call => isReceive call.op && call.succeeded) = 1 :=
    ⟨_, rfl, rfl, rfl, rfl⟩
  obtain ⟨_, failures, sends, samples, _, receives⟩ :=
    counts_inner_outcomes (.withMetrics (.withRetry .wrap {})) rfl (w := wrappedChannel) (p := 1) rfl ⟨repeated, ran⟩
  exact ⟨c, ⟨repeated, ran⟩, failures.trans failed, sends.trans sent, samples.trans sent, receives.trans received⟩

end Courier.Proofs.MiddlewareCounts
