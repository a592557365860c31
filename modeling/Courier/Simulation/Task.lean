import Courier.Retry
import Courier.Simulation.World

/-! Tasks: operations in progress. An operation that waits for another one, or for something to
happen, is kept as a frame; a task is a stack of frames. Between two waits a task runs alone. -/

namespace Courier.Simulation

/-- An operation in progress, and what it waits for. -/
inductive Frame where
  | channelReceive (queue : Nat) (ticket : Option Ticket)
  /-- A receiver that waits for the reader of a stream or for a line. -/
  | streamReceive (place : Place) (ticket : Nat)
  /-- A scripted operation, with what becomes of it after its delay, if anything does. -/
  | script (place : Place) (op : Operation) (next : Option Outcome)
  /-- A send through a wrapper: its span, and when it started. -/
  | send (place : Place) (m : Message) (phase : Middleware.Phase) (span : Option Nat) (started : Instant)
  | receive (place : Place)
  /-- An operation on a transport that reconnects, and the dial that it waits for, if it does. -/
  | reconnecting (place : Place) (phase : Reconnecting.Phase) (dial : Option DialOutcome)
  | blockingSend (place : Place) (m : Message) (phase : Backpressure.Phase)
  /-- A send that is repeated as a policy says. -/
  | retrying (place : Place) (m : Message) (policy : RetryPolicy) (phase : RetryPolicy.Phase TransportError)
  | relay (source destination : Place) (phase : Relay.Phase)
  | httpReceive (place : Place)
  | sleep
deriving Inhabited

inductive Answer where
  | reply (r : Reply)
  | relayed (result : Except Relay.Fault Nat)
  | slept
deriving Inhabited

/-- What a task waits for, besides a signal to its uppermost frame. -/
structure Wait where
  time : Option Instant := none
  /-- Whether the end of its context wakes it. -/
  context : Bool := true
deriving Inhabited

inductive Next where
  | done (a : Answer)
  /-- Operate on a transport, under a context of its own, and resume the frame with the outcome. -/
  | call (ctx : Context) (frame : Frame) (place : Place) (op : Operation)
  | wait (ctx : Context) (frame : Frame) (wait : Wait)
deriving Inhabited

/-- Frames with the contexts that they run under, the uppermost first. -/
abbrev Stack := List (Context × Frame)

def Next.reply (r : Reply) : Next := .done (.reply r)

def Next.fail (e : TransportError) : Next := .reply (.error e)

namespace World

/-- Goes on with what a receiver found on a queue. -/
def afterPoll (w : World) (ctx : Context) (q : Nat) : Queue.Poll × Queue → World × Next
  | (.got m, queue) => (w.setQueue q queue, .reply (.ok (some m)))
  | (.failed e, queue) => (w.setQueue q queue, .fail e)
  | (.sleep ticket, queue) => (w.setQueue q queue, .wait ctx (.channelReceive q ticket) {})

def channelOperation (w : World) (ctx : Context) (e : ChannelEnd) (op : Operation) : World × Next :=
  let q := e.queueOf op
  match op with
  | .send m =>
    match (w.queue q).send (w.ended? ctx) m with
    | .ok queue => (w.setQueue q queue, .reply (.ok none))
    | .error why => (w, .fail why)
  | .receive => w.afterPoll ctx q ((w.queue q).receive (w.ended? ctx))
  | .close => (w.setQueue q (w.queue q).close, .reply (.ok none))

def fileOperation (w : World) (ctx : Context) (p : Place) (t : FileTransport) :
    Operation → World × Next
  | .send m =>
    match t.prepare (w.ended? ctx) m with
    | .error e => (w, .fail e)
    | .ok record =>
      match t.append w.files record with
      | .error e => (w, .fail e)
      | .ok (t, files, events) =>
        (({ w with files }.setDevice p (.file t)).log events, .reply (.ok none))
  | .receive =>
    match t.enter (w.ended? ctx) with
    | .error e => (w, .fail e)
    | .ok () =>
      let (result, t) := t.read w.files
      (w.setDevice p (.file t), .reply (result.map some))
  | .close =>
    (if t.closed then w else w.setDevice p (.file t.shut.letGo), .reply (.ok none))

def pollStream (w : World) (ctx : Context) (p : Place) (t : StreamTransport) (ticket : Nat) :
    World × Next :=
  let frame := Frame.streamReceive p ticket
  if !t.hasReader ticket then
    (w.setDevice p (.stream t), .wait ctx frame {})
  else
    match t.poll ticket (w.ended? ctx) with
    | (some result, t) => (w.setDevice p (.stream t), .reply (result.map some))
    | (none, t) => (w.setDevice p (.stream t), .wait ctx frame {})

def streamOperation (w : World) (ctx : Context) (p : Place) (t : StreamTransport) :
    Operation → World × Next
  | .send m =>
    match (StreamTransport.prepare (w.ended? ctx) m).bind t.write with
    | .ok t => (w.setDevice p (.stream t), .reply (.ok none))
    | .error e => (w, .fail e)
  | .receive =>
    match t.enter (w.ended? ctx) with
    | .error e => (w, .fail e)
    | .ok (ticket, t) => w.pollStream ctx p t ticket
  | .close => (w, .reply (.ok none))

/-- Only receives look at their context. -/
def watches : Operation → Bool
  | .receive => true
  | _ => false

def play (w : World) (ctx : Context) (p : Place) (s : Script) (op : Operation) : Outcome → World × Next
  | .ok =>
    match s.settle op with
    | (some reply, s) => (w.setDevice p (.script s), .reply reply)
    | (none, s) => (w.setDevice p (.script s), .wait ctx (.script p op none) { context := watches op })
  | .block => (w.setDevice p (.script s), .wait ctx (.script p op none) { context := watches op })
  | .fail why => (w.setDevice p (.script s), .fail why)
  | .message m => (w.setDevice p (.script s), .reply (.ok (some m)))
  | .after delay next =>
    (w.setDevice p (.script s), .wait ctx (.script p op (some next))
      { time := some (w.clock.after delay), context := watches op })

def scriptOperation (w : World) (ctx : Context) (p : Place) (s : Script) (op : Operation) :
    World × Next :=
  let w :=
    match op with
    | .send _ => { w with sendSpans := ctx.span :: w.sendSpans }
    | _ => w
  let (outcome, s) := s.call op w.clock.now
  w.play ctx p s op outcome

def afterSendStep (w : World) (ctx : Context) (p inner : Place) (mw : Middleware) (m : Message)
    (span : Option Nat) (started : Instant) : Middleware.Next → World × Next
  | .send phase => (w, .call ctx (.send p m phase span started) inner (.send m))
  | .rest wait phase =>
    (w, .wait ctx (.send p m phase span started) { time := some (w.clock.after wait) })
  | .finish reply attempts =>
    let w :=
      match span with
      | none => w
      | some n =>
        w.setSpan n (Middleware.closeSpan (w.span n) w.wallTime ⟨w.clock.now - started⟩ attempts reply)
    (w.observe (mw.afterAll (w.nameOf inner) m attempts reply), .reply reply)

def wrappedOperation (w : World) (ctx : Context) (p inner : Place) (mw : Middleware) :
    Operation → World × Next
  | .send m =>
    let (ctx, span, w) :=
      match ctx.span with
      | none => (ctx, none, w)
      | some parent =>
        let (fresh, w) := w.fresh
        let (n, w) := w.addSpan (Middleware.openSpan fresh (w.span parent) m)
        let (token, w) := w.freshToken
        (ctx.withSpan token n, some n, w)
    w.afterSendStep ctx p inner mw m span w.clock.now (mw.start (w.ended? ctx))
  | .receive => (w, .call ctx (.receive p) inner .receive)
  | .close => (w, .call ctx (.receive p) inner .close)

/-- Starts the next dial of a list, of which the last is repeated. -/
def startDial (w : World) (p : Place) (config : Reconnect) (slot : Reconnecting.Slot)
    (dials : List Dial) : Dial × World :=
  let (dial, rest) :=
    match dials with
    | [] => ((default : Dial), [])
    | [last] => (last, [last])
    | dial :: rest => (dial, rest)
  let w := w.setDevice p (.reconnecting config slot rest)
  (dial,
    match dial.outcome with
    | .address _ _ => w
    | _ => { w with dials := w.clock.now :: w.dials })

/-- Does what one step of a reconnecting transport asks for. -/
def afterReconnectingStep (w : World) (ctx : Context) (p : Place) (config : Reconnect)
    (dials : List Dial) (s : Reconnecting.Step) : World × Next :=
  let w := w.setDevice p (.reconnecting config s.slot dials)
  let w := w.log (s.reports.map (Reconnecting.Report.log w.nameOf))
  let states := s.reports.filterMap fun
    | .state st => some (st, w.clock.now)
    | _ => none
  let w := { w with states := states.reverse ++ w.states }
  match s.next with
  | .finish reply => (w, .reply reply)
  | .ask (.operate c op) phase => (w, .call ctx (.reconnecting p phase none) c op)
  | .ask (.rest wait) phase =>
    (w, .wait ctx (.reconnecting p phase none) { time := some (w.clock.after wait) })
  | .ask .dial phase =>
    let (dial, w) := w.startDial p config s.slot dials
    (w, .wait ctx (.reconnecting p phase (some dial.outcome))
      { time := some (w.clock.after dial.delay), context := false })

def reconnectingOperation (w : World) (ctx : Context) (p : Place) (config : Reconnect)
    (slot : Reconnecting.Slot) (dials : List Dial) (op : Operation) : World × Next :=
  w.afterReconnectingStep ctx p config dials (Reconnecting.perform config slot (w.ended? ctx) op)

def pollHttp (w : World) (ctx : Context) (p : Place) (t : HttpTransport) : World × Next :=
  match t.poll (w.ended? ctx) with
  | (some result, t) => (w.setDevice p (.http t), .reply (result.map some))
  | (none, t) => (w.setDevice p (.http t), .wait ctx (.httpReceive p) {})

/-- An operation over HTTP. There is no network in this world, so no request is answered. -/
def httpOperation (w : World) (ctx : Context) (p : Place) (t : HttpTransport) :
    Operation → World × Next
  | .send m =>
    match t.prepare (w.ended? ctx) (ctx.span.map w.span) m with
    | .error e => (w, .fail e)
    | .ok _ => (w, .fail (.http false))
  | .receive =>
    match t.enter (w.ended? ctx) with
    | .error e => (w, .fail e)
    | .ok () => w.pollHttp ctx p t
  | .close => (w.setDevice p (.http t.close.2), .reply (.ok none))

def operate (w : World) (ctx : Context) (p : Place) (op : Operation) : World × Next :=
  match w.device p with
  | .channel e => w.channelOperation ctx e op
  | .file t => w.fileOperation ctx p t op
  | .stream t => w.streamOperation ctx p t op
  | .script s => w.scriptOperation ctx p s op
  | .middleware mw inner => w.wrappedOperation ctx p inner mw op
  | .reconnecting config slot dials => w.reconnectingOperation ctx p config slot dials op
  | .http t => w.httpOperation ctx p t op

/-- Resumes an operation on a transport that reconnects. A dial gives its connection only now. -/
def resumeReconnecting (w : World) (ctx : Context) (p : Place) (phase : Reconnecting.Phase)
    (dial : Option DialOutcome) (reply : Reply) : World × Next :=
  match w.device p with
  | .reconnecting config slot dials =>
    let (dialed, w) :=
      match dial with
      | some outcome => w.dialed outcome
      | none => (.error Reconnecting.closedError, w)
    w.afterReconnectingStep ctx p config dials
      (Reconnecting.resume config slot (w.ended? ctx) phase dialed reply)
  | _ => (w, .reply reply)

def afterBlockingStep (w : World) (ctx : Context) (p : Place) (m : Message) :
    Backpressure.Next → World × Next
  | .send wait => (w, .call ctx (.blockingSend p m (.sending wait)) p (.send m))
  | .rest wait event =>
    (w.log [event], .wait ctx (.blockingSend p m (.resting wait)) { time := some (w.clock.after wait) })
  | .finish reply => (w, .reply reply)

def afterRetryStep (w : World) (ctx : Context) (p : Place) (m : Message) (policy : RetryPolicy) :
    RetryPolicy.Action TransportError (Option Message) → World × Next
  | .call phase => (w, .call ctx (.retrying p m policy phase) p (.send m))
  | .rest delay phase event =>
    (w.log [event], .wait ctx (.retrying p m policy phase) { time := some (w.clock.after delay) })
  | .finish reply event => (w.log event.toList, .reply reply)

def afterRelayStep (w : World) (ctx : Context) (source destination : Place) :
    Relay.Next → World × Next
  | .receive phase => (w, .call ctx (.relay source destination phase) source .receive)
  | .send m phase => (w, .call ctx (.relay source destination phase) destination (.send m))
  | .finish result => (w, .done (.relayed result))

/-- Resumes a frame, with the outcome of what it called or because it was woken. -/
def resume (w : World) (ctx : Context) (reply : Reply) : Frame → World × Next
  | .channelReceive q ticket =>
    match w.ended? ctx with
    | some e => (w.setQueue q ((w.queue q).giveUp ticket), .fail (.context e))
    | none => w.afterPoll ctx q ((w.queue q).wake ticket)
  | .streamReceive p ticket =>
    match w.device p with
    | .stream t => w.pollStream ctx p t ticket
    | _ => (w, .reply reply)
  | .script p op next =>
    match w.device p, next with
    | .script s, some outcome =>
      match watches op, w.ended? ctx with
      | true, some e => (w, .fail (.context e))
      | _, _ => w.play ctx p s op outcome
    | _, _ => (w, .fail (.context ((w.ended? ctx).getD .cancelled)))
  | .send p m phase span started =>
    match w.device p with
    | .middleware mw inner =>
      match phase with
      | .sending attempt wait =>
        let (next, seen) := mw.afterSend (w.nameOf inner) m attempt wait reply
        (w.observe seen).afterSendStep ctx p inner mw m span started next
      | .resting attempt wait last =>
        w.afterSendStep ctx p inner mw m span started
          (mw.afterRest attempt wait last (w.ended? ctx))
    | _ => (w, .reply reply)
  | .receive p =>
    match w.device p with
    | .middleware mw inner => (w.observe (mw.afterReceive (w.nameOf inner) reply), .reply reply)
    | _ => (w, .reply reply)
  | .reconnecting p phase dial => w.resumeReconnecting ctx p phase dial reply
  | .blockingSend p m phase =>
    w.afterBlockingStep ctx p m
      (match phase with
      | .sending wait => Backpressure.afterSend wait reply
      | .resting wait => Backpressure.afterRest wait (w.ended? ctx))
  | .retrying p m policy phase =>
    w.afterRetryStep ctx p m policy
      (match phase with
      | .calling attempt wait =>
        policy.afterCall TransportError.retryable (.ofNat 1) attempt wait reply
      | .resting attempt wait last => policy.afterRest attempt wait last (w.ended? ctx))
  | .httpReceive p =>
    match w.device p with
    | .http t => w.pollHttp ctx p t
    | _ => (w, .reply reply)
  | .relay source destination phase =>
    w.afterRelayStep ctx source destination
      (match phase with
      | .receiving count => Relay.afterReceive count (w.ended? ctx) reply
      | .sending count => Relay.afterSend count reply)
  | .sleep => (w, .done .slept)

/-- Whether what a frame waits for has happened, time and contexts apart. -/
def isSignalled (w : World) : Frame → Bool
  | .channelReceive q ticket => (w.queue q).isCalled ticket
  | .streamReceive p ticket =>
    match w.device p with
    | .stream t => t.hasReader ticket && (!t.input.isEmpty || t.inputEnded)
    | _ => true
  | .httpReceive p =>
    match w.device p with
    | .http t => t.closed || !t.inbox.isEmpty
    | _ => true
  | .reconnecting p (.resting _ _ _) _ =>
    match w.device p with
    | .reconnecting _ slot _ => slot.closed
    | _ => true
  | _ => false

/-- Whether the end of its context can wake a frame now. -/
def minds (w : World) : Frame → Bool
  | .streamReceive p ticket =>
    match w.device p with
    | .stream t => t.hasReader ticket
    | _ => true
  | _ => true

def isOver (w : World) (ctx : Context) (frame : Frame) (wait : Wait) : Bool :=
  w.isSignalled frame || wait.time.any (· ≤ w.clock.now)
    || (wait.context && w.minds frame && (w.ended? ctx).isSome)

/-- Lets go of what a frame holds while it waits. -/
def dropFrame (w : World) : Frame → World
  | .channelReceive q ticket => w.setQueue q ((w.queue q).giveUp ticket)
  | .streamReceive p ticket =>
    match w.device p with
    | .stream t => w.setDevice p (.stream (t.leave ticket))
    | _ => w
  | _ => w

end World

inductive Job where
  | operate (place : Place) (op : Operation)
  | blockingSend (place : Place) (m : Message)
  /-- Sends as often as a policy says. -/
  | retry (place : Place) (m : Message) (policy : RetryPolicy)
  | relay (source destination : Place)
  | sleep (d : Duration)
deriving Inhabited

def Job.start (w : World) (ctx : Context) : Job → World × Next
  | operate p op => w.operate ctx p op
  | blockingSend p m => w.afterBlockingStep ctx p m Backpressure.start
  | retry p m policy =>
    w.afterRetryStep ctx p m policy (policy.start TransportError.context (w.ended? ctx))
  | relay source destination => w.afterRelayStep ctx source destination Relay.start
  | sleep d => (w, .wait ctx .sleep { time := some (w.clock.after d), context := false })

inductive Status where
  | starting (ctx : Context) (job : Job)
  | ready (stack : Stack) (next : Next)
  | waiting (stack : Stack) (ctx : Context) (frame : Frame) (wait : Wait)
  | finished (a : Answer) (time : Instant)
deriving Inhabited

namespace World

/-- Runs a task until it has to wait, for at most `fuel` steps. -/
def run (w : World) (stack : Stack) (next : Next) : Nat → World × Status
  | 0 => (w, .ready stack next)
  | fuel + 1 =>
    match next with
    | .done a =>
      match stack with
      | [] => (w, .finished a w.clock.now)
      | (ctx, frame) :: below =>
        let reply : Reply :=
          match a with
          | .reply r => r
          | _ => .ok none
        let (w, next) := w.resume ctx reply frame
        w.run below next fuel
    | .call ctx frame place op =>
      let (w, next) := w.operate ctx place op
      w.run ((ctx, frame) :: stack) next fuel
    | .wait ctx frame wait =>
      if w.isOver ctx frame wait then
        let (w, next) := w.resume ctx (.ok none) frame
        w.run stack next fuel
      else (w, .waiting stack ctx frame wait)

def isReady (w : World) : Status → Bool
  | .starting _ _ => true
  | .ready _ _ => true
  | .waiting _ ctx frame wait => w.isOver ctx frame wait
  | .finished _ _ => false

/-- The instant at which a task that waits can go on, as far as time decides it. -/
def wakeTime (w : World) : Status → Option Instant
  | .waiting _ ctx frame wait =>
    Clock.earlier wait.time (if wait.context && w.minds frame then w.clock.endOf ctx else none)
  | _ => none

def step (w : World) (fuel : Nat) : Status → World × Status
  | .starting ctx job =>
    let (w, next) := job.start w ctx
    w.run [] next fuel
  | .ready stack next => w.run stack next fuel
  | .waiting stack ctx frame _ =>
    let (w, next) := w.resume ctx (.ok none) frame
    w.run stack next fuel
  | .finished a t => (w, .finished a t)

def abandon (w : World) : Status → World
  | .waiting _ _ frame _ => w.dropFrame frame
  | _ => w

end World
end Courier.Simulation
