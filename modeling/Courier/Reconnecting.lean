import Courier.Config
import Courier.Context
import Courier.Log
import Courier.Transport.Operation

/-! A transport that replaces its connection when it breaks. It holds at most one connection, in its
slot. An operation is a machine of its own: it runs up to the point where it must wait, says what it
waits for, and is resumed with the outcome; other operations may use the slot in between. So what is
said here about one step holds however operations overlap. -/

namespace Courier

/-- Names a connection. Two dials may give the same one. -/
abbrev Connection := Nat

inductive ConnectionState where
  | connecting
  | connected
  | disconnected
  | closed
deriving Repr, DecidableEq, Inhabited

def ConnectionState.name : ConnectionState → String
  | connecting => "connecting"
  | connected => "connected"
  | disconnected => "disconnected"
  | closed => "closed"

def ConnectionState.all : List ConnectionState := [connecting, connected, disconnected, closed]

/-- How long to wait after dials that failed: the wait doubles from the first to the longest. -/
structure Reconnect where
  firstWait : Duration := .ofMillis 100
  longestWait : Duration := .ofSeconds 30
deriving Repr, DecidableEq, Inhabited

namespace Reconnect

def normalized (c : Reconnect) : Reconnect where
  firstWait := if c.firstWait.isZero then .ofMillis 100 else c.firstWait
  longestWait := if c.longestWait.isZero then .ofSeconds 30 else c.longestWait

def ofConfig (c : Config.Reconnect) : Reconnect := ⟨c.initialWait, c.maxWait⟩

def nextWait (c : Reconnect) (wait : Duration) : Duration := min wait.doubled c.longestWait

def describe (c : Reconnect) (observed : Bool) : String :=
  s!"ResilientConfig \x7b reconnect_wait: {c.firstWait.describe}" ++
    s!", max_reconnect_wait: {c.longestWait.describe}, on_state_change: {observed} \x7d"

end Reconnect

namespace Reconnecting

def name : String := "resilient"

structure Slot where
  connection : Option Connection := none
  closed : Bool := false
deriving Repr, DecidableEq, Inhabited

inductive Goal where
  | send (m : Message)
  | receive
deriving Repr, DecidableEq, Inhabited

def Goal.operation : Goal → Operation
  | send m => .send m
  | receive => .receive

/-- A search for a connection: what it is for, and the failure of the connection that it replaces, if it
replaces one. -/
structure Search where
  goal : Goal
  cause : Option TransportError := none
deriving Repr, DecidableEq, Inhabited

inductive Phase where
  | dialing (search : Search) (wait : Duration)
  /-- The time of the next dial; `last` is why the dial before failed. -/
  | resting (search : Search) (wait : Duration) (last : TransportError)
  /-- The close of a connection that came too late, before going on with the one that came first. -/
  | discarding (search : Search) (winner : Option Connection)
  /-- The outcome of the operation on a connection, which may be a replacement. -/
  | using (goal : Goal) (c : Connection) (replaced : Bool)
  /-- The close of a connection that failed. -/
  | dropping (goal : Goal) (cause : TransportError)
  | closing
deriving Repr, DecidableEq, Inhabited

inductive Request where
  | dial
  | operate (c : Connection) (op : Operation)
  | rest (wait : Duration)
deriving Repr, DecidableEq

inductive Report where
  | state (s : ConnectionState)
  | connected (c : Connection)
  | dialFailed (why : TransportError) (wait : Duration)
  | closeFailed (why : TransportError)
deriving Repr, DecidableEq

def Report.log (nameOf : Connection → String) : Report → LogEvent
  | state s => ⟨.debug, "resilient transport state", [("state", .text s.name)]⟩
  | connected c => ⟨.info, "resilient transport connected", [("transport", .text (nameOf c))]⟩
  | dialFailed why wait =>
    ⟨.warn, "dial failed; backing off",
      [("error", .text why.message), ("wait_ms", .integer wait.millis)]⟩
  | closeFailed why => ⟨.debug, "closing failed connection", [("error", .text why.message)]⟩

inductive Next where
  | ask (request : Request) (phase : Phase)
  | finish (reply : Reply)
deriving Repr

/-- What a step does: the slot after it, what it makes known in order, and how it ends. -/
structure Step where
  slot : Slot
  reports : List Report := []
  next : Next
deriving Repr

/-- A step with something made known before it. -/
def Step.after (reports : List Report) (s : Step) : Step := { s with reports := reports ++ s.reports }

def closedError : TransportError := .closed name

/-- A search has failed. Only a failed dial is worth telling beside what broke the connection. -/
def giveUp (slot : Slot) (search : Search) (why : TransportError) : Step :=
  let told : TransportError :=
    match search.cause with
    | none => why
    | some cause =>
      match why with
      | .context _ => cause
      | .closed _ => why
      | other => .reconnectFailed other
  { slot, next := .finish (.error told) }

def use (slot : Slot) (goal : Goal) (c : Connection) (replaced : Bool) : Step :=
  { slot, next := .ask (.operate c goal.operation) (.using goal c replaced) }

/-- Dials, unless the context has ended, the transport is closed, or there is a connection by now. -/
def dialUnless (slot : Slot) (ended : Option ContextError) (search : Search) (wait : Duration)
    (last : Option TransportError) (found : Connection → Step) : Step :=
  match ended with
  | some e => giveUp slot search (last.getD (.context e))
  | none =>
    if slot.closed then giveUp slot search closedError
    else
      match slot.connection with
      | some c => found c
      | none =>
        { slot, reports := [.state .connecting], next := .ask .dial (.dialing search wait) }

/-- Starts to send or receive: on the connection that is there, or on one that is dialed first. -/
def start (config : Reconnect) (slot : Slot) (ended : Option ContextError) (goal : Goal) : Step :=
  let search : Search := { goal }
  if slot.closed then giveUp slot search closedError
  else
    match slot.connection with
    | some c => use slot goal c false
    | none => dialUnless slot ended search config.firstWait none fun c => use slot goal c false

/-- Goes on after a search. Receiving starts over; a message is sent again on the replacement. -/
def found (config : Reconnect) (slot : Slot) (ended : Option ContextError) (search : Search)
    (c : Connection) : Step :=
  match search.cause, search.goal with
  | none, goal => use slot goal c false
  | some _, .send m => use slot (.send m) c true
  | some _, .receive => start config slot ended .receive

/-- Searches on, or goes on with a connection that has appeared. -/
def search (config : Reconnect) (slot : Slot) (ended : Option ContextError) (s : Search)
    (wait : Duration) (last : Option TransportError) : Step :=
  dialUnless slot ended s wait last (found config slot ended s)

/-- A dial has come to an end. A connection that nobody needs any more is closed. -/
def afterDial (config : Reconnect) (slot : Slot) (ended : Option ContextError) (s : Search)
    (wait : Duration) (result : Except TransportError Connection) : Step :=
  match result with
  | .error why =>
    { slot, reports := [.dialFailed why wait], next := .ask (.rest wait) (.resting s wait why) }
  | .ok c =>
    if slot.closed then { slot, next := .ask (.operate c .close) (.discarding s none) }
    else
      match slot.connection with
      | some winner => { slot, next := .ask (.operate c .close) (.discarding s (some winner)) }
      | none =>
        (found config { slot with connection := some c } ended s c).after
          [.connected c, .state .connected]

/-- A wait has come to an end, by time, by the end of the context or by closing. -/
def afterRest (config : Reconnect) (slot : Slot) (ended : Option ContextError) (s : Search)
    (wait : Duration) (last : TransportError) : Step :=
  search config slot ended s (config.nextWait wait) (some last)

def afterDiscard (config : Reconnect) (slot : Slot) (ended : Option ContextError) (s : Search)
    (winner : Option Connection) : Step :=
  match winner with
  | some c => (found config slot ended s c).after [.connected c, .state .connected]
  | none => giveUp slot s closedError

/-- The operation on a connection has come to an end. A connection that broke is dropped, unless
another operation has done that before, and replaced. -/
def afterUse (config : Reconnect) (slot : Slot) (ended : Option ContextError) (goal : Goal)
    (c : Connection) (replaced : Bool) (reply : Reply) : Step :=
  match reply with
  | .ok _ => { slot, next := .finish reply }
  | .error why =>
    if replaced || ended.isSome || !why.isConnectionFailure then { slot, next := .finish reply }
    else if slot.connection = some c then
      { slot := { slot with connection := none }
        next := .ask (.operate c .close) (.dropping goal why) }
    else search config slot ended ⟨goal, some why⟩ config.firstWait none

def afterDrop (config : Reconnect) (slot : Slot) (ended : Option ContextError) (goal : Goal)
    (cause : TransportError) (reply : Reply) : Step :=
  let failed : List Report :=
    match reply with
    | .ok _ => []
    | .error why => [.closeFailed why]
  (search config slot ended ⟨goal, some cause⟩ config.firstWait none).after
    (failed ++ [.state .disconnected])

def close (slot : Slot) : Step :=
  if slot.closed then { slot, next := .finish (.ok none) }
  else
    { slot := { connection := none, closed := true }
      reports := [.state .closed]
      next :=
        match slot.connection with
        | some c => .ask (.operate c .close) .closing
        | none => .finish (.ok none) }

def perform (config : Reconnect) (slot : Slot) (ended : Option ContextError) : Operation → Step
  | .send m => start config slot ended (.send m)
  | .receive => start config slot ended .receive
  | .close => close slot

/-- The step of an operation whose wait is over. The outcome of a dial and the reply of a connection
count where they were waited for. -/
def resume (config : Reconnect) (slot : Slot) (ended : Option ContextError) (phase : Phase)
    (dialed : Except TransportError Connection) (reply : Reply) : Step :=
  match phase with
  | .dialing s wait => afterDial config slot ended s wait dialed
  | .resting s wait last => afterRest config slot ended s wait last
  | .discarding s winner => afterDiscard config slot ended s winner
  | .using goal c replaced => afterUse config slot ended goal c replaced reply
  | .dropping goal cause => afterDrop config slot ended goal cause reply
  | .closing => { slot, next := .finish reply }

def describe (config : Reconnect) (observed : Bool) (slot : Slot) : String :=
  "Resilient \x7b config: " ++ config.describe observed ++
    s!", connected: {slot.connection.isSome}, closed: {slot.closed}, .. \x7d"

end Reconnecting
end Courier
