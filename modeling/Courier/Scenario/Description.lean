import Courier.Retry
import Courier.Simulation.World

/-! Scenarios are described in JSON. Here is how the parts of a description are read: bytes, durations,
errors, messages, contexts, scripts. Whatever a description leaves out has a default. -/

namespace Courier.Scenario
open Json Simulation

def part (v : Value) (name : String) : Value := (v.field? name).getD .null

def string (v : Value) (name standard : String) : String := ((v.field? name).bind (·.text?)).getD standard

def integer (v : Value) (name : String) (standard : Int) : Int :=
  ((v.field? name).bind (·.integer?)).getD standard

def natural (v : Value) (name : String) (standard : Nat) : Nat := (integer v name standard).toNat

def flag (v : Value) (name : String) : Bool := ((v.field? name).bind (·.boolean?)).getD false

def list (v : Value) (name : String) : List Value := ((v.field? name).bind (·.array?)).getD []

def depth : Nat := depthLimit + 1

def ofHex : List Char → Bytes
  | a :: b :: rest =>
    let digit (c : Char) : Nat := (hexValue? c.toNat.toUInt8).getD 0
    UInt8.ofNat (digit a * 16 + digit b) :: ofHex rest
  | _ => []

/-- Bytes: a text, hexadecimal digits, a repetition, or a list of these. -/
def bytesWithin : Nat → Value → Bytes
  | 0, _ => []
  | n + 1, v =>
    match v with
    | .text s => Utf8.ofString s
    | .array items => items.flatMap (bytesWithin n)
    | v =>
      match v.field? "hex", v.field? "repeat" with
      | some (.text digits), _ => ofHex digits.toList
      | _, some (.array [b, .integer count]) =>
        (List.replicate count.toNat (bytesWithin n b)).flatten
      | _, _ => []

def toBytes (v : Value) : Bytes := bytesWithin depth v

def bytes (v : Value) (name standard : String) : Bytes :=
  toBytes ((v.field? name).getD (.text standard))

def text (v : Value) (name standard : String) : String :=
  (Utf8.toString? (bytes v name standard)).getD ""

def toDouble (s : String) : Binary64 :=
  let value (digits : List Char) : Nat := digits.foldl (fun n c => n * 10 + (c.toNat - 48)) 0
  let (negative, rest) :=
    match s.toList with
    | '-' :: rest => (true, rest)
    | '+' :: rest => (false, rest)
    | rest => (false, rest)
  let word := (String.ofList rest).toLower
  if word = "inf" || word = "infinity" then .infinity negative
  else if word = "nan" then .nan
  else
    let whole := rest.takeWhile Char.isDigit
    let rest := rest.dropWhile Char.isDigit
    let (fraction, rest) :=
      match rest with
      | '.' :: rest => (rest.takeWhile Char.isDigit, rest.dropWhile Char.isDigit)
      | rest => ([], rest)
    let exponent : Int :=
      match rest with
      | _ :: '-' :: digits => -(value digits : Int)
      | _ :: '+' :: digits => value digits
      | _ :: digits => value digits
      | [] => 0
    .ofDecimal negative (value (whole ++ fraction)) (exponent - fraction.length)

def double (v : Value) (name standard : String) : Binary64 := toDouble (string v name standard)

/-- A duration: milliseconds, seconds and nanoseconds, or the longest of all. -/
def toDuration : Value → Duration
  | .integer ms => .ofMillis ms.toNat
  | .text _ => .limit
  | v => ⟨natural v "s" 0 * Duration.nanosPerSecond + natural v "ns" 0⟩

def duration (v : Value) (name : String) (standard : Duration) : Duration :=
  ((v.field? name).map toDuration).getD standard

def toMessage (v : Value) : Message :=
  ⟨text v "version" "1", text v "id" "m", text v "source" "s", text v "type" "t",
    integer v "timestamp_ns" 1, bytes v "payload" "{}", natural v "checksum" 0⟩

def toErrorCode (name : String) : ErrorCode := (ErrorCode.ofName? name).getD .internal

def codedErrorWithin : Nat → Value → CodedError
  | 0, _ => default
  | n + 1, v =>
    let e := CodedError.ofCode (toErrorCode (string v "code" "internal")) (text v "message" "boom")
    let e :=
      match v.field? "cause" with
      | some (.text s) => { e with cause := some s }
      | some cause => { e with cause := some (codedErrorWithin n cause).text }
      | none => e
    let e := (list v "meta").foldl (fun (e : CodedError) pair =>
      match pair with
      | .array [.text key, .text value] => e.note key value
      | _ => e) e
    (list v "override").foldl (fun (e : CodedError) word =>
      match word with
      | .text "retriable" => e.retriable
      | .text _ => e.permanent
      | _ => e) e

def toCodedError (v : Value) : CodedError := codedErrorWithin depth v

def toProtocolError (v : Value) : ProtocolError :=
  let text (name : String) : String := text v name ""
  match string v "kind" "" with
  | "MissingField" => .missingField (text "field")
  | "PayloadTooLarge" => .payloadTooLarge (natural v "size" 0)
  | "MessageTooLarge" => .messageTooLarge (natural v "size" 0) (natural v "max" 0)
  | "EmptyVersion" => .emptyVersion
  | "InvalidVersion" =>
    match Version.readVersion (text "version").toList with
    | .error why => .invalidVersion (text "version") why
    | .ok _ => .emptyVersion
  | "VersionTooOld" => .versionTooOld (text "version")
  | "VersionTooNew" => .versionTooNew (text "version")
  | "InvalidRange" =>
    .invalidRange (if string v "side" "" = "remote" then .remote else .local) (text "range")
      (.other (text "reason"))
  | "NoCompatibleVersion" => .noCompatibleVersion (text "local") (text "remote")
  | _ =>
    match Json.parse (bytes v "text" "") with
    | .error why => .json why
    | .ok _ => .json .malformed

/-- A failure of a transport: its kind with its parts, or the kind alone. -/
def transportErrorWithin : Nat → Value → TransportError
  | 0, _ => default
  | n + 1, v =>
    let v := if let .text kind := v then .ofMembers [("kind", .text kind)] else v
    let transport := text v "transport" "script"
    let source := part v "source"
    match string v "kind" "" with
    | "BufferFull" => .bufferFull
    | "Closed" => .closed transport
    | "NoMoreMessages" => .noMoreMessages
    | "InputClosed" => .inputClosed
    | "LineTooLong" => .lineTooLong transport (natural v "limit" maxLineBytes)
    | "Io" => .io transport (text v "text" "refused")
    | "Http" => .http false
    | "Status" => .status (natural v "status" 500)
    | "Listen" => .listen (text v "addr" "")
    | "ListenerRunning" => .listenerRunning (text v "addr" "")
    | "Marshal" => .marshal transport (toProtocolError source)
    | "Protocol" => .protocol (toProtocolError source)
    | "Cancelled" => .context .cancelled
    | "DeadlineExceeded" => .context .deadlineExceeded
    | "UnsupportedScheme" => .unsupportedScheme (text v "scheme" "") (text v "url" "")
    | "InvalidAddress" => .invalidAddress (text v "url" "")
    | "ReconnectFailed" => .reconnectFailed (transportErrorWithin n source)
    | "RetriesExhausted" =>
      .retriesExhausted (natural v "attempts" 3) (transportErrorWithin n source)
    | _ => .other (toCodedError v)

def toTransportError (v : Value) : TransportError := transportErrorWithin depth v

def outcomeWithin : Nat → Value → Outcome
  | 0, _ => .ok
  | n + 1, v =>
    match v with
    | .text "ok" => .ok
    | .text "block" => .block
    | v =>
      match v.field? "msg", v.field? "after" with
      | some m, _ => .message (toMessage m)
      | _, some delay => .after (toDuration delay) (outcomeWithin n (part v "then"))
      | _, _ => .fail (toTransportError v)

def toScript (v : Value) : Script :=
  { name := text v "name" "script"
    sends := (list v "sends").map (outcomeWithin depth)
    receives := (list v "receives").map (outcomeWithin depth)
    closing := ((v.field? "close").map (outcomeWithin depth)).getD .ok }

def toContextPlan (v : Value) : ContextPlan :=
  { span := (v.field? "span").bind (·.text?)
    timeout := (v.field? "timeout_ms").map toDuration
    cancelAfter := (v.field? "cancel_at_ms").map toDuration
    cancelled := flag v "cancelled" }

/-- A dial. Scripted transports are added to the world before anything is dialed. -/
def addDial (w : World) (v : Value) : Dial × World :=
  let delay := duration v "after" .zero
  match v.field? "fail", v.field? "channel" with
  | some why, _ => (⟨.refused (toTransportError why), delay⟩, w)
  | _, some (.integer n) => (⟨.channel n.toNat (string v "id" "c"), delay⟩, w)
  | _, _ =>
    let (place, w) := w.addDevice (.script (toScript v))
    (⟨.existing place, delay⟩, w)

/-- What becomes of a call: success, the code of an error, or an error. -/
def toResult : Value → Except CodedError Unit
  | .text "ok" => .ok ()
  | .text code => .error (.ofCode (toErrorCode code) "boom")
  | v => .error (toCodedError v)

def toRetryPolicy : Value → RetryPolicy
  | .text "aggressive" => .aggressive
  | v =>
    match v.members? with
    | some _ =>
      { maxAttempts := natural v "max_attempts" 3
        initialWait := duration v "initial_wait" (.ofMillis 100)
        maxWait := duration v "max_wait" (.ofSeconds 5)
        multiplier := double v "multiplier" "2"
        jitter := double v "jitter" "0" }
    | none => .standard

def toSendRetry (v : Value) : SendRetry :=
  { maxAttempts := natural v "max_attempts" 3
    initialWait := duration v "initial_wait" (.ofMillis 100)
    maxWait := duration v "max_wait" (.ofSeconds 5)
    multiplier := double v "multiplier" "2" }

def toTraceSpan (v : Value) : Payload.TraceSpan :=
  let text (name : String) : String := text v name ""
  ⟨text "trace_id", text "span_id", text "parent_id", text "operation", integer v "start_ns" 0,
    integer v "end_ns" 0, text "status", ((part v "attrs").members?).getD []⟩

end Courier.Scenario
