import Courier.Checksum
import Courier.Simulation.Scheduler

/-! What becomes of a scenario is reported in JSON. Here is how the parts of a report are written. -/

namespace Courier.Report
open Json Simulation

def natural (n : Nat) : Value := .integer n

def optional {α : Type} (write : α → Value) : Option α → Value
  | some a => write a
  | none => .null

def list {α : Type} (write : α → Value) (as : List α) : Value := .array (as.map write)

def result {ε α : Type} (failure : ε → Value) (success : α → Value) : Except ε α → Value
  | .ok a => success a
  | .error e => failure e

/-- The value with further members, if it has members at all. -/
def extend (v : Value) (more : List (String × Value)) : Value :=
  match v with
  | .object members => .ofMembers (members ++ more)
  | v => v

/-- Longer bytes are reported by their length and checksum. -/
def longestBytes : Nat := 2048

def bytes (b : Bytes) : Value :=
  if (b.drop longestBytes).isEmpty then
    match Utf8.toString? b with
    | some s => .text s
    | none => .ofMembers
        [("hex", .text (String.ofList (b.flatMap fun x => Text.paddedHex 2 x.toNat)))]
  else
    .ofMembers [("len", natural b.length), ("crc32", natural (Checksum.crc32 b).toNat)]

def text (s : String) : Value := bytes (Utf8.ofString s)

def duration (d : Duration) : Value :=
  .ofMembers [("s", natural d.seconds), ("ns", natural d.subsecondNanos)]

def instant (t : Instant) : Value := natural (t / millisecond)

def message (m : Message) : Value :=
  .ofMembers [("version", text m.version), ("id", text m.id), ("source", text m.source),
    ("type", text m.kind), ("timestamp_ns", .integer m.timestamp), ("payload", bytes m.payload),
    ("checksum", natural m.checksum)]

def classified (code : ErrorCode) (retryable : Bool) : List (String × Value) :=
  [("code", .text code.name), ("retryable", .boolean retryable)]

def jsonError (e : Json.Error) : List (String × Value) :=
  let words :=
    match e with
    | .mismatch why => (why.words? fun _ => "_").toList.map fun words => ("message", text words)
    | _ => []
  [("error", .text "Json"), ("category", .text e.category)] ++ words

def protocolError (e : ProtocolError) : Value :=
  let what :=
    match e with
    | .json why => jsonError why
    | _ => [("error", .text e.kind), ("message", text e.message)]
  .ofMembers (what ++ classified e.code e.retryable)

def codedError (e : CodedError) (kind : String) : Value :=
  .ofMembers ([("error", .text kind), ("message", text e.text)] ++ classified e.code e.retryable)

def contextError (e : ContextError) : Value :=
  .ofMembers ([("error", .text e.kind), ("message", .text e.message)]
    ++ classified e.code e.toCoded.retryable)

/-- A failure of a transport with the error that it wraps. -/
def transportError (e : TransportError) : Value :=
  let source : List (String × Value) :=
    match e with
    | .marshal _ cause => [("source", protocolError cause)]
    | .protocol cause => [("source", protocolError cause)]
    | .reconnectFailed cause => [("source", transportError cause)]
    | .retriesExhausted _ cause => [("source", transportError cause)]
    | _ => []
  .ofMembers (("error", .text e.kind) :: ("connection_failure", .boolean e.isConnectionFailure)
    :: classified e.code e.retryable ++ source
    ++ if e.isOwnText then [("message", text e.message)] else [])

def reply : Reply → Value
  | .ok none => .ofMembers [("ok", .boolean true)]
  | .ok (some m) => .ofMembers [("ok", message m)]
  | .error e => transportError e

def counts (c : Counts) : Value :=
  list (fun ((m, n) : Metric × Nat) =>
    .ofMembers [("name", .text m.family), ("help", .text m.help),
      ("labels", .ofMembers (m.labels.map fun (name, value) => (name, .text value))),
      ("value", natural n)]) c.gather

def event (e : LogEvent) : Value :=
  .ofMembers ([("level", .text e.level.name), ("message", .text e.message)] ++ e.fields)

def calls (w : World) (p : Place) : Value :=
  let name : Operation → String
    | .send _ => "send"
    | .receive => "receive"
    | .close => "close"
  match w.device p with
  | .script s => list (fun ((op, t) : Operation × Instant) => .array [.text (name op), instant t]) s.calls
  | _ => .array []

end Courier.Report
