import Courier.Duration
import Courier.Log
import Courier.Text.Utf8
import Courier.SocketAddress
import Courier.Text.Blank
import Courier.Toml.Printer
import Courier.Toml.Reader

/-! The configuration of a tool: its sections with their defaults, how they are read from TOML, the
rules that a valid one keeps, and the search for the file that holds it. -/

namespace Courier

inductive LogFormat where
  | structuredJson
  | pretty
deriving Repr, DecidableEq, Inhabited

def LogFormat.name : LogFormat → String
  | structuredJson => "structured-json"
  | pretty => "pretty"

namespace Config

structure Logging where
  directory : Option String := none
  format : LogFormat := .structuredJson
  filePrefix : Option String := none
deriving Repr, DecidableEq, Inhabited

structure Transport where
  channelCapacity : Nat := 256
  httpTimeout : Duration := .ofSeconds 10
  httpInboxCapacity : Nat := 256
  httpMaxBodyBytes : Nat := 1048576
  listen : SocketAddress := .v4 127 0 0 1 8081
deriving Repr, DecidableEq, Inhabited

structure Retry where
  maxAttempts : Nat := 3
  initialWait : Duration := .ofMillis 100
  maxWait : Duration := .ofSeconds 5
  multiplier : Binary64 := .ofNat 2
  jitter : Binary64 := .ofDecimal false 25 (-2)
deriving Repr, DecidableEq, Inhabited

structure Breaker where
  threshold : Nat := 5
  timeout : Duration := .ofSeconds 30
  halfOpenMax : Nat := 1
deriving Repr, DecidableEq, Inhabited

structure Reconnect where
  initialWait : Duration := .ofMillis 100
  maxWait : Duration := .ofSeconds 30
deriving Repr, DecidableEq, Inhabited

end Config

structure Config where
  source : String := "mist-cli"
  logging : Config.Logging := {}
  transport : Config.Transport := {}
  retry : Config.Retry := {}
  breaker : Config.Breaker := {}
  reconnect : Config.Reconnect := {}
deriving Repr, DecidableEq, Inhabited

namespace Config

inductive Fault where
  | emptySource
  | zeroChannelCapacity
  | zeroInboxCapacity
  | zeroBodyLimit
  | zeroHttpTimeout
  | zeroAttempts
  | multiplier (given : Binary64)
  | jitter (given : Binary64)
  | retryWaits
  | zeroThreshold
  | zeroHalfOpenMax
  | zeroReconnectWait
  | reconnectWaits
deriving Repr, DecidableEq

def Fault.message : Fault → String
  | emptySource => "source must not be empty"
  | zeroChannelCapacity => "transport.channel_capacity must be at least 1"
  | zeroInboxCapacity => "transport.http_inbox_capacity must be at least 1"
  | zeroBodyLimit => "transport.http_max_body_bytes must be at least 1"
  | zeroHttpTimeout => "transport.http_timeout_ms must be positive"
  | zeroAttempts => "retry.max_attempts must be at least 1"
  | multiplier given => "retry.multiplier must be >= 1.0, got " ++ Binary64.plainStyle.write given
  | jitter given => "retry.jitter must be within [0, 1], got " ++ Binary64.plainStyle.write given
  | retryWaits => "retry.max_wait_ms must be >= retry.initial_wait_ms"
  | zeroThreshold => "breaker.threshold must be at least 1"
  | zeroHalfOpenMax => "breaker.half_open_max must be at least 1"
  | zeroReconnectWait => "reconnect.initial_wait_ms must be positive"
  | reconnectWaits => "reconnect.max_wait_ms must be >= reconnect.initial_wait_ms"

def demand (condition : Bool) (fault : Fault) : Except Fault Unit :=
  if condition then .ok () else .error fault

def Transport.validate (t : Transport) : Except Fault Unit := do
  demand (t.channelCapacity != 0) .zeroChannelCapacity
  demand (t.httpInboxCapacity != 0) .zeroInboxCapacity
  demand (t.httpMaxBodyBytes != 0) .zeroBodyLimit
  demand (!t.httpTimeout.isZero) .zeroHttpTimeout

def Retry.validate (r : Retry) : Except Fault Unit := do
  demand (r.maxAttempts != 0) .zeroAttempts
  demand (r.multiplier.isFinite && (Binary64.ofNat 1).le r.multiplier) (.multiplier r.multiplier)
  demand (Binary64.zero.le r.jitter && r.jitter.le (.ofNat 1)) (.jitter r.jitter)
  demand (r.initialWait ≤ r.maxWait) .retryWaits

def Breaker.validate (b : Breaker) : Except Fault Unit := do
  demand (b.threshold != 0) .zeroThreshold
  demand (b.halfOpenMax != 0) .zeroHalfOpenMax

def Reconnect.validate (r : Reconnect) : Except Fault Unit := do
  demand (!r.initialWait.isZero) .zeroReconnectWait
  demand (r.initialWait ≤ r.maxWait) .reconnectWaits

def validate (c : Config) : Except Fault Unit := do
  demand (!(Text.trim c.source).isEmpty) .emptySource
  c.transport.validate
  c.retry.validate
  c.breaker.validate
  c.reconnect.validate

section Reading
open Toml

/-- The settings of a section that has the given names. A section may be spelled as the list of its
settings in order. -/
def settings? (names : List String) : Node → Option (List (Option Node))
  | .table _ entries => some (names.map fun name => entries.lookup name)
  | .array items => some (names.mapIdx fun i _ => items[i]?)
  | .tables newestFirst =>
    some (names.mapIdx fun i _ => newestFirst.reverse[i]?.map (Node.table .header))
  | .datetime => some (names.map fun _ => none)
  | _ => none

def setting {α : Type} (read : Node → Option α) (standard : α) : Option Node → Option α
  | none => some standard
  | some node => read node

def text? : Node → Option String
  | .text s => some s
  | _ => none

def natural? (limit : Nat) : Node → Option Nat
  | .integer i => if 0 ≤ i && i ≤ limit then some i.toNat else none
  | _ => none

def word32? : Node → Option Nat := natural? 4294967295
def word64? : Node → Option Nat := natural? 18446744073709551615
def millis? (node : Node) : Option Duration := (word64? node).map .ofMillis

def double? : Node → Option Binary64
  | .double x => some x
  | .integer i => some (.ofInt i)
  | _ => none

def format? (node : Node) : Option LogFormat :=
  let named (name : String) : Option LogFormat :=
    [LogFormat.structuredJson, .pretty].find? (·.name = name)
  match node with
  | .text s => named s
  | .table _ [(name, .table _ [])] => named name
  | .table _ [(name, .array [])] => named name
  | _ => none

def logging? (node : Node) : Option Logging := do
  let [directory, format, filePrefix] ← settings? ["directory", "format", "file_prefix"] node | none
  return { directory := ← setting (fun n => (text? n).map some) none directory
           format := ← setting format? .structuredJson format
           filePrefix := ← setting (fun n => (text? n).map some) none filePrefix }

def transport? (node : Node) : Option Transport := do
  let [capacity, timeout, inbox, body, listen] ←
    settings? ["channel_capacity", "http_timeout_ms", "http_inbox_capacity", "http_max_body_bytes",
      "listen"] node | none
  let standard : Transport := {}
  return { channelCapacity := ← setting word64? standard.channelCapacity capacity
           httpTimeout := ← setting millis? standard.httpTimeout timeout
           httpInboxCapacity := ← setting word64? standard.httpInboxCapacity inbox
           httpMaxBodyBytes := ← setting word64? standard.httpMaxBodyBytes body
           listen := ← setting (fun n => (text? n).bind SocketAddress.ofString?) standard.listen
             listen }

def retry? (node : Node) : Option Retry := do
  let [attempts, initial, longest, multiplier, jitter] ←
    settings? ["max_attempts", "initial_wait_ms", "max_wait_ms", "multiplier", "jitter"] node | none
  let standard : Retry := {}
  return { maxAttempts := ← setting word32? standard.maxAttempts attempts
           initialWait := ← setting millis? standard.initialWait initial
           maxWait := ← setting millis? standard.maxWait longest
           multiplier := ← setting double? standard.multiplier multiplier
           jitter := ← setting double? standard.jitter jitter }

def breaker? (node : Node) : Option Breaker := do
  let [threshold, timeout, halfOpen] ←
    settings? ["threshold", "timeout_ms", "half_open_max"] node | none
  let standard : Breaker := {}
  return { threshold := ← setting word32? standard.threshold threshold
           timeout := ← setting millis? standard.timeout timeout
           halfOpenMax := ← setting word32? standard.halfOpenMax halfOpen }

def reconnect? (node : Node) : Option Reconnect := do
  let [initial, longest] ← settings? ["initial_wait_ms", "max_wait_ms"] node | none
  let standard : Reconnect := {}
  return { initialWait := ← setting millis? standard.initialWait initial
           maxWait := ← setting millis? standard.maxWait longest }

def ofEntries? (entries : Entries) : Option Config := do
  return { source := ← setting text? "mist-cli" (entries.lookup "source")
           logging := ← setting logging? {} (entries.lookup "logging")
           transport := ← setting transport? {} (entries.lookup "transport")
           retry := ← setting retry? {} (entries.lookup "retry")
           breaker := ← setting breaker? {} (entries.lookup "breaker")
           reconnect := ← setting reconnect? {} (entries.lookup "reconnect") }

end Reading

/-- Why a file cannot be read as text. -/
inductive ReadFault where
  | missing
  /-- The path leads through a file. -/
  | notADirectory
  | isADirectory
  | forbidden
  | nameTooLong
  | noText
deriving Repr, DecidableEq

namespace ReadFault

def kind : ReadFault → String
  | missing => "NotFound"
  | notADirectory => "NotADirectory"
  | isADirectory => "IsADirectory"
  | forbidden => "PermissionDenied"
  | nameTooLong => "InvalidFilename"
  | noText => "InvalidData"

def message : ReadFault → String
  | missing => "No such file or directory (os error 2)"
  | notADirectory => "Not a directory (os error 20)"
  | isADirectory => "Is a directory (os error 21)"
  | forbidden => "Permission denied (os error 13)"
  | nameTooLong => "File name too long (os error 36)"
  | noText => "stream did not contain valid UTF-8"

end ReadFault

inductive LoadError where
  /-- A text that is no configuration; the file it came from, if it came from one. -/
  | unparsable (file : Option String)
  | invalid (fault : Fault)
  | unreadable (file : String) (why : ReadFault)
  /-- None of the candidates exists. -/
  | notFound (candidates : List String)
deriving Repr, DecidableEq

def LoadError.message : LoadError → String
  | unparsable none => "failed to parse configuration"
  | unparsable (some file) => s!"failed to parse config file {file}"
  | invalid fault => fault.message
  | unreadable file _ => s!"unable to read config file {file}"
  | notFound candidates =>
    "no configuration files found. inspected: " ++ ", ".intercalate candidates

def ofText (file : Option String) (document : String) : Except LoadError Config := do
  match (Toml.parse? document).bind ofEntries? with
  | none => throw (.unparsable file)
  | some config =>
    match config.validate with
    | .error fault => throw (.invalid fault)
    | .ok () => return config

inductive FileState where
  | missing
  | directory
  | content (bytes : Bytes)
  /-- Something that cannot be opened. Unless it is `visible`, not even its status can be read. -/
  | barred (visible : Bool) (why : ReadFault)
deriving Repr, DecidableEq

abbrev Files := String → FileState

/-- The directories that a path leads through, the outermost one first. -/
def ancestors (path : String) : List String :=
  let parts := path.splitOn "/"
  (List.range (parts.length - 1)).map fun n =>
    let front := "/".intercalate (parts.take (n + 1))
    if front.isEmpty then "/" else front

def FileState.isFile : FileState → Bool
  | content _ => true
  | _ => false

def Files.absence (files : Files) (path : String) : ReadFault :=
  if (ancestors path).any fun p => (files p).isFile then .notADirectory else .missing

def fileVariable : String := "MIST_CONFIG"

def ofFile (files : Files) (file : String) : Except LoadError Config :=
  match files file with
  | .missing => .error (.unreadable file (files.absence file))
  | .directory => .error (.unreadable file .isADirectory)
  | .barred _ why => .error (.unreadable file why)
  | .content bytes =>
    match Utf8.toString? bytes with
    | none => .error (.unreadable file .noText)
    | some document => ofText (some file) document

/-- The file that the environment names, if it does. A value that is no text, or is blank, names none. -/
def chosenFile? (override : Option Bytes) : Option String :=
  (override.bind Utf8.toString?).filter fun file => !(Text.trim file).isEmpty

/-- Whether one who asks for the status of a file learns that it exists. -/
def FileState.isThere : FileState → Bool
  | missing => false
  | barred visible _ => visible
  | _ => true

/-- The file that is read: the one that the environment names, or else the first candidate that is seen
to exist. -/
def choose (files : Files) (override : Option Bytes) (candidates : List String) : Option String :=
  match chosenFile? override with
  | some file => some file
  | none => candidates.find? fun file => (files file).isThere

def loading (file : String) : LogEvent :=
  ⟨.debug, "loading configuration", [("config_path", .text file)]⟩

def loadWithFile (files : Files) (override : Option Bytes) (candidates : List String) :
    Except LoadError (Config × String) :=
  match choose files override candidates with
  | some file => (ofFile files file).map (·, file)
  | none => .error (.notFound candidates)

def load (files : Files) (override : Option Bytes) (candidates : List String) :
    Except LoadError Config :=
  (loadWithFile files override candidates).map (·.1)

/-- Whether the environment names a file, or some candidate is seen to exist. -/
def isOffered (files : Files) (override : Option Bytes) (candidates : List String) : Bool :=
  (chosenFile? override).isSome || candidates.any fun file => (files file).isThere

/-- The configuration, or the defaults if neither the environment nor any candidate offers a file. -/
def loadOrDefault (files : Files) (override : Option Bytes) (candidates : List String) :
    Except LoadError Config :=
  if isOffered files override candidates then load files override candidates else .ok {}

section Writing

def toToml (c : Config) : String :=
  let text (name : String) (s : String) : List String := [s!"{name} = " ++ Toml.writeString s]
  let optional (name : String) (s : Option String) : List String := s.toList.flatMap (text name)
  let number (name : String) (n : Nat) : List String := [s!"{name} = {n}"]
  let double (name : String) (x : Binary64) : List String :=
    [s!"{name} = " ++ Toml.doubleStyle.write x]
  let lines : List String :=
    text "source" c.source
    ++ ["", "[logging]"] ++ optional "directory" c.logging.directory
    ++ text "format" c.logging.format.name ++ optional "file_prefix" c.logging.filePrefix
    ++ ["", "[transport]"] ++ number "channel_capacity" c.transport.channelCapacity
    ++ number "http_timeout_ms" c.transport.httpTimeout.millis
    ++ number "http_inbox_capacity" c.transport.httpInboxCapacity
    ++ number "http_max_body_bytes" c.transport.httpMaxBodyBytes
    ++ text "listen" c.transport.listen.text
    ++ ["", "[retry]"] ++ number "max_attempts" c.retry.maxAttempts
    ++ number "initial_wait_ms" c.retry.initialWait.millis
    ++ number "max_wait_ms" c.retry.maxWait.millis
    ++ double "multiplier" c.retry.multiplier ++ double "jitter" c.retry.jitter
    ++ ["", "[breaker]"] ++ number "threshold" c.breaker.threshold
    ++ number "timeout_ms" c.breaker.timeout.millis
    ++ number "half_open_max" c.breaker.halfOpenMax
    ++ ["", "[reconnect]"] ++ number "initial_wait_ms" c.reconnect.initialWait.millis
    ++ number "max_wait_ms" c.reconnect.maxWait.millis
  "".intercalate (lines.map (· ++ "\n"))

open Json in
def toJson (c : Config) : Value :=
  let nat (n : Nat) : Value := .integer n
  let optional (s : Option String) : Value := (s.map Value.text).getD .null
  .ofMembers [
    ("source", .text c.source),
    ("logging", .ofMembers [("directory", optional c.logging.directory),
      ("format", .text c.logging.format.name), ("file_prefix", optional c.logging.filePrefix)]),
    ("transport", .ofMembers [("channel_capacity", nat c.transport.channelCapacity),
      ("http_timeout_ms", nat c.transport.httpTimeout.millis),
      ("http_inbox_capacity", nat c.transport.httpInboxCapacity),
      ("http_max_body_bytes", nat c.transport.httpMaxBodyBytes),
      ("listen", .text c.transport.listen.text)]),
    ("retry", .ofMembers [("max_attempts", nat c.retry.maxAttempts),
      ("initial_wait_ms", nat c.retry.initialWait.millis),
      ("max_wait_ms", nat c.retry.maxWait.millis), ("multiplier", .double c.retry.multiplier),
      ("jitter", .double c.retry.jitter)]),
    ("breaker", .ofMembers [("threshold", nat c.breaker.threshold),
      ("timeout_ms", nat c.breaker.timeout.millis),
      ("half_open_max", nat c.breaker.halfOpenMax)]),
    ("reconnect", .ofMembers [("initial_wait_ms", nat c.reconnect.initialWait.millis),
      ("max_wait_ms", nat c.reconnect.maxWait.millis)])]

end Writing

end Config
end Courier
