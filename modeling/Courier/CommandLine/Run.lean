import Courier.CommandLine.Arguments
import Courier.Simulation.Scheduler
import Courier.Validation
import Courier.Version

/-! The commands of the tool: what they print, what they leave in files, and with which status they
end. -/

namespace Courier.CommandLine
open Simulation

structure Surroundings where
  files : Config.Files
  /-- The directory that relative paths start from. -/
  directory : String := ""
  /-- What the environment names as the configuration file. -/
  configFile : Option Bytes := none
  input : Bytes := []

structure Result where
  exit : Nat := 0
  output : Bytes := []
  remarks : List String := []
  files : Config.Files

def toolName : String := "mist"

def toolVersion : String := "0.1.0"

def standardConfig : String := "mist.toml"

/-- The status of an error that has no class. -/
def plainFailure : Nat := 1

/-- The status for words that make no sense. -/
def misuseStatus : Nat := 2

def usage : String := "Usage: mist [--config <FILE>] [-V] [ping|validate|relay|listen|negotiate]\n"

namespace Result

def print (r : Result) (text : String) : Result := { r with output := r.output ++ Utf8.ofString text }

def remark (r : Result) (line : String) : Result := { r with remarks := r.remarks ++ [line] }

def fail (r : Result) (exit : Nat) (words : List String) : Result :=
  { r.remark (": ".intercalate (toolName :: words)) with exit }

end Result

/-- The words of a failure, as far as they are this library's own; whether that is all of them. -/
def ownWords : TransportError → List String × Bool
  | .protocol (.json _) => ([], false)
  | .marshal transport (.json _) => ([s!"{transport} transport", "marshal"], false)
  | .http _ => (["http transport"], false)
  | .listen _ => (["http transport"], false)
  | .listenerRunning _ => (["http transport"], false)
  | .reconnectFailed cause =>
    let (words, complete) := ownWords cause
    ("resilient transport" :: "reconnect failed" :: words, complete)
  | .retriesExhausted attempts cause =>
    let (words, complete) := ownWords cause
    (s!"send failed after {attempts} attempts" :: words, complete)
  | e => ([e.message], true)

def trail (e : TransportError) : List String :=
  let (words, complete) := ownWords e
  if !complete then words
  else
    words ++
      match e with
      | .io _ text => [text]
      | .marshal _ (.invalidVersion version why) =>
        [(ProtocolError.invalidVersion version why).message, why.message]
      | .marshal _ cause => [cause.message]
      | .protocol (.invalidVersion _ why) => [why.message]
      | .reconnectFailed cause => trail cause
      | .retriesExhausted _ cause => trail cause
      | .other cause => cause.cause.toList
      | _ => []

def worldOf (s : Surroundings) : World :=
  { files := s.files, directory := s.directory, standardInput := s.input }

def outputOf (w : World) : Bytes := w.devices.toList.flatMap fun
  | .stream t => t.output
  | _ => []

def replyOf : Option (Answer × Instant) → Reply
  | some (.reply r, _) => r
  | _ => .ok none

def ping (s : Surroundings) (config : Config) (url : String) : Result :=
  let done : Result := { files := s.files }
  let (place, w) := (worldOf s).dialAddress url config.transport.dialOptions
  match place with
  | .error e => done.fail e.code.exitStatus (s!"dial {url}" :: trail e)
  | .ok place =>
    let (id, w) := w.freshId
    let m := Message.ofPayload Payload.HealthPing.codec id w.wallTime config.source
      Payload.Kind.healthPing.name ⟨config.source⟩
    let (ctx, w) := w.context { timeout := some config.transport.httpTimeout }
    let sim : Session := { world := w }
    let (sim, sent) := sim.perform ctx (.retry place m (RetryPolicy.ofConfig config.retry))
    let (sim, closed) := sim.perform ctx (.operate place .close)
    let done := { done with files := sim.world.files, output := outputOf sim.world }
    match replyOf sent, replyOf closed with
    | .error e, _ => done.fail e.code.exitStatus ("send" :: trail e)
    | .ok _, .error e => done.fail e.code.exitStatus (trail e)
    | .ok _, .ok _ =>
      let elapsed : Duration := ⟨sim.world.clock.now⟩
      done.remark s!"ping sent to {url} ({elapsed.describe})"

def validate (s : Surroundings) : Result :=
  let (found, readable) := Validation.check s.input
  let remarks := found.faults.map fun (line, why) =>
    ": ".intercalate (s!"invalid: line {line}" ::
      match why with
      | .json _ => []
      | why => [why.message])
  let done : Result := { files := s.files, remarks }
  if !readable then done.fail plainFailure ["read stdin", Config.ReadFault.noText.message]
  else
    let done := done.print s!"\x7b\"valid\":{found.valid},\"invalid\":{found.invalid}\x7d\n"
    if found.invalid = 0 then done
    else
      let e := CodedError.ofCode .validation s!"{found.invalid} invalid messages"
      done.fail e.code.exitStatus [e.text]

/-- What a relay wraps its destination in: it repeats sends as configured. -/
def relayWrapper (c : Config.Retry) : Middleware :=
  ({} : Middleware).withRetry ⟨c.maxAttempts, c.initialWait, c.maxWait, c.multiplier⟩

/-- Passes messages on until the source is exhausted. -/
def relay (s : Surroundings) (config : Config) (source destination : String) : Result :=
  let done : Result := { files := s.files }
  let options := config.transport.dialOptions
  let (origin, w) := (worldOf s).dialAddress source options
  match origin with
  | .error e => done.fail e.code.exitStatus (s!"dial src {source}" :: trail e)
  | .ok origin =>
    let (target, w) := w.dialAddress destination options
    match target with
    | .error e => done.fail e.code.exitStatus (s!"dial dst {destination}" :: trail e)
    | .ok target =>
      let done := done.remark s!"relaying {source} -> {destination}"
      let (target, w) := w.addDevice (.middleware (relayWrapper config.retry) target)
      let (ctx, w) := w.context {}
      let (sim, result) := Session.perform { world := w } ctx (.relay origin target)
      let done := { done with files := sim.world.files, output := outputOf sim.world }
      match result with
      | some (.relayed (.error e), _) =>
        done.fail e.cause.code.exitStatus (e.context :: trail e.cause)
      | some (.relayed (.ok count), _) => done.remark s!"relayed {count} messages"
      | _ => done

/-- Waits for messages. There is no network to bind a listener in. -/
def listen (s : Surroundings) (address : SocketAddress) : Result :=
  let e : TransportError := .listen address.text
  Result.fail { files := s.files } e.code.exitStatus [e.message]

def negotiate (s : Surroundings) (localRange remoteRange : String) : Result :=
  let done : Result := { files := s.files }
  match Version.negotiate localRange remoteRange with
  | .ok version => done.print (version ++ "\n")
  | .error e => done.fail e.code.exitStatus [e.message]

def runCommand (s : Surroundings) (config : Config) : Option Command → Result
  | none => Result.print { files := s.files } (Version.info ++ "\n")
  | some (.ping url) => ping s config url
  | some .validate => validate s
  | some (.relay source destination) => relay s config source destination
  | some (.listen address) => listen s (address.getD config.transport.listen)
  | some (.negotiate localRange remoteRange) => negotiate s localRange remoteRange

/-- Makes the directory for log files; tells what is wrong if that cannot be. -/
def prepareLogging (s : Surroundings) (config : Config) : Option String :=
  match config.logging.directory with
  | none => none
  | some directory =>
    let path := Config.Files.absolute s.directory directory
    match s.files path with
    | .content _ => some "File exists (os error 17)"
    | .barred visible why => some (if visible then "File exists (os error 17)" else why.message)
    | .directory => none
    | .missing =>
      match s.files.absence path with
      | .notADirectory => some Config.ReadFault.notADirectory.message
      | _ => none

def runArguments (s : Surroundings) (a : Arguments) : Result :=
  let done : Result := { files := s.files }
  if a.version then done.print s!"{toolName} {toolVersion} ({Version.info})\n"
  else
    let files : Config.Files := fun p => s.files (Config.Files.absolute s.directory p)
    let loaded :=
      match a.config with
      | some file => Config.load files s.configFile [file]
      | none => Config.loadOrDefault files s.configFile [standardConfig]
    match loaded with
    | .error e =>
      done.fail plainFailure (e.message ::
        match e with
        | .unreadable _ why => [why.message]
        | _ => [])
    | .ok config =>
      match prepareLogging s config with
      | some why => done.fail plainFailure [why]
      | none => runCommand s config a.command

def run (s : Surroundings) (words : List String) : Result :=
  match parse words with
  | .arguments a => runArguments s a
  | .help => Result.print { files := s.files } usage
  | .misuse => { Result.remark { files := s.files } usage with exit := misuseStatus }

def addresses (a : Arguments) : List Endpoint :=
  let urls :=
    match a.command with
    | some (.ping url) => [url]
    | some (.relay source destination) => [source, destination]
    | _ => []
  urls.filterMap fun url => (Endpoint.parse url).toOption

/-- The paths that a command line may have to do with, directories included. -/
def pathsOf (configFile : Option Bytes) (words : List String) : List String :=
  match parse words with
  | .arguments a =>
    let files := ((addresses a).filter (·.kind = .file)).map (·.address)
    (a.config.toList ++ (Config.chosenFile? configFile).toList ++ [standardConfig] ++ files).flatMap fun path =>
      path :: Config.ancestors path
  | _ => []

def readsInput (words : List String) : Bool :=
  match parse words with
  | .arguments a =>
    a.command = some .validate || (addresses a).any (·.kind = .stdio)
  | _ => false

end Courier.CommandLine
