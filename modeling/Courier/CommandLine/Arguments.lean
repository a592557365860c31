import Courier.SocketAddress

/-! The words of the command line. Options stand before the command; behind the command stand its
operands, among which `--` takes away the special meaning of a hyphen. -/

namespace Courier.CommandLine

inductive Command where
  | ping (url : String)
  | validate
  | relay (source destination : String)
  | listen (address : Option SocketAddress)
  | negotiate (localRange remoteRange : String)
deriving Repr, DecidableEq

structure Arguments where
  config : Option String := none
  version : Bool := false
  command : Option Command := none
deriving Repr, DecidableEq

/-- What becomes of the words of a command line. -/
inductive Parsed where
  | arguments (a : Arguments)
  | help
  | misuse
deriving Repr, DecidableEq

def isOption (word : String) : Bool :=
  match word.toList with
  | '-' :: _ :: _ => true
  | _ => false

/-- The operands behind a command, or `none` for a request for help, or misuse. -/
def operands : List String → Except Parsed (List String)
  | [] => .ok []
  | word :: rest =>
    if word = "--" then .ok rest
    else if word = "--help" || "-h".toList.isPrefixOf word.toList then .error .help
    else if isOption word then .error .misuse
    else (operands rest).map (word :: ·)

def command? (name : String) (given : List String) : Option Command :=
  match name, given with
  | "ping", [url] => some (.ping url)
  | "validate", [] => some .validate
  | "relay", [source, destination] => some (.relay source destination)
  | "listen", [] => some (.listen none)
  | "listen", [address] => (SocketAddress.ofString? address).map fun a => .listen (some a)
  | "negotiate", [localRange, remoteRange] => some (.negotiate localRange remoteRange)
  | _, _ => none

def commandNames : List String := ["ping", "validate", "relay", "listen", "negotiate"]

def parseCommand (a : Arguments) (name : String) (rest : List String) : Parsed :=
  if name = "help" then
    match rest with
    | [] => .help
    | topic :: _ => if commandNames.contains topic || topic = "help" then .help else .misuse
  else if commandNames.contains name then
    match operands rest with
    | .error parsed => parsed
    | .ok given =>
      match command? name given with
      | some command => .arguments { a with command := some command }
      | none => .misuse
  else .misuse

def addShort (a : Arguments) : List Char → Except Parsed Arguments
  | [] => .ok a
  | 'V' :: rest => if a.version then .error .misuse else addShort { a with version := true } rest
  | 'h' :: _ => .error .help
  | _ :: _ => .error .misuse

def setConfig (a : Arguments) (file : String) : Except Parsed Arguments :=
  if file.isEmpty || a.config.isSome then .error .misuse else .ok { a with config := some file }

def parseFrom (a : Arguments) : List String → Parsed
  | [] => .arguments a
  | word :: rest =>
    match word.toList with
    | ['-', '-'] => if rest.isEmpty then .arguments a else .misuse
    | '-' :: '-' :: name =>
      if name = "help".toList then .help
      else if name = "version".toList then
        match addShort a ['V'] with
        | .ok a => parseFrom a rest
        | .error parsed => parsed
      else if name = "config".toList then
        match rest with
        | file :: rest =>
          if isOption file then .misuse
          else
            match setConfig a file with
            | .ok a => parseFrom a rest
            | .error parsed => parsed
        | [] => .misuse
      else if "config=".toList.isPrefixOf name then
        match setConfig a (String.ofList (name.drop 7)) with
        | .ok a => parseFrom a rest
        | .error parsed => parsed
      else .misuse
    | '-' :: c :: more =>
      match addShort a (c :: more) with
      | .ok a => parseFrom a rest
      | .error parsed => parsed
    | _ => parseCommand a word rest

def parse (words : List String) : Parsed := parseFrom {} words

end Courier.CommandLine
