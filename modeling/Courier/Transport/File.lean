import Courier.Config
import Courier.LineReader
import Courier.Log
import Courier.Transport.Operation

/-! Transports over a file that holds one message a line. Records are only ever appended. Reading starts
at the beginning of the file, does not wait at its end, and goes on from there when the file has grown.
An operation has two parts, before and after it gets hold of the file, and each part looks whether the
transport has been closed. -/

namespace Courier

namespace Config.Files

def write (files : Files) (path : String) (bytes : Bytes) : Files := fun p =>
  if p = path then .content bytes else files p

def absolute (directory path : String) : String :=
  if directory.isEmpty || path.toList.head? = some '/' then path else directory ++ "/" ++ path

def canCreate (files : Files) (path : String) : Bool :=
  match (ancestors path).getLast? with
  | none => true
  | some directory => files directory = .directory

end Config.Files

/-- A place in a file, with the part of a block that was read and not yet used. -/
structure FileReader where
  lines : LineReader := {}
  buffer : Bytes := []
  offset : Nat := 0
deriving Repr, Inhabited

namespace FileReader

def blockSize : Nat := 8192

/-- Reads blocks of what follows the reader's place, up to the end of the next line. -/
def nextFrom (r : FileReader) (rest : Bytes) : Line × FileReader :=
  match rest with
  | [] =>
    let (line, lines) := r.lines.finish
    (line, { r with lines, buffer := [] })
  | b :: more =>
    let block := (b :: more).take blockSize
    let offset := r.offset + block.length
    match r.lines.feed block with
    | (some line, lines, buffer) => (line, { lines, buffer, offset })
    | (none, lines, _) => nextFrom { lines, buffer := [], offset } ((b :: more).drop blockSize)
termination_by rest.length
decreasing_by simp only [List.length_drop, List.length_cons, blockSize]; omega

def next (r : FileReader) (content : Bytes) : Line × FileReader :=
  match r.lines.feed r.buffer with
  | (some line, lines, buffer) => (line, { r with lines, buffer })
  | (none, lines, _) => { r with lines, buffer := [] }.nextFrom (content.drop r.offset)

end FileReader

/-- A transport over a file. Nothing is opened before it is needed. -/
structure FileTransport where
  path : String
  writing : Bool := false
  reader : Option FileReader := none
  closed : Bool := false
deriving Repr, Inhabited

namespace FileTransport

def name : String := "file"

def failure (text : String) : TransportError := .io name text

def absent (files : Config.Files) (path : String) : TransportError := failure (files.absence path).message

def isADirectory : TransportError := failure Config.ReadFault.isADirectory.message

def ensureOpen (t : FileTransport) : Except TransportError Unit :=
  if t.closed then .error (.closed name) else .ok ()

/-- The first part of every operation: the context must be live and the transport open. -/
def enter (t : FileTransport) (ended : Option ContextError) : Except TransportError Unit :=
  match ended with
  | some e => .error (.context e)
  | none => t.ensureOpen

/-- The first part of sending: the record to be appended. -/
def prepare (t : FileTransport) (ended : Option ContextError) (m : Message) :
    Except TransportError Bytes := do
  t.enter ended
  m.toRecord name

/-- The second part of sending: opens the file for appending unless it is open, and appends. -/
def append (t : FileTransport) (files : Config.Files) (record : Bytes) :
    Except TransportError (FileTransport × Config.Files × List LogEvent) := do
  t.ensureOpen
  let opened : List LogEvent :=
    if t.writing then [] else
      [⟨.debug, "opened file transport for append", [("path", .text t.path)]⟩]
  match files t.path with
  | .content bytes => return ({ t with writing := true }, files.write t.path (bytes ++ record), opened)
  | .directory => throw isADirectory
  | .barred _ why => throw (failure why.message)
  | .missing =>
    if files.canCreate t.path then
      return ({ t with writing := true }, files.write t.path record, opened)
    else throw (absent files t.path)

/-- The second part of receiving: opens the file for reading unless it is open, and reads a line. -/
def read (t : FileTransport) (files : Config.Files) : Except TransportError Message × FileTransport :=
  match t.ensureOpen with
  | .error e => (.error e, t)
  | .ok () =>
    match files t.path with
    | .missing => (.error (absent files t.path), t)
    | .directory => (.error isADirectory, t)
    | .barred _ why => (.error (failure why.message), t)
    | .content bytes =>
      let (line, reader) := (t.reader.getD {}).next bytes
      let t := { t with reader := some reader }
      match line with
      | .data bytes => (Message.ofLine bytes, t)
      | .tooLong => (.error (.lineTooLong name maxLineBytes), t)
      | .finished => (.error .noMoreMessages, t)

/-- The first part of closing; from now on everything is refused. -/
def shut (t : FileTransport) : FileTransport := { t with closed := true }

/-- The second part of closing: lets go of the file. -/
def letGo (t : FileTransport) : FileTransport := { t with writing := false, reader := none }

end FileTransport
end Courier
