import Courier.Payload
import Courier.Text.Blank
import Courier.Text.Utf8

/-! Trace spans and the headers that carry them from one tool to the next. Fresh identifiers and the
time are given to every constructor, so all of this is plain data. -/

namespace Courier

namespace Trace

def parentHeaderName : String := "traceparent"

def stateHeaderName : String := "tracestate"

def isHexDigit (c : Char) : Bool := ('0' ≤ c && c ≤ '9') || ('a' ≤ c && c ≤ 'f')

def isHex (length : Nat) (text : List Char) : Bool := text.length = length && text.all isHexDigit

def isHexId (id : String) : Bool := isHex 32 id.toList

/-- An identifier that is safe to repeat: printable ASCII of bounded length. -/
def isValidId (id : String) : Bool :=
  !id.isEmpty && id.utf8ByteSize ≤ 256 && id.toList.all fun c => 32 ≤ c.toNat && c.toNat ≤ 126

def formatParent (traceId parentId : String) : String := s!"00-{traceId}-{parentId}-01"

def splitOn (separator : Char) : List Char → List (List Char)
  | [] => [[]]
  | c :: rest =>
    if c = separator then [] :: splitOn separator rest
    else
      match splitOn separator rest with
      | [] => [[c]]
      | piece :: pieces => (c :: piece) :: pieces

/-- The trace and span identifiers of a header. Identifiers of zeros alone stand for nothing. -/
def parseParent? (header : String) : Option (String × String) :=
  match splitOn '-' (Text.trimChars header.toList) with
  | [version, traceId, parentId, flags] =>
    if isHex 2 version && isHex 2 flags && isHex 32 traceId && isHex 16 parentId
        && !traceId.all (· = '0') && !parentId.all (· = '0') then
      some (String.ofList traceId, String.ofList parentId)
    else none
  | _ => none

/-- The last `length` bytes of an identifier, with zeros in front of a shorter one; nothing if they begin
inside a character. -/
def lastDigits? (length : Nat) (id : String) : Option String :=
  let size := (Utf8.ofString id).length
  if length ≤ size then Utf8.sliceFrom? id (size - length)
  else some (String.ofList (List.replicate (length - size) '0') ++ id)

def lastDigits (length : Nat) (id : String) : String := (lastDigits? length id).getD ""

end Trace

/-- A unit of work in a trace. `finish` is zero while it is open. -/
structure Span where
  traceId : String
  spanId : String
  parentId : Option String
  operation : String
  start : Int
  finish : Int := 0
  status : Option String := none
  attributes : List (String × Json.Value) := []
deriving Inhabited

/-- What a new span takes from its surroundings: two identifiers that nobody else has, and the time. -/
structure Fresh where
  traceId : String
  spanId : String
  now : Int

namespace Span

def started (fresh : Fresh) (traceId : String) (parentId : Option String) (operation : String) : Span :=
  { traceId, spanId := fresh.spanId, parentId, operation, start := fresh.now }

def root (fresh : Fresh) (operation : String) : Span := started fresh fresh.traceId none operation

/-- A span below another one, in the same trace. -/
def child (fresh : Fresh) (parent : Span) (operation : String) : Span :=
  started fresh parent.traceId (some parent.spanId) operation

/-- Continues a trace by its identifier; one that is not safe to repeat is replaced. -/
def withTraceId (fresh : Fresh) (traceId operation : String) : Span :=
  started fresh (if Trace.isValidId traceId then traceId else fresh.traceId) none operation

/-- Continues the trace of a header, or starts one if there is no good header. -/
def ofHeader (fresh : Fresh) (header : Option String) (operation : String) : Span :=
  match header.bind Trace.parseParent? with
  | some (traceId, parentId) => started fresh traceId (some parentId) operation
  | none => root fresh operation

def setAttribute (s : Span) (key : String) (value : Json.Value) : Span :=
  { s with attributes := Json.insertSorted key value s.attributes }

def close (s : Span) (now : Int) (status : String) : Span :=
  { s with status := some status, finish := now }

/-- How long the span took; zero while it is open. -/
def duration (s : Span) : Int := if s.finish = 0 then 0 else s.finish - s.start

/-- The header that names this span as the caller, if both identifiers can be cut to their lengths. -/
def parentHeader? (s : Span) : Option String := do
  let traceId ← Trace.lastDigits? 32 s.traceId
  let parentId ← Trace.lastDigits? 16 s.spanId
  return Trace.formatParent traceId parentId

def parentHeader (s : Span) : String := s.parentHeader?.getD ""

def stateHeader (s : Span) : String := s!"mist={s.spanId}"

def payload (s : Span) : Payload.TraceSpan :=
  ⟨s.traceId, s.spanId, s.parentId.getD "", s.operation, s.start, s.finish, s.status.getD "",
    s.attributes⟩

end Span
end Courier
