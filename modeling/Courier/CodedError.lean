import Courier.ErrorCode
import Courier.Json.Printer

/-! An error of an application: a class, a message, possibly a cause and notes, and possibly a word
of its own on whether another attempt can help. -/

namespace Courier

/-- An application's error. The cause is kept as its text, the notes sorted by key. -/
structure CodedError where
  code : ErrorCode
  message : String
  cause : Option String := none
  notes : List (String × String) := []
  /-- Overrules the class on whether another attempt can help. -/
  decided : Option Bool := none
deriving Repr, DecidableEq, Inhabited

namespace CodedError

def ofCode (code : ErrorCode) (message : String) : CodedError :=
  ⟨code, message, none, [], none⟩

def note (e : CodedError) (key value : String) : CodedError :=
  { e with notes := Json.insertSorted key value e.notes }

def retriable (e : CodedError) : CodedError := { e with decided := some true }

def permanent (e : CodedError) : CodedError := { e with decided := some false }

def retryable (e : CodedError) : Bool := e.decided.getD e.code.retryable

def text (e : CodedError) : String :=
  s!"{e.code.name}: {e.message}" ++
    match e.cause with
    | some cause => ": " ++ cause
    | none => ""

open Json in
def write (e : CodedError) : Bytes :=
  let notes := if e.notes.isEmpty then [] else
    [writeMember "meta" (writeObject (e.notes.map fun (k, v) => writeMember k (writeString v)))]
  let cause := e.cause.toList.map fun cause => writeMember "cause" (writeString cause)
  writeObject ([writeMember "code" (writeString e.code.name),
    writeMember "message" (writeString e.message)] ++ notes ++ cause)

end CodedError
end Courier
