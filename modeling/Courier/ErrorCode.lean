import Courier.Json.Value
import Courier.Json.Error

/-! The classes of failure that every part of the library shares. A class decides whether another
attempt can help, and which status a failure has over HTTP and as the exit of a process. -/

namespace Courier

inductive ErrorCode where
  | internal
  | timeout
  | cancelled
  | transport
  | protocol
  | validation
  | notFound
  | unavailable
  | rateLimit
  | auth
  | conflict
  | exhausted
deriving Repr, DecidableEq, Inhabited

namespace ErrorCode

/-- All classes, in the order in which messages list them. -/
def all : List ErrorCode :=
  [internal, timeout, cancelled, transport, protocol, validation, notFound, unavailable, rateLimit,
    auth, conflict, exhausted]

def name : ErrorCode → String
  | internal => "internal"
  | timeout => "timeout"
  | cancelled => "cancelled"
  | transport => "transport"
  | protocol => "protocol"
  | validation => "validation"
  | notFound => "not_found"
  | unavailable => "unavailable"
  | rateLimit => "rate_limit"
  | auth => "auth"
  | conflict => "conflict"
  | exhausted => "exhausted"

def ofName? (text : String) : Option ErrorCode := all.find? (·.name = text)

def retryable : ErrorCode → Bool
  | timeout | transport | unavailable | rateLimit => true
  | _ => false

def httpStatus : ErrorCode → Nat
  | validation => 400
  | auth => 401
  | notFound => 404
  | conflict => 409
  | rateLimit => 429
  | timeout => 504
  | unavailable => 503
  | cancelled => 499
  | transport | protocol | internal | exhausted => 500

def exitStatus : ErrorCode → Nat
  | validation => 2
  | notFound => 3
  | auth => 4
  | timeout => 5
  | unavailable => 6
  | transport => 7
  | protocol => 8
  | rateLimit => 9
  | conflict => 10
  | exhausted => 11
  | cancelled => 130
  | internal => 1

open Json in
/-- What a JSON value is, as a refusal calls it. -/
def foundOf : Value → Found
  | .null => .null
  | .boolean b => .boolean b
  | .integer i => .integer i
  | .double x => .double x
  | .text s => .text s
  | .array _ => .sequence
  | .object _ => .map

open Json in
/-- The class that a JSON value names: its name, or the only member of an object, with a null under
that name. -/
def ofJson (v : Value) : Except Mismatch ErrorCode :=
  let named (text : String) : Except Mismatch ErrorCode :=
    match ofName? text with
    | some code => .ok code
    | none => .error (.unknownVariant text (all.map name))
  match v with
  | .text s => named s
  | .object [(text, content)] => do
    let code ← named text
    match content with
    | .null => .ok code
    | other => .error (.invalidType (foundOf other) "unit")
  | .object _ => .error (.invalidValue .map "map with a single key")
  | other => .error (.invalidType (foundOf other) "string or map")

end ErrorCode
end Courier
