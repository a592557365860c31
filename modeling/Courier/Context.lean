import Courier.CodedError
import Courier.Duration

/-! Contexts: why and until when an operation may go on. Contexts form a tree. A context knows the
tokens of all contexts that it was derived from, so cancelling one of those reaches it, and it keeps
the earliest of their deadlines. -/

namespace Courier

/-- A point on the clock, in nanoseconds after its start. -/
abbrev Instant := Nat

/-- The latest point that a deadline can name: 2^63 seconds after the start of the clock. -/
def Instant.limit : Instant := 9223372036854775808 * Duration.nanosPerSecond

inductive ContextError where
  | cancelled
  | deadlineExceeded
deriving Repr, DecidableEq, Inhabited

namespace ContextError

def message : ContextError → String
  | cancelled => "context canceled"
  | deadlineExceeded => "context deadline exceeded"

def code : ContextError → ErrorCode
  | cancelled => .cancelled
  | deadlineExceeded => .timeout

def kind : ContextError → String
  | cancelled => "Cancelled"
  | deadlineExceeded => "DeadlineExceeded"

/-- The end of a context as an application's error. Trying again never helps. -/
def toCoded (e : ContextError) : CodedError := (CodedError.ofCode e.code e.message).permanent

end ContextError

abbrev Token := Nat

/-- The conditions under which an operation goes on. -/
structure Context where
  /-- The token of this context, then those of the contexts that it was derived from. -/
  tokens : List Token
  deadline : Option Instant := none
  span : Option Nat := none
deriving Repr, DecidableEq, Inhabited

namespace Context

/-- A context that nothing ends but the cancelling of its own token. -/
def background (token : Token) : Context := { tokens := [token] }

/-- A context that can be cancelled by itself, and ends with the one it is derived from. -/
def child (c : Context) (token : Token) : Context := { c with tokens := token :: c.tokens }

def withDeadline (c : Context) (token : Token) (deadline : Instant) : Context :=
  { c.child token with
    deadline := some (match c.deadline with
      | some earlier => min earlier deadline
      | none => deadline) }

/-- A child that ends after a while at the latest. A deadline that no clock reaches is none. -/
def withTimeout (c : Context) (token : Token) (now : Instant) (timeout : Duration) : Context :=
  if now + timeout.nanos < Instant.limit then c.withDeadline token (now + timeout.nanos)
  else c.child token

def withSpan (c : Context) (token : Token) (span : Nat) : Context :=
  { c.child token with span := some span }

/-- Whether the context or one that it was derived from has been cancelled. -/
def isCancelled (c : Context) (cancelled : List Token) : Bool :=
  c.tokens.any fun token => cancelled.contains token

def ended? (c : Context) (cancelled : List Token) (now : Instant) : Option ContextError :=
  if c.isCancelled cancelled then some .cancelled
  else
    match c.deadline with
    | some deadline => if deadline ≤ now then some .deadlineExceeded else none
    | none => none

end Context
end Courier
