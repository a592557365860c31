import Courier.Context
import Courier.Transport.Operation

/-! Passing messages on from one transport to another, and checking a stream of them. -/

namespace Courier

namespace Relay

/-- What a relay waits for; `count` messages have been passed on. -/
inductive Phase where
  | receiving (count : Nat)
  | sending (count : Nat)
deriving Repr, DecidableEq, Inhabited

inductive Fault where
  | receive (why : TransportError)
  | send (why : TransportError)
deriving Repr, DecidableEq

def Fault.context : Fault → String
  | receive _ => "receive"
  | send _ => "send"

def Fault.cause : Fault → TransportError
  | receive why => why
  | send why => why

inductive Next where
  | receive (phase : Phase)
  | send (m : Message) (phase : Phase)
  | finish (result : Except Fault Nat)
deriving Repr

def start : Next := .receive (.receiving 0)

/-- The source has answered. Its regular end, and any failure once the context has ended, is the end
of the relay. -/
def afterReceive (count : Nat) (ended : Option ContextError) : Reply → Next
  | .ok (some m) => .send m (.sending count)
  | .ok none => .finish (.ok count)
  | .error .noMoreMessages => .finish (.ok count)
  | .error .inputClosed => .finish (.ok count)
  | .error why => if ended.isSome then .finish (.ok count) else .finish (.error (.receive why))

def afterSend (count : Nat) : Reply → Next
  | .ok _ => .receive (.receiving (count + 1))
  | .error why => .finish (.error (.send why))

end Relay
end Courier
