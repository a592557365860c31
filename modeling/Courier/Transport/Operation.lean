import Courier.Message
import Courier.Transport.Error

/-! The operations that every transport offers, as data, so that wrappers can ask for them and be
answered later. -/

namespace Courier

inductive Operation where
  | send (m : Message)
  | receive
  | close
deriving Repr, DecidableEq, Inhabited

/-- How an operation ended: with the message that was received, or with nothing more to say. -/
abbrev Reply := Except TransportError (Option Message)

inductive Direction where
  | outbound
  | inbound
deriving Repr, DecidableEq

def Direction.name : Direction → String
  | outbound => "outbound"
  | inbound => "inbound"

/-- A message as a line of a file or of a stream. -/
def Message.toRecord (m : Message) (transport : String) : Except TransportError Bytes :=
  match m.marshal with
  | .ok text => .ok (text ++ [0x0A])
  | .error cause => .error (.marshal transport cause)

def Message.ofLine (line : Bytes) : Except TransportError Message :=
  (Message.unmarshal line).mapError .protocol

end Courier
