import Courier.Context
import Courier.ProtocolError

/-! What can go wrong on a transport, and which of it is the fault of the connection. -/

namespace Courier

/-- A failure of a transport or of a wrapper around one. -/
inductive TransportError where
  | bufferFull
  | closed (transport : String)
  | noMoreMessages
  | inputClosed
  | lineTooLong (transport : String) (limit : Nat)
  | io (transport : String) (text : String)
  | http (timedOut : Bool)
  | status (code : Nat)
  | listen (address : String)
  | listenerRunning (address : String)
  | marshal (transport : String) (cause : ProtocolError)
  | protocol (cause : ProtocolError)
  | context (cause : ContextError)
  | unsupportedScheme (scheme url : String)
  | invalidAddress (url : String)
  | reconnectFailed (cause : TransportError)
  | retriesExhausted (attempts : Nat) (cause : TransportError)
  | other (cause : CodedError)
deriving Repr, DecidableEq, Inhabited

namespace TransportError

/-- Whether a failure is one of the connection itself, and not of the data on it, of a full queue, or
the end of a finite stream. Only such a failure calls for another connection. -/
def isConnectionFailure : TransportError → Bool
  | bufferFull => false
  | noMoreMessages => false
  | inputClosed => false
  | lineTooLong _ _ => false
  | marshal _ _ => false
  | protocol _ => false
  | context _ => false
  | unsupportedScheme _ _ => false
  | invalidAddress _ => false
  | reconnectFailed cause => cause.isConnectionFailure
  | retriesExhausted _ cause => cause.isConnectionFailure
  | _ => true

def statusCode (status : Nat) : ErrorCode :=
  if status = 429 then .rateLimit
  else if status = 502 || status = 503 then .unavailable
  else if status = 504 then .timeout
  else if status = 401 || status = 403 then .auth
  else if status = 404 then .notFound
  else if status = 409 then .conflict
  else if 500 ≤ status && status ≤ 599 then .transport
  else .validation

def code : TransportError → ErrorCode
  | bufferFull => .unavailable
  | closed _ => .transport
  | noMoreMessages => .notFound
  | inputClosed => .notFound
  | lineTooLong _ _ => .validation
  | io _ _ => .transport
  | listen _ => .transport
  | http timedOut => if timedOut then .timeout else .transport
  | status s => statusCode s
  | listenerRunning _ => .conflict
  | marshal _ _ => .protocol
  | protocol cause => cause.code
  | context cause => cause.code
  | unsupportedScheme _ _ => .validation
  | invalidAddress _ => .validation
  | reconnectFailed _ => .exhausted
  | retriesExhausted _ _ => .exhausted
  | other cause => cause.code

def retryable : TransportError → Bool
  | closed _ => false
  | context _ => false
  | other cause => cause.retryable
  | e => e.code.retryable

def kind : TransportError → String
  | bufferFull => "BufferFull"
  | closed _ => "Closed"
  | noMoreMessages => "NoMoreMessages"
  | inputClosed => "InputClosed"
  | lineTooLong _ _ => "LineTooLong"
  | io _ _ => "Io"
  | http _ => "Http"
  | status _ => "Status"
  | listen _ => "Listen"
  | listenerRunning _ => "ListenerRunning"
  | marshal _ _ => "Marshal"
  | protocol _ => "Protocol"
  | context _ => "Context"
  | unsupportedScheme _ _ => "UnsupportedScheme"
  | invalidAddress _ => "InvalidAddress"
  | reconnectFailed _ => "ReconnectFailed"
  | retriesExhausted _ _ => "RetriesExhausted"
  | other _ => "Other"

def message : TransportError → String
  | bufferFull => "channel transport: buffer full"
  | closed transport => s!"{transport} transport: closed"
  | noMoreMessages => "file transport: no more messages"
  | inputClosed => "stdio transport: stdin closed"
  | lineTooLong transport limit => s!"{transport} transport: line exceeds {limit} bytes"
  | io transport text => s!"{transport} transport: {text}"
  | http timedOut => "http transport: " ++ if timedOut then "timed out" else "request failed"
  | status s => s!"http transport: status {s}"
  | listen address => s!"http transport: listen on {address}: address unavailable"
  | listenerRunning address => s!"http transport: listener already running on {address}"
  | marshal transport cause => s!"{transport} transport: marshal: {cause.message}"
  | protocol cause => cause.message
  | context cause => cause.message
  | unsupportedScheme scheme url =>
    s!"transport: unsupported scheme {Text.quoted scheme} in {Text.quoted url}"
  | invalidAddress url => s!"transport: missing address in {Text.quoted url}"
  | reconnectFailed cause => s!"resilient transport: reconnect failed: {cause.message}"
  | retriesExhausted attempts cause => s!"send failed after {attempts} attempts: {cause.message}"
  | other cause => cause.text

/-- Whether the whole text of a failure is this library's own. The words of HTTP clients and listeners
and of JSON readers are not. -/
def isOwnText : TransportError → Bool
  | http _ => false
  | listen _ => false
  | listenerRunning _ => false
  | marshal _ (.json _) => false
  | protocol (.json _) => false
  | reconnectFailed cause => cause.isOwnText
  | retriesExhausted _ cause => cause.isOwnText
  | _ => true

/-- Whether a cause is kept beside the failure itself. Failures that are nothing but another error
keep the cause of that error. -/
def hasCause : TransportError → Bool
  | io _ _ => true
  | http _ => true
  | listen _ => true
  | marshal _ _ => true
  | protocol (.json _) => true
  | protocol (.invalidVersion _ _) => true
  | reconnectFailed _ => true
  | retriesExhausted _ _ => true
  | other cause => cause.cause.isSome
  | _ => false

end TransportError
end Courier
