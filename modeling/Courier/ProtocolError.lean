import Courier.ErrorCode
import Courier.Text.Quoted

/-! What can be wrong with an envelope or a version. -/

namespace Courier

/-- Why a text is no number of 32 bits. -/
inductive NumberError where
  | empty
  | invalidDigit
  | tooLarge
deriving Repr, DecidableEq

def NumberError.message : NumberError → String
  | empty => "cannot parse integer from empty string"
  | invalidDigit => "invalid digit found in string"
  | tooLarge => "number too large to fit in target type"

/-- Why a text is no range of versions. -/
inductive RangeError where
  | number (why : NumberError)
  | reversed (low high : Nat)
  | other (reason : String)
deriving Repr, DecidableEq

def RangeError.message : RangeError → String
  | number why => why.message
  | reversed low high => s!"min {low} > max {high}"
  | other reason => reason

inductive Side where
  | local
  | remote
deriving Repr, DecidableEq

def Side.name : Side → String
  | .local => "local"
  | .remote => "remote"

/-- What can be wrong with an envelope or a version. -/
inductive ProtocolError where
  | missingField (name : String)
  | payloadTooLarge (size : Nat)
  /-- Found before anything is parsed. -/
  | messageTooLarge (size max : Nat)
  | json (why : Json.Error)
  | emptyVersion
  | invalidVersion (version : String) (why : NumberError)
  | versionTooOld (version : String)
  | versionTooNew (version : String)
  | invalidRange (side : Side) (range : String) (why : RangeError)
  | noCompatibleVersion (localRange remoteRange : String)
deriving Repr, DecidableEq

namespace ProtocolError

def code : ProtocolError → ErrorCode
  | missingField _ => .validation
  | payloadTooLarge _ => .validation
  | messageTooLarge _ _ => .validation
  | _ => .protocol

def retryable (e : ProtocolError) : Bool := e.code.retryable

def kind : ProtocolError → String
  | missingField _ => "MissingField"
  | payloadTooLarge _ => "PayloadTooLarge"
  | messageTooLarge _ _ => "MessageTooLarge"
  | json _ => "Json"
  | emptyVersion => "EmptyVersion"
  | invalidVersion _ _ => "InvalidVersion"
  | versionTooOld _ => "VersionTooOld"
  | versionTooNew _ => "VersionTooNew"
  | invalidRange _ _ _ => "InvalidRange"
  | noCompatibleVersion _ _ => "NoCompatibleVersion"

def jsonWords : Json.Error → String
  | .mismatch why => (why.words? Json.numberStyle.write).getD "value cannot be written"
  | .unnamedMember => "key must be a string"
  | .malformed => "malformed text"
  | .truncated => "text ends too early"

def message : ProtocolError → String
  | missingField name => s!"message: missing {name}"
  | payloadTooLarge size => s!"message: payload too large: {size} bytes"
  | messageTooLarge size max => s!"message too large: {size} bytes (max {max})"
  | json why => "message: " ++ jsonWords why
  | emptyVersion => "protocol: empty version"
  | invalidVersion version why =>
    s!"protocol: invalid version {Text.quoted version}: {why.message}"
  | versionTooOld version =>
    s!"protocol: version {Text.quoted version} is too old (min supported: 1)"
  | versionTooNew version =>
    s!"protocol: version {Text.quoted version} is too new (max supported: 1)"
  | invalidRange side range why =>
    s!"protocol: invalid {side.name} version range {Text.quoted range}: {why.message}"
  | noCompatibleVersion localRange remoteRange =>
    s!"protocol: no compatible version (local {localRange}, remote {remoteRange})"

end ProtocolError
end Courier
