import Courier.Checksum
import Courier.Json.Codec
import Courier.Version

/-! The envelope of every message, its text on the wire, and its checks. The payload is the exact text
that its producer wrote, so a checksum over it survives being passed on. -/

namespace Courier

/-- A message. The payload is one JSON text, or empty. -/
structure Message where
  version : String
  id : String
  source : String
  /-- A dotted name such as `infer.request`. -/
  kind : String
  /-- The producer's clock, in nanoseconds since 1970. -/
  timestamp : Int
  payload : Bytes
  /-- The check value of the payload; zero when there is none. -/
  checksum : Nat
deriving Repr, DecidableEq, Inhabited

namespace Message

/-- The largest size of a payload, and of a whole message on the wire. -/
def maxSize : Nat := 10485760

open Json

/-- A payload on the wire; an empty one is written as a null. -/
def payloadCodec : Codec Bytes where
  read _ bytes := readRaw bytes
  write payload := if payload.isEmpty then ascii "null" else payload

def members : Members [String, String, String, String, Int, Bytes, Int] :=
  .required "version" .text <| .required "id" .text <| .required "source" .text <|
  .required "type" .text <| .required "timestamp_ns" .int64 <|
  .cons "payload" payloadCodec (some []) (fun _ => false) <|
  .optional "checksum" .word32 0 (· = 0) .nil

def codec : Codec Message :=
  (Codec.record "Message" members).convert
    (fun (version, id, source, kind, timestamp, payload, checksum, ()) =>
      ⟨version, id, source, kind, timestamp, payload, checksum.toNat⟩)
    (fun m => (m.version, m.id, m.source, m.kind, m.timestamp, m.payload, m.checksum, ()))

def validate (m : Message) : Except ProtocolError Unit :=
  if m.version.isEmpty then .error (.missingField "version")
  else if m.id.isEmpty then .error (.missingField "id")
  else if m.source.isEmpty then .error (.missingField "source")
  else if m.kind.isEmpty then .error (.missingField "type")
  else if maxSize < m.payload.length then .error (.payloadTooLarge m.payload.length)
  else .ok ()

def computeChecksum (m : Message) : Message :=
  { m with checksum := (Checksum.crc32 m.payload).toNat }

def verifyChecksum (m : Message) : Bool :=
  m.checksum = 0 || m.checksum = (Checksum.crc32 m.payload).toNat

/-- The payload as it goes on the wire: one JSON value without blanks around it. -/
def wirePayload (payload : Bytes) : Except ProtocolError Bytes :=
  if payload.isEmpty then .ok []
  else if !Utf8.isText payload then .error (.json (.mismatch .unwritable))
  else
    match readRawText payload with
    | .ok raw => .ok raw
    | .error .unnamedMember => .error (.json (.mismatch .unnamed))
    | .error _ => .error (.json (.mismatch .unwritable))

def marshal (m : Message) : Except ProtocolError Bytes := do
  return codec.write { m with payload := ← wirePayload m.payload }

/-- Reads and checks a message. What is too large is refused before it is read. -/
def unmarshal (data : Bytes) : Except ProtocolError Message := do
  if maxSize < data.length then throw (.messageTooLarge data.length maxSize)
  match readText codec.read data with
  | .error why => throw (.json why)
  | .ok m =>
    m.validate
    return m

def decode {α : Type} (codec : Codec α) (m : Message) : Except ProtocolError α :=
  match readText codec.read m.payload with
  | .ok a => .ok a
  | .error why => .error (.json why)

def ofPayload {α : Type} (codec : Codec α) (id : String) (timestamp : Int) (source kind : String)
    (a : α) : Message :=
  ⟨Version.current, id, source, kind, timestamp, codec.write a, 0⟩

end Message
end Courier
