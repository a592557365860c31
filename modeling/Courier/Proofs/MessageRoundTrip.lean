import Courier.Message
import Courier.Proofs.JsonIntegers
import Courier.Proofs.JsonRecords

/-! A message that is written to the wire is read back from it unchanged. -/

namespace Courier.Proofs.MessageRoundTrip
open Json JsonGrammar JsonScanning JsonStrings JsonIntegers JsonRecords

/-- A message that is fit for the wire: its numbers are in the range of their types, and its payload is
one JSON text without blanks around it. -/
structure Writable (m : Message) : Prop where
  timestamp : -9223372036854775808 ≤ m.timestamp ∧ m.timestamp ≤ 9223372036854775807
  checksum : m.checksum ≤ 4294967295
  payload : Derives .value m.payload
  text : ∃ s, m.payload = Utf8.ofString s

def fields (m : Message) : Tuple [String, String, String, String, Int, Bytes, Int] :=
  (m.version, m.id, m.source, m.kind, m.timestamp, m.payload, (m.checksum : Int), ())

theorem validate_iff {m : Message} : m.validate = .ok () ↔
    ¬ m.version.isEmpty = true ∧ ¬ m.id.isEmpty = true ∧ ¬ m.source.isEmpty = true ∧ ¬ m.kind.isEmpty = true ∧
      m.payload.length ≤ Message.maxSize := by
  rw [Message.validate]
  split
  next empty => simp [empty]
  split
  next empty => simp [empty]
  split
  next empty => simp [empty]
  split
  next empty => simp [empty]
  split
  next large => simp [large]
  next version id source kind small => simp [version, id, source, kind, Nat.le_of_not_lt small]

theorem unmarshal_iff {data : Bytes} {m : Message} : Message.unmarshal data = .ok m ↔
    data.length ≤ Message.maxSize ∧ readText Message.codec.read data = .ok m ∧ m.validate = .ok () := by
  simp only [Message.unmarshal, bind, Except.bind]
  constructor
  · intro received
    split at received
    next => cases received
    next small =>
    split at received
    next => cases received
    next found read =>
    split at received
    next => cases received
    next valid =>
      cases received
      exact ⟨Nat.le_of_not_lt small, read, valid⟩
  · rintro ⟨small, read, valid⟩
    rw [if_neg (Nat.not_lt.mpr small), read]
    simp only [valid]
    rfl

theorem isEmpty_value {payload : Bytes} (derived : Derives .value payload) : ¬ payload.isEmpty = true := by
  obtain ⟨b, more, same, _⟩ := value_solid derived
  rw [same]
  exact Bool.false_ne_true

theorem wirePayload_value {payload : Bytes} (derived : Derives .value payload)
    (text : Utf8.isText payload = true) : Message.wirePayload payload = .ok payload := by
  rw [Message.wirePayload, if_neg (isEmpty_value derived), text, readRawText_value derived text]
  rfl

section
variable {m : Message} (writable : Writable m)
include writable

private theorem isText_payload : Utf8.isText m.payload = true := by
  obtain ⟨s, same⟩ := writable.text
  rw [same]
  exact Utf8Decoding.isText_ofString s

private theorem payload_read_write (depth : Nat) :
    Reads (Message.payloadCodec.read depth) (Message.payloadCodec.write m.payload) m.payload := by
  have same : Message.payloadCodec.write m.payload = m.payload := if_neg (isEmpty_value writable.payload)
  rw [same]
  exact readRaw_value writable.payload (isText_payload writable)

private theorem codec_read_write (depth : Nat) :
    Reads (Message.codec.read (depth + 1)) (Message.codec.write m) m := by
  have faithful : Faithful depth Message.members (fields m) := by
    refine ⟨text_read_write _ depth, text_read_write _ depth, text_read_write _ depth,
      text_read_write _ depth, int64_read_write depth writable.timestamp.1 writable.timestamp.2,
      payload_read_write writable depth, ?_, trivial⟩
    split
    next zero => simp_all [omitted]
    next => exact word32_read_write depth writable.checksum
  exact convert_read_write rfl (record_read_write "Message" (by decide) faithful (List.cons_ne_nil _ _))

theorem marshal_eq : m.marshal = .ok (Message.codec.write m) := by
  rw [Message.marshal, wirePayload_value writable.payload (isText_payload writable)]
  rfl

theorem length_payload_le : m.payload.length ≤ (Message.codec.write m).length := by
  have same : Message.payloadCodec.write m.payload = m.payload := if_neg (isEmpty_value writable.payload)
  have listed : ("payload", m.payload) ∈ entries Message.members (fields m) := by
    rw [← same]
    simp [entries, Message.members, Message.payloadCodec, Members.required, fields, omitted]
  exact length_le_record "Message" listed

theorem readText_write : readText Message.codec.read (Message.codec.write m) = .ok m := by
  have read := readText_reads (codec_read_write writable 126) blank_nil blank_nil
  rw [List.nil_append, List.append_nil] at read
  exact read

/-- What is written is received if it is valid and not too large. -/
theorem unmarshal_write (valid : m.validate = .ok ()) (small : (Message.codec.write m).length ≤ Message.maxSize) :
    Message.unmarshal (Message.codec.write m) = .ok m :=
  unmarshal_iff.mpr ⟨small, readText_write writable, valid⟩

end

/-- A message that is fit for the wire and has its four names is written, and what is written is read
back as the same message if it is not too large. -/
theorem unmarshal_marshal {m : Message} (writable : Writable m) (version : m.version ≠ "") (id : m.id ≠ "")
    (source : m.source ≠ "") (kind : m.kind ≠ "") :
    ∃ wire, m.marshal = .ok wire ∧ (wire.length ≤ Message.maxSize → Message.unmarshal wire = .ok m) := by
  refine ⟨_, marshal_eq writable, ?_⟩
  intro small
  have length := length_payload_le writable
  have valid : m.validate = .ok () := validate_iff.mpr
    ⟨by simpa using version, by simpa using id, by simpa using source, by simpa using kind, by omega⟩
  exact unmarshal_write writable valid small

/-- Its names need every kind of escape, its time is the earliest, and its payload is a list of a number
with all its parts, a lone surrogate and an empty object. -/
def awkward : Message where
  version := "1"
  id := "\x00\"\\/\x1f\n"
  source := "é😀"
  kind := "infer.request"
  timestamp := -9223372036854775808
  payload := ascii "[-0.5e+3 ,\"\\ud83d\\n\",\x7b \x7d]"
  checksum := 0

theorem awkward_writable : Writable awkward := by
  have number : Derives .value (ascii "-0.5e+3") :=
    .number (@Numeral.of (ascii "-") (ascii "0") (ascii ".5") (ascii "e+3") (by decide) .zero
      (@Fraction.some (ascii "5") (by decide) (by decide))
      (@Exponent.some 0x65 (ascii "+") (ascii "3") (by decide) (by decide) (by decide) (by decide)))
  have string : Derives .value (ascii "\"\\ud83d\\n\"") :=
    @Derives.string (ascii "\\ud83d\\n")
      (@Body.unit 0x64 0x38 0x33 0x64 (ascii "\\n") (each (by decide)) (@Body.escape 0x6E [] (by decide) .nil))
  have object : Derives .value (ascii "\x7b \x7d") := @Derives.emptyObject (ascii " ") (by decide)
  have space : Blank (ascii " ") := by decide
  have payload : Derives .value awkward.payload :=
    .list (.elements (.element blank_nil number space)
      (.elements (.element blank_nil string blank_nil)
        (.lastElement (.element blank_nil object blank_nil))))
  exact ⟨by decide, by decide, payload, _, rfl⟩

theorem unmarshal_marshal_awkward :
    Writable awkward ∧ ∃ wire, awkward.marshal = .ok wire ∧ Message.unmarshal wire = .ok awkward := by
  obtain ⟨wire, written, back⟩ :=
    unmarshal_marshal awkward_writable (by decide) (by decide) (by decide) (by decide)
  have same : wire = Message.codec.write awkward := by
    rw [marshal_eq awkward_writable] at written
    cases written
    rfl
  have small : wire.length ≤ Message.maxSize := by
    rw [same]
    decide +kernel
  exact ⟨awkward_writable, wire, written, back small⟩

end Courier.Proofs.MessageRoundTrip
