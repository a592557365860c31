import Courier.Proofs.JsonAcceptance
import Courier.Proofs.MessageRoundTrip

/-! Checksums on the way over the wire. A checksum is taken over the payload as its producer spelled it,
blanks around it included, and the wire carries the payload without them. What is received passes the
check if the two texts have the same check value. -/

namespace Courier.Proofs.ChecksumTransfer
open Json JsonGrammar JsonScanning JsonAcceptance MessageRoundTrip

/-- The text that the wire carries for a payload. -/
inductive Carried : Bytes → Bytes → Prop where
  | null : Carried [] (ascii "null")
  | value {before text after : Bytes} : Blank before → Blank after → Derives .value text →
      Carried (before ++ (text ++ after)) text

def Bare (payload : Bytes) : Prop :=
  (∀ b ∈ payload.head?, isBlank b = false) ∧ ∀ b ∈ payload.getLast?, isBlank b = false

private theorem Carried.derives {payload text : Bytes} (carried : Carried payload text) : Derives .value text := by
  cases carried with
  | null => exact .word (by decide)
  | value _ _ derived => exact derived

private theorem blank_not_solid {b : UInt8} {blanks : Bytes} (blank : Blank blanks) (member : b ∈ blanks) :
    ¬ isBlank b = false := by
  rw [isBlank_of_mem (blank b member)]
  exact Bool.noConfusion

private theorem Carried.eq_of_bare {payload text : Bytes} (carried : Carried payload text) (some : payload ≠ [])
    (bare : Bare payload) : text = payload := by
  obtain ⟨first, last⟩ := bare
  cases carried with
  | null => exact absurd rfl some
  | @value before text after before_blank after_blank _ =>
    -- Blanks before the text would start the payload, and blanks behind it would end it.
    have nothing_before : before = [] := by
      cases before with
      | nil => rfl
      | cons b more => exact absurd (first b rfl) (blank_not_solid before_blank List.mem_cons_self)
    have nothing_after : after = [] := by
      rcases List.eq_nil_or_concat after with none | ⟨more, b, rfl⟩
      · exact none
      · rw [List.concat_eq_append] at last after_blank
        have ends : b ∈ (before ++ (text ++ (more ++ [b]))).getLast? := by simp
        exact absurd (last b ends) (blank_not_solid after_blank (by simp))
    rw [nothing_before, nothing_after, List.nil_append, List.append_nil]

theorem wirePayload_carried {payload raw : Bytes} (wired : Message.wirePayload payload = .ok raw) :
    ∃ text, Carried payload text ∧ Utf8.isText text = true ∧
      Message.payloadCodec.write raw = Message.payloadCodec.write text := by
  rw [Message.wirePayload] at wired
  split at wired
  next none =>
    cases wired
    rw [List.isEmpty_iff.mp none]
    exact ⟨_, .null, Utf8Decoding.isText_ofString "null", rfl⟩
  split at wired
  next => cases wired
  split at wired
  next read =>
    cases wired
    obtain ⟨derived, text, before, after, before_blank, after_blank, rfl⟩ := readRawText_iff.mp read
    exact ⟨raw, .value before_blank after_blank derived, text, rfl⟩
  next => cases wired
  next => cases wired

theorem write_payload (m : Message) {first second : Bytes}
    (same : Message.payloadCodec.write first = Message.payloadCodec.write second) :
    Message.codec.write { m with payload := first } = Message.codec.write { m with payload := second } := by
  simp only [Message.codec, Codec.convert, Codec.record, Message.members, Members.required,
    Members.optional, Members.writeAll, same]

/-- A message with the checksum of its payload and another text in the payload's place. -/
def carrying (m : Message) (text : Bytes) : Message := { m.computeChecksum with payload := text }

private theorem marshal_carried {m : Message} {wire : Bytes} (written : m.computeChecksum.marshal = .ok wire) :
    ∃ text, Carried m.payload text ∧ Utf8.isText text = true ∧
      wire = Message.codec.write (carrying m text) := by
  rw [Message.marshal] at written
  cases wired : Message.wirePayload m.computeChecksum.payload with
  | error why =>
    rw [wired] at written
    cases written
  | ok raw =>
    rw [wired] at written
    cases written
    obtain ⟨text, carried, utf8, same⟩ := wirePayload_carried wired
    exact ⟨text, carried, utf8, write_payload _ same⟩

private theorem verify_carrying {m : Message} {text : Bytes} :
    (carrying m text).verifyChecksum = true ↔
      Checksum.crc32 m.payload = 0 ∨ Checksum.crc32 m.payload = Checksum.crc32 text := by
  have zero : (Checksum.crc32 m.payload).toNat = 0 ↔ Checksum.crc32 m.payload = 0 := UInt32.toNat_inj (b := 0)
  simp only [Message.verifyChecksum, carrying, Message.computeChecksum, Bool.or_eq_true, decide_eq_true_eq,
    zero, UInt32.toNat_inj]

private theorem crc32_le (bytes : Bytes) : (Checksum.crc32 bytes).toNat ≤ 4294967295 := by
  have := (Checksum.crc32 bytes).toNat_lt
  omega

section
variable {m : Message} {text : Bytes}

private theorem carrying_writable (carried : Carried m.payload text) (utf8 : Utf8.isText text = true)
    (timestamp : -9223372036854775808 ≤ m.timestamp ∧ m.timestamp ≤ 9223372036854775807) :
    Writable (carrying m text) where
  timestamp := timestamp
  checksum := crc32_le m.payload
  payload := carried.derives
  text := Utf8Decoding.ofString_of_isText utf8

private theorem carrying_valid (valid : m.validate = .ok ()) (writable : Writable (carrying m text))
    (small : (Message.codec.write (carrying m text)).length ≤ Message.maxSize) :
    (carrying m text).validate = .ok () := by
  obtain ⟨version, id, source, kind, _⟩ := validate_iff.mp valid
  exact validate_iff.mpr ⟨version, id, source, kind, Nat.le_trans (length_payload_le writable) small⟩

end

/-- A valid message that goes over the wire with its checksum is received, and passes the check exactly if
its checksum is the check value of the text that the wire carries for its payload, or is zero. So it
passes whenever no blanks stand around the payload. -/
theorem verify_received_iff {m : Message} {wire : Bytes}
    (timestamp : -9223372036854775808 ≤ m.timestamp ∧ m.timestamp ≤ 9223372036854775807)
    (valid : m.validate = .ok ()) (written : m.computeChecksum.marshal = .ok wire)
    (small : wire.length ≤ Message.maxSize) :
    ∃ text, Carried m.payload text ∧ Message.unmarshal wire = .ok (carrying m text) ∧
      ((carrying m text).verifyChecksum = true ↔
        Checksum.crc32 m.payload = 0 ∨ Checksum.crc32 m.payload = Checksum.crc32 text) ∧
      (Bare m.payload → (carrying m text).verifyChecksum = true) := by
  obtain ⟨text, carried, utf8, rfl⟩ := marshal_carried written
  have writable := carrying_writable carried utf8 timestamp
  refine ⟨text, carried, unmarshal_write writable (carrying_valid valid writable small) small,
    verify_carrying, ?_⟩
  intro bare
  rw [verify_carrying]
  cases none : m.payload with
  | nil =>
    -- The text is a null then, but its check value does not matter: that of nothing is zero.
    exact .inl rfl
  | cons b more =>
    have same := carried.eq_of_bare (by rw [none]; exact List.cons_ne_nil b more) bare
    rw [same, none]
    exact .inr rfl

def compact : Message where
  version := "1"
  id := "m"
  source := "s"
  kind := "t"
  timestamp := 1
  payload := ascii "\x7b \x7d"
  checksum := 0

theorem verify_received_compact :
    compact.validate = .ok () ∧ ∃ wire text, compact.computeChecksum.marshal = .ok wire ∧
      wire.length ≤ Message.maxSize ∧ Message.unmarshal wire = .ok (carrying compact text) ∧
        (carrying compact text).verifyChecksum = true := by
  have valid : compact.validate = .ok () := rfl
  have derived : Derives .value compact.computeChecksum.payload :=
    @Derives.emptyObject (ascii " ") (by decide)
  have writable : Writable compact.computeChecksum := ⟨by decide, crc32_le _, derived, _, rfl⟩
  have small : (Message.codec.write compact.computeChecksum).length ≤ Message.maxSize := by decide +kernel
  have bare : Bare compact.payload := by
    constructor <;> rintro b ⟨⟩ <;> rfl
  obtain ⟨text, _, received, _, passes⟩ := verify_received_iff (by decide) valid (marshal_eq writable) small
  exact ⟨valid, _, text, marshal_eq writable, small, received, passes bare⟩

def padded : Message := { compact with payload := ascii " \x7b \x7d" }

/-- The check fails after the first hop for a payload that starts with a blank. -/
theorem padded_fails_check :
    padded.validate = .ok () ∧ ∃ wire received, padded.computeChecksum.marshal = .ok wire ∧
      wire.length ≤ Message.maxSize ∧ Message.unmarshal wire = .ok received ∧
        received.verifyChecksum = false := by
  have derived : Derives .value compact.payload := @Derives.emptyObject (ascii " ") (by decide)
  have written : padded.computeChecksum.marshal =
      .ok (Message.codec.write (carrying padded compact.payload)) := by
    have read : readRawText padded.payload = .ok compact.payload := readRawText_iff.mpr
      ⟨derived, Utf8Decoding.isText_ofString "\x7b \x7d", ascii " ", [], by decide, blank_nil, rfl⟩
    have text : Utf8.isText padded.payload = true := Utf8Decoding.isText_ofString " \x7b \x7d"
    have wired : Message.wirePayload padded.payload = .ok compact.payload := by
      rw [Message.wirePayload, text, read]
      rfl
    rw [Message.marshal, show padded.computeChecksum.payload = padded.payload from rfl, wired]
    rfl
  have writable : Writable (carrying padded compact.payload) :=
    ⟨by decide, crc32_le _, derived, _, rfl⟩
  have small : (Message.codec.write (carrying padded compact.payload)).length ≤ Message.maxSize := by
    decide +kernel
  have valid : (carrying padded compact.payload).validate = .ok () := rfl
  exact ⟨rfl, _, _, written, small, unmarshal_write writable valid small, by decide +kernel⟩

end Courier.Proofs.ChecksumTransfer
