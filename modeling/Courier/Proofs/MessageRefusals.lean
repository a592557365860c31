import Courier.Proofs.EnvelopeGrammar
import Courier.Proofs.JsonListings

/-! Which texts are messages, and what is told of all others. A text that is not too large is read exactly if it is
one of the texts of a message; then only an empty name can be wrong with it. -/

namespace Courier.Proofs.MessageRefusals
open Json JsonGrammar JsonScanning JsonAcceptance JsonStrings JsonIntegers JsonRecords JsonObjects JsonOrigins
  JsonReadings JsonListings MessageRoundTrip EnvelopeGrammar

/-! ### The members of a message -/

private theorem yielding_members (depth : Nat) : Yielding depth Message.members styles :=
  ⟨text_yields depth, text_yields depth, text_yields depth, text_yields depth, integer_yields depth _ _ _,
    raw_yields, integer_yields depth _ _ _, trivial⟩

def ofFields : Tuple [String, String, String, String, Int, Bytes, Int] → Message
  | (version, id, source, kind, timestamp, payload, checksum, ()) =>
    ⟨version, id, source, kind, timestamp, payload, checksum.toNat⟩

private theorem spelled_required {α : Type} {types : List Type} {name : String} {codec : Codec α} {more : Members types}
    {style : Bytes → α → Prop} {styles : Styles types} {a : α} {tuple : Tuple types}
    {given : List (String × Bytes)}
    (spelled : @Spelled (α :: types) (.required name codec more) (style, styles) (a, tuple) given) :
    ∃ value rest, given = (name, value) :: rest ∧ style value a ∧ Spelled more styles tuple rest := by
  rcases spelled with found | ⟨none, -⟩
  · exact found
  · cases none

/-- The members that an object gives spell the message that is read from it. -/
theorem tells_of_spelled {tuple : Tuple [String, String, String, String, Int, Bytes, Int]}
    {given : List (String × Bytes)} (spelled : Spelled Message.members styles tuple given) :
    ∃ s : Spelling, s.Tells (ofFields tuple) ∧ given = s.members (ofFields tuple) := by
  obtain ⟨version, id, source, kind, timestamp, payload, checksum, ⟨⟩⟩ := tuple
  obtain ⟨_, _, rfl, ⟨versionBody, versionSpelled, rfl⟩, ids⟩ := spelled_required spelled
  obtain ⟨_, _, rfl, ⟨idBody, idSpelled, rfl⟩, sources⟩ := spelled_required ids
  obtain ⟨_, _, rfl, ⟨sourceBody, sourceSpelled, rfl⟩, kinds⟩ := spelled_required sources
  obtain ⟨_, _, rfl, ⟨kindBody, kindSpelled, rfl⟩, times⟩ := spelled_required kinds
  obtain ⟨_, tail, rfl, ⟨rfl, bounds⟩, payloads⟩ := spelled_required times
  obtain ⟨hasPayload, payloadTold, rest, rfl, checksums⟩ : ∃ there : Bool,
      (if there then Derives .value payload ∧ Utf8.isText payload = true else payload = []) ∧ ∃ rest,
      tail = (if there then [("payload", payload)] else []) ++ rest ∧
      Spelled (.optional "checksum" .word32 0 (· = 0) .nil) (Numbers 0 4294967295, ()) (checksum, ()) rest := by
    rcases payloads with ⟨_, rest, rfl, ⟨rfl, told⟩, checksums⟩ | ⟨same, checksums⟩
    · exact ⟨true, told, rest, rfl, checksums⟩
    · exact ⟨false, (Option.some.inj same).symm, tail, rfl, checksums⟩
  obtain ⟨hasChecksum, checksumTold, rfl⟩ : ∃ there : Bool,
      (if there then checksum.toNat ≤ 4294967295 else checksum.toNat = 0) ∧
      rest = if there then [("checksum", writeInt checksum.toNat)] else [] := by
    rcases checksums with ⟨_, rest, rfl, ⟨rfl, above, below⟩, none⟩ | ⟨same, none⟩
    · obtain rfl := none
      refine ⟨true, ?_, ?_⟩
      · show checksum.toNat ≤ 4294967295
        omega
      · rw [Int.toNat_of_nonneg above]
        rfl
    · obtain rfl := Option.some.inj same
      exact ⟨false, rfl, none⟩
  exact ⟨⟨versionBody, idBody, sourceBody, kindBody, hasPayload, hasChecksum⟩,
    ⟨versionSpelled, idSpelled, sourceSpelled, kindSpelled, bounds, payloadTold, checksumTold⟩, rfl⟩

private theorem envelope_of_texts {tuple : Tuple [String, String, String, String, Int, Bytes, Int]} {text : Bytes}
    (texts : Texts Message.members styles tuple text) : Envelope (ofFields tuple) text := by
  have some {given : List (String × Bytes)} {s : Spelling} (same : given = s.members (ofFields tuple)) :
      given ≠ [] := by
    rw [same]
    exact List.cons_ne_nil _ _
  cases texts with
  | object spelled unknown order entries =>
    obtain ⟨s, tells, rfl⟩ := tells_of_spelled spelled
    exact .object tells unknown order entries
  | emptyObject spelled _ =>
    obtain ⟨s, -, same⟩ := tells_of_spelled spelled
    exact (some same rfl).elim
  | list heads items =>
    obtain ⟨given, spelled, rfl, first⟩ := spelled_of_heads heads
    obtain ⟨s, tells, rfl⟩ := tells_of_spelled spelled
    refine .list tells ?_ items
    intro hasChecksum
    cases hasPayload : s.payload with
    | true => rfl
    | false =>
      have apart :
          ¬ ["version", "id", "source", "type", "timestamp_ns", "checksum"] <+: names Message.members := by
        decide
      rw [Spelling.members, hasChecksum, hasPayload] at first
      exact (apart first).elim
  | emptyList heads _ =>
    obtain ⟨given, spelled, empty, -⟩ := spelled_of_heads heads
    obtain ⟨s, -, same⟩ := tells_of_spelled spelled
    exact (some same (List.map_eq_nil_iff.mp empty.symm)).elim

private theorem message_yields (depth : Nat) : Yields (Message.codec.read (depth + 1)) fun text m => Envelope m text := by
  intro bytes m rest read
  obtain ⟨tuple, found, rfl⟩ := convert_read read
  obtain ⟨blanks, text, blank, texts, same⟩ := record_yields (yielding_members depth) "Message" _ _ _ found
  exact ⟨blanks, text, blank, envelope_of_texts texts, same⟩

def Enveloped (data : Bytes) (m : Message) : Prop :=
  ∃ before text after, Blank before ∧ Blank after ∧ Envelope m text ∧ data = before ++ (text ++ after)

private theorem readText_iff {data : Bytes} {m : Message} :
    readText Message.codec.read data = .ok m ↔ Enveloped data m := by
  constructor
  · intro received
    obtain ⟨⟨found, rest⟩, read, ended⟩ := ok_of_bind received
    obtain ⟨_, last, same⟩ := ok_of_bind ended
    cases same
    obtain ⟨blanks, text, blank, envelope, rfl⟩ := message_yields 126 _ _ _ read
    exact ⟨blanks, text, rest, blank, expectEnd_blank last, envelope, rfl⟩
  · rintro ⟨before, text, after, before_blank, after_blank, envelope, rfl⟩
    exact readText_reads (message_reads envelope 126) before_blank after_blank

/-! ### What is wrong with a message -/

/-- The first of the names that a message cannot do without and that is empty. -/
def missing (m : Message) : Option String :=
  ([("version", m.version), ("id", m.id), ("source", m.source), ("type", m.kind)].find? fun name =>
    name.2.isEmpty).map Prod.fst

private theorem length_payload_enveloped {data : Bytes} {m : Message} (enveloped : Enveloped data m) :
    m.payload.length ≤ data.length := by
  obtain ⟨before, text, after, -, -, envelope, rfl⟩ := enveloped
  have inside : m.payload.length ≤ text.length := by
    have listed {s : Spelling} (tells : s.Tells m) : m.payload = [] ∨ ("payload", m.payload) ∈ s.members m := by
      have payload := tells.payload
      cases there : s.payload with
      | true => simp [Spelling.members, there]
      | false =>
        rw [there] at payload
        exact .inl payload
    cases envelope with
    | @object s others entries inner tells _ order spelled =>
      rcases listed tells with none | member
      · simp [none]
      · have whole : m.payload.length ≤ inner.length :=
          length_le_entries spelled (order.mem_iff.mpr (List.mem_append_left others member))
        simp only [List.length_append]
        omega
    | @list s inner tells _ items =>
      rcases listed tells with none | member
      · simp [none]
      · have whole : m.payload.length ≤ inner.length :=
          length_le_items items (List.mem_map.mpr ⟨("payload", m.payload), member, rfl⟩)
        simp only [List.length_append]
        omega
  simp only [List.length_append]
  omega

private theorem validate_missing {m : Message} (small : m.payload.length ≤ Message.maxSize) :
    m.validate = match missing m with
      | some name => .error (.missingField name)
      | none => .ok () := by
  have small := Nat.not_lt.mpr small
  cases version : m.version.isEmpty with
  | true => simp [Message.validate, missing, version]
  | false =>
    cases id : m.id.isEmpty with
    | true => simp [Message.validate, missing, version, id]
    | false =>
      cases source : m.source.isEmpty with
      | true => simp [Message.validate, missing, version, id, source]
      | false =>
        cases kind : m.kind.isEmpty with
        | true => simp [Message.validate, missing, version, id, source, kind]
        | false => simp [Message.validate, missing, version, id, source, kind, small]

/-- The size comes first, then the text, and then the names. The payload is as small as the text, so nothing is
told of its size. -/
theorem unmarshal_eq (data : Bytes) : Message.unmarshal data =
    if Message.maxSize < data.length then .error (.messageTooLarge data.length Message.maxSize)
    else match readText Message.codec.read data with
      | .error why => .error (.json why)
      | .ok m => match missing m with
        | some name => .error (.missingField name)
        | none => .ok m := by
  simp only [Message.unmarshal, bind, Except.bind]
  split
  next => rfl
  next small =>
    cases read : readText Message.codec.read data with
    | error why => rfl
    | ok m =>
      have inside := length_payload_enveloped (readText_iff.mp read)
      have valid := validate_missing (Nat.le_trans inside (Nat.le_of_not_lt small))
      simp only [valid]
      cases missing m <;> rfl

/-- What is told of a text depends on nothing but whether it is too large, whether it is a text of a message, and
which names of the message are empty, in this order. -/
theorem unmarshal_classes (data : Bytes) :
    (∀ size max, Message.unmarshal data = .error (.messageTooLarge size max) ↔
      Message.maxSize < data.length ∧ size = data.length ∧ max = Message.maxSize) ∧
    (data.length ≤ Message.maxSize →
      ((∃ why, Message.unmarshal data = .error (.json why)) ↔ ¬∃ m, Enveloped data m) ∧
      ∀ m, Enveloped data m →
        (∀ name, Message.unmarshal data = .error (.missingField name) ↔ missing m = some name) ∧
        (missing m = none ↔ Message.unmarshal data = .ok m ∧ m.validate = .ok ())) ∧
    ∀ size, Message.unmarshal data ≠ .error (.payloadTooLarge size) := by
  by_cases large : Message.maxSize < data.length
  · have refused : Message.unmarshal data = .error (.messageTooLarge data.length Message.maxSize) := by
      rw [unmarshal_eq, if_pos large]
    refine ⟨fun size max => ?_, fun small => absurd large (Nat.not_lt.mpr small), by rw [refused]; nofun⟩
    rw [refused]
    simp only [Except.error.injEq, ProtocolError.messageTooLarge.injEq, large, true_and, eq_comm]
  · have told := unmarshal_eq data
    rw [if_neg large] at told
    cases read : readText Message.codec.read data with
    | error why =>
      rw [read] at told
      have never : ¬∃ m, Enveloped data m := by
        rintro ⟨m, enveloped⟩
        rw [readText_iff.mpr enveloped] at read
        cases read
      rw [told]
      refine ⟨fun size max => ?_, fun _ => ⟨?_, ?_⟩, nofun⟩
      · simp [large]
      · exact ⟨fun _ => never, fun _ => ⟨why, rfl⟩⟩
      · exact fun m enveloped => (never ⟨m, enveloped⟩).elim
    | ok m =>
      have enveloped := readText_iff.mp read
      have only {other : Message} (others : Enveloped data other) : other = m := by
        rw [readText_iff.mpr others] at read
        exact Except.ok.inj read
      have inside := Nat.le_trans (length_payload_enveloped enveloped) (Nat.le_of_not_lt large)
      have valid := validate_missing inside
      rw [read] at told
      dsimp only at told
      have names {why : ProtocolError} (refused : Message.unmarshal data = .error why) :
          ∃ name, why = .missingField name := by
        rw [told] at refused
        cases first : missing m with
        | none =>
          rw [first] at refused
          cases refused
        | some name =>
          rw [first] at refused
          cases refused
          exact ⟨name, rfl⟩
      refine ⟨fun size max => ?_, fun _ => ⟨⟨?_, fun never => (never ⟨m, enveloped⟩).elim⟩, ?_⟩, ?_⟩
      · refine ⟨fun refused => ?_, fun sizes => (large sizes.1).elim⟩
        obtain ⟨name, same⟩ := names refused
        cases same
      · rintro ⟨why, refused⟩
        obtain ⟨name, same⟩ := names refused
        cases same
      · intro other others
        obtain rfl := only others
        rw [told, valid]
        cases missing other <;> simp
      · intro size refused
        obtain ⟨name, same⟩ := names refused
        cases same

def nameless : Message := ⟨"1", "m", "", "", 0, ascii "null", 0⟩

private theorem nameless_writable : Writable nameless :=
  ⟨by decide, by decide, .word (by decide), "null", rfl⟩

theorem unmarshal_classes_nameless : Enveloped (Message.codec.write nameless) nameless ∧
    (Message.codec.write nameless).length ≤ Message.maxSize ∧
    Message.unmarshal (Message.codec.write nameless) = .error (.missingField "source") := by
  have enveloped := readText_iff.mp (readText_write nameless_writable)
  have small : (Message.codec.write nameless).length ≤ Message.maxSize := by decide +kernel
  obtain ⟨-, classes, -⟩ := unmarshal_classes (Message.codec.write nameless)
  exact ⟨enveloped, small, (((classes small).2 nameless enveloped).1 "source").mpr rfl⟩

end Courier.Proofs.MessageRefusals
