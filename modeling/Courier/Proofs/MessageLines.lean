import Courier.Proofs.JsonAcceptance
import Courier.Proofs.JsonOrigins
import Courier.Proofs.LineSplitting
import Courier.Proofs.MessageRoundTrip
import Courier.Transport.Operation

/-! Messages as lines. Whatever was received can be written again. All that is written is free of
newlines but the payload, which is handed on as its producer laid it out; so a record is one line exactly
if the payload is. -/

namespace Courier.Proofs.MessageLines
open Json JsonGrammar JsonRemainders JsonAcceptance JsonStrings JsonIntegers JsonRecords JsonOrigins
  LineSplitting MessageRoundTrip

/-! Where a newline can stand in what is written. -/

private theorem spells_printable {body : Bytes} {text : List Char} (spelled : Spells body text) :
    ∀ b ∈ body, 0x20 ≤ b := by
  have hex : ∀ b ∈ ascii "0123456789abcdefABCDEF", (0x20 : UInt8) ≤ b := each (by decide)
  have start : ∀ b ∈ ascii "\\u", (0x20 : UInt8) ≤ b := each (by decide)
  have unit {digits : Bytes} {n : Nat} (read : unit? digits = some n) : ∀ b ∈ digits, 0x20 ≤ b := by
    unfold unit? at read
    split at read
    next =>
      intro b member
      exact hex b (mem_of_hex4 (by rw [read]; rfl) b member)
    next => cases read
  induction spelled with
  | nil =>
    intro b member
    cases member
  | @plain c body text printable quote backslash _ ih =>
    simp only [List.mem_append]
    rintro b (own | later)
    · by_cases ascii : c.toNat < 0x80
      · rw [Utf8Decoding.encodeChar_ascii ascii, List.mem_singleton] at own
        rw [own, UInt8.le_iff_toNat_le, UInt8.toNat_ofNat', Nat.mod_eq_of_lt (by omega)]
        exact printable
      · have above := Utf8Decoding.encodeChar_above (by omega) own
        rw [UInt8.le_iff_toNat_le]
        exact Nat.le_trans (by decide) above
    · exact ih b later
  | @escape letter c body text known _ ih =>
    have letters : ∀ entry ∈ escapes, 0x20 ≤ entry.1 := by decide
    simp only [List.mem_append, List.mem_cons]
    rintro b (own | rfl | later)
    · exact start b (List.mem_append_left _ own)
    · exact letters _ known
    · exact ih b later
  | unit read _ _ ih =>
    simp only [List.mem_append]
    rintro b (own | own | later)
    · exact start b own
    · exact unit read b own
    · exact ih b later
  | pair first second _ _ _ ih =>
    simp only [List.mem_append]
    rintro b (own | own | own | own | later)
    · exact start b own
    · exact unit first b own
    · exact start b own
    · exact unit second b own
    · exact ih b later

private theorem newline_not_mem_writeString (s : String) : 0x0A ∉ writeString s := by
  have body : 0x0A ∉ Utf8.encode (s.toList.flatMap escapeChar) := fun member =>
    absurd (spells_printable (spells_escaped s.toList) _ member) (by decide)
  simp [writeString, body]

private theorem newline_not_mem_writeInt (i : Int) : 0x0A ∉ writeInt i := by
  have digits (n : Nat) : 0x0A ∉ writeNat n := fun member =>
    absurd (writeNat_isDigit n _ member) (by decide)
  unfold writeInt
  split <;> simp [digits]

private theorem newline_mem_commaSeparated {items : List Bytes} :
    0x0A ∈ commaSeparated items ↔ ∃ item ∈ items, 0x0A ∈ item := by
  fun_induction commaSeparated items with
  | case1 => simp
  | case2 last => simp
  | case3 first rest _ ih => simp [ih]

section
variable {types : List Type}

/-- Some member of a record is written with a newline in its value. -/
def Broken : {types : List Type} → Members types → Tuple types → Prop
  | _, .nil, () => False
  | _, .cons _ codec absent omits more, (a, tuple) =>
    omitted absent omits a = false ∧ 0x0A ∈ codec.write a ∨ Broken more tuple

private theorem newline_mem_writeMember {name : String} {value : Bytes} :
    0x0A ∈ writeMember name value ↔ 0x0A ∈ value := by
  simp [writeMember, newline_not_mem_writeString]

private theorem newline_mem_writeAll {members : Members types} {tuple : Tuple types} :
    (∃ item ∈ members.writeAll tuple, 0x0A ∈ item) ↔ Broken members tuple := by
  induction members with
  | nil =>
    obtain ⟨⟩ := tuple
    rw [Members.writeAll, Broken]
    simp
  | cons name codec absent omits more ih =>
    obtain ⟨a, tuple⟩ := tuple
    rw [Members.writeAll, Broken, omitted, ← ih]
    split
    next left => simp [left]
    next written => simp [written, newline_mem_writeMember]

private theorem newline_mem_record (record : String) {members : Members types} {tuple : Tuple types} :
    0x0A ∈ (Codec.record record members).write tuple ↔ Broken members tuple := by
  rw [← newline_mem_writeAll]
  simp [Codec.record, writeObject, newline_mem_commaSeparated]

end

/-- Only the payload brings newlines into a message. -/
theorem newline_mem_write (m : Message) : 0x0A ∈ Message.codec.write m ↔ 0x0A ∈ m.payload := by
  have payload : 0x0A ∈ Message.payloadCodec.write m.payload ↔ 0x0A ∈ m.payload := by
    unfold Message.payloadCodec
    cases m.payload with
    | nil => decide
    | cons b more => rfl
  have record : 0x0A ∈ Message.codec.write m ↔ Broken Message.members (fields m) :=
    newline_mem_record "Message"
  rw [record, ← payload]
  -- Every other member is a string or a number.
  constructor
  · rintro (⟨_, version⟩ | ⟨_, id⟩ | ⟨_, source⟩ | ⟨_, kind⟩ | ⟨_, timestamp⟩ | ⟨_, payload⟩ |
      ⟨_, checksum⟩ | none)
    · exact absurd version (newline_not_mem_writeString _)
    · exact absurd id (newline_not_mem_writeString _)
    · exact absurd source (newline_not_mem_writeString _)
    · exact absurd kind (newline_not_mem_writeString _)
    · exact absurd timestamp (newline_not_mem_writeInt _)
    · exact payload
    · exact absurd checksum (newline_not_mem_writeInt m.checksum)
    · exact none.elim
  · intro payload
    exact .inr (.inr (.inr (.inr (.inr (.inl ⟨rfl, payload⟩)))))

/-! What was received. -/

section
variable {data : Bytes} {m : Message}

theorem originates_received (received : Message.unmarshal data = .ok m) :
    ∃ (inner : Nat) (checksum : Int), m.checksum = checksum.toNat ∧
      Originates inner Message.members
        (m.version, m.id, m.source, m.kind, m.timestamp, m.payload, checksum, ()) := by
  obtain ⟨_, read, _⟩ := unmarshal_iff.mp received
  obtain ⟨⟨found, rest⟩, codec_read, read⟩ := ok_of_bind read
  obtain ⟨_, _, same⟩ := ok_of_bind read
  cases same
  obtain ⟨tuple, tuple_read, rfl⟩ := convert_read codec_read
  obtain ⟨inner, originates⟩ := record_originates tuple_read
  exact ⟨inner, _, rfl, originates⟩

theorem payload_received (received : Message.unmarshal data = .ok m) :
    m.payload = [] ∨ Derives .value m.payload ∧ Utf8.isText m.payload = true := by
  obtain ⟨inner, _, _, _, _, _, _, _, payload, _⟩ := originates_received received
  rcases payload with default | ⟨bytes, after, raw⟩
  · exact .inl (Option.some.inj default).symm
  · obtain ⟨derived, text, _⟩ := readRaw_derives raw
    exact .inr ⟨derived, text⟩

/-- What was received can be written, and its payload is written as it came. -/
theorem marshal_received (received : Message.unmarshal data = .ok m) :
    m.marshal = .ok (Message.codec.write m) := by
  have wired : Message.wirePayload m.payload = .ok m.payload := by
    rcases payload_received received with none | ⟨derived, text⟩
    · rw [none]
      rfl
    · exact wirePayload_value derived text
  rw [Message.marshal, wired]
  rfl

end

/-! Streams of one record. -/

def Framed (text : Bytes) : Prop := ∃ inner, text = 0x7B :: (inner ++ [0x7D])

section
variable {limit : Nat} {text : Bytes}

theorem split_unbroken_record (framed : Framed text) (unbroken : 0x0A ∉ text) :
    split limit (text ++ [0x0A]) = [if limit < text.length then .tooLong else .data text] := by
  obtain ⟨inner, rfl⟩ := framed
  have kept : withoutReturn (0x7B :: (inner ++ [0x7D])) = 0x7B :: (inner ++ [0x7D]) := by
    rw [withoutReturn, ← List.cons_append, List.getLast?_concat]
    rfl
  rw [split_line unbroken, kept, outcome_solid List.mem_cons_self rfl]
  rfl

private theorem split_broken_record (framed : Framed text) (broken : 0x0A ∈ text) :
    2 ≤ (split limit (text ++ [0x0A])).length := by
  obtain ⟨front, back, same, unbroken⟩ := List.eq_append_cons_of_mem broken
  obtain ⟨inner, rfl⟩ := framed
  have first : 0x7B ∈ front := by
    cases front with
    | nil => cases same
    | cons b more =>
      rw [List.head_eq_of_cons_eq same]
      exact List.mem_cons_self
  have last : 0x7D ∈ back := by
    rw [← List.cons_append] at same
    rcases List.eq_nil_or_concat back with rfl | ⟨more, b, rfl⟩
    · cases List.append_inj_right' same rfl
    · rw [List.concat_eq_append] at same ⊢
      rw [← List.cons_append, ← List.append_assoc] at same
      cases List.append_inj_right' same rfl
      exact List.mem_append_right _ List.mem_cons_self
  have more : split limit (back ++ [0x0A]) ≠ [] := split_ne_nil (List.mem_append_left _ last) rfl
  rw [same, List.append_assoc, List.cons_append, split_line unbroken,
    outcome_solid (mem_withoutReturn first rfl) rfl]
  have := List.length_pos_iff.mpr more
  simp only [Option.toList_some, List.length_append, List.length_singleton]
  omega

/-- A single line is reported of a record if there is no newline in it, and then it is the whole record
unless that is too long. -/
theorem reports_record_iff (framed : Framed text) {rest : Bytes} {line : Line} :
    Reports limit (text ++ 0x0A :: rest) (line :: split limit rest) ↔
      0x0A ∉ text ∧ line = if limit < text.length then .tooLong else .data text := by
  have some : split limit (text ++ 0x0A :: rest) ≠ [] := by
    obtain ⟨inner, rfl⟩ := framed
    exact split_ne_nil List.mem_cons_self rfl
  rw [reports_cons_iff some (finished_not_mem_split limit rest), split_append]
  constructor
  · intro whole
    have single : split limit (text ++ [0x0A]) = [line] := List.append_cancel_right whole
    by_cases broken : 0x0A ∈ text
    · have two : 2 ≤ (split limit (text ++ [0x0A])).length := split_broken_record framed broken
      rw [single] at two
      exact absurd two (Nat.not_succ_le_self 1)
    · rw [split_unbroken_record framed broken] at single
      exact ⟨broken, (List.head_eq_of_cons_eq single).symm⟩
  · rintro ⟨unbroken, rfl⟩
    rw [split_unbroken_record framed unbroken]
    rfl

end

/-- What was received can be written as a record again. Before any other stream, the record is read back
as one line exactly if the payload came without newlines. -/
theorem one_line_iff {data : Bytes} {m : Message} (received : Message.unmarshal data = .ok m) :
    ∃ text, m.marshal = .ok text ∧ (∀ transport, m.toRecord transport = .ok (text ++ [0x0A])) ∧
      (0x0A ∈ text ↔ 0x0A ∈ m.payload) ∧
      ∀ limit rest line, Reports limit (text ++ 0x0A :: rest) (line :: split limit rest) ↔
        0x0A ∉ m.payload ∧ line = if limit < text.length then .tooLong else .data text := by
  have written := marshal_received received
  refine ⟨_, written, ?_, newline_mem_write m, ?_⟩
  · intro transport
    rw [Message.toRecord, written]
  · intro limit rest line
    rw [← newline_mem_write m]
    exact reports_record_iff ⟨_, rfl⟩

/-- A message with a newline in its name and none in its payload. -/
theorem one_line_iff_awkward :
    Message.unmarshal (Message.codec.write awkward) = .ok awkward ∧
      ∃ text, awkward.marshal = .ok text ∧ Reports maxLineBytes (text ++ [0x0A]) [.data text] := by
  have received : Message.unmarshal (Message.codec.write awkward) = .ok awkward :=
    unmarshal_write awkward_writable rfl (by decide +kernel)
  obtain ⟨text, written, _, _, reports⟩ := one_line_iff received
  have short : ¬ maxLineBytes < text.length := by
    rw [marshal_eq awkward_writable] at written
    cases written
    decide +kernel
  refine ⟨received, text, written, (reports maxLineBytes [] (.data text)).mpr ⟨by decide, ?_⟩⟩
  rw [if_neg short]

def indented : Message where
  version := "1"
  id := "m"
  source := "s"
  kind := "t"
  timestamp := 1
  payload := ascii "\x7b\n\x7d"
  checksum := 0

theorem indented_takes_two_lines :
    ∃ data, Message.unmarshal data = .ok indented ∧
      ∃ text, indented.marshal = .ok text ∧ 0x0A ∈ text ∧
        ∀ line, ¬ Reports maxLineBytes (text ++ [0x0A]) [line] := by
  have derived : Derives .value indented.payload := @Derives.emptyObject (ascii "\n") (by decide)
  have writable : Writable indented := ⟨by decide, by decide, derived, _, rfl⟩
  have newline : 0x0A ∈ Message.codec.write indented := by decide +kernel
  refine ⟨_, unmarshal_write writable rfl (by decide +kernel), _, marshal_eq writable, newline, ?_⟩
  intro line reports
  have framed : Framed (Message.codec.write indented) := ⟨_, rfl⟩
  exact ((reports_record_iff framed).mp reports).1 newline

end Courier.Proofs.MessageLines
