import Courier.Proofs.JsonDuplicates
import Courier.Proofs.JsonObjects
import Courier.Proofs.MessageRoundTrip

/-! The texts of a message. Objects may have its members in any order, spelled in any way, among others that
are passed over; lists have them in the order of the declaration. All of them give the same message. An object
that has a member twice gives none. -/

namespace Courier.Proofs.EnvelopeGrammar
open Json JsonGrammar JsonScanning JsonStrings JsonIntegers JsonRecords JsonObjects JsonDuplicates MessageRoundTrip

/-- How a text spells a message: the bodies of its strings, and whether it has a payload and a checksum. A whole
number can be spelled in one way only, and the payload is a text itself. -/
structure Spelling where
  version : Bytes
  id : Bytes
  source : Bytes
  kind : Bytes
  payload : Bool
  checksum : Bool

namespace Spelling

def members (s : Spelling) (m : Message) : List (String × Bytes) :=
  [("version", quoted s.version), ("id", quoted s.id), ("source", quoted s.source), ("type", quoted s.kind),
    ("timestamp_ns", writeInt m.timestamp)] ++
  (if s.payload then [("payload", m.payload)] else []) ++
  if s.checksum then [("checksum", writeInt m.checksum)] else []

/-- A message without a payload or a checksum may be spelled without it. -/
structure Tells (s : Spelling) (m : Message) : Prop where
  version : Spells s.version m.version.toList
  id : Spells s.id m.id.toList
  source : Spells s.source m.source.toList
  kind : Spells s.kind m.kind.toList
  timestamp : -9223372036854775808 ≤ m.timestamp ∧ m.timestamp ≤ 9223372036854775807
  payload : if s.payload then Derives .value m.payload ∧ Utf8.isText m.payload = true else m.payload = []
  checksum : if s.checksum then m.checksum ≤ 4294967295 else m.checksum = 0

end Spelling

/-- The texts of a message, without blanks around them. -/
inductive Envelope (m : Message) : Bytes → Prop where
  | object {spelling : Spelling} {others listed : List (String × Bytes)} {text : Bytes} : spelling.Tells m →
      (∀ entry ∈ others, entry.1 ∉ names Message.members ∧ Derives .value entry.2) →
      listed.Perm (spelling.members m ++ others) → Entries listed text →
      Envelope m (ascii "\x7b" ++ (text ++ ascii "\x7d"))
  | list {spelling : Spelling} {text : Bytes} : spelling.Tells m →
      (spelling.checksum = true → spelling.payload = true) →
      Items ((spelling.members m).map Prod.snd) text → Envelope m (ascii "[" ++ (text ++ ascii "]"))

/-- The objects with a member of a message that occurs twice, in whatever spellings. -/
inductive Doubled : Bytes → Prop where
  | of {fields : List (Bytes × Bytes)} {text : Bytes} {name : String} {one two : Bytes × Bytes} :
      Fields fields text → name ∈ names Message.members → [one, two].Sublist fields →
      Spells one.1 name.toList → Spells two.1 name.toList → Doubled (ascii "\x7b" ++ (text ++ ascii "\x7d"))

private theorem opens_quoted (body : Bytes) : Opens (quoted body) := ⟨0x22, _, rfl, rfl, by decide⟩

private theorem opens_writeInt (i : Int) : Opens (writeInt i) := by
  rw [writeInt]
  split
  · exact ⟨0x2D, _, rfl, rfl, by decide⟩
  · obtain ⟨first, more, shape, -⟩ := writeNat_cons i.toNat
    have digit : isDigit first = true := by
      refine writeNat_isDigit i.toNat first ?_
      rw [shape]
      exact List.mem_cons_self
    have opens : ∀ b ∈ ascii "0123456789", isBlank b = false ∧ b ≠ 0x5D := each (by decide)
    exact ⟨first, more, shape, opens first ((isDigit_iff first).mp digit)⟩

/-! ### The members of a message -/

def Quotes (text : Bytes) (s : String) : Prop := ∃ body, Spells body s.toList ∧ text = quoted body

def Numbers (low high : Int) (text : Bytes) (i : Int) : Prop := text = writeInt i ∧ low ≤ i ∧ i ≤ high

def Values (text raw : Bytes) : Prop := text = raw ∧ Derives .value raw ∧ Utf8.isText raw = true

def styles : Styles [String, String, String, String, Int, Bytes, Int] :=
  (Quotes, Quotes, Quotes, Quotes, Numbers (-9223372036854775808) 9223372036854775807, Values,
    Numbers 0 4294967295, ())

private theorem quotes_readable (depth : Nat) {value : Bytes} {s : String} (quotes : Quotes value s) :
    Opens value ∧ Reads (Codec.text.read depth) value s := by
  obtain ⟨body, spelled, rfl⟩ := quotes
  have reads := text_reads spelled depth
  rw [String.ofList_toList] at reads
  exact ⟨opens_quoted body, reads⟩

private theorem numbers_readable (expected : String) (depth : Nat) {low high i : Int} {value : Bytes}
    (signed : -9223372036854775808 ≤ low) (word : high ≤ maxWord64) (numbers : Numbers low high value i) :
    Opens value ∧ Reads ((Codec.integer low high expected).read depth) value i := by
  obtain ⟨rfl, above, below⟩ := numbers
  exact ⟨opens_writeInt i, integer_read_write expected depth above below signed word⟩

private theorem values_readable {value raw : Bytes} (values : Values value raw) :
    Opens value ∧ Reads readRaw value raw := by
  obtain ⟨rfl, derived, text⟩ := values
  exact ⟨opens_value derived, readRaw_value derived text⟩

private theorem readable_members (depth : Nat) : Readable depth Message.members styles :=
  ⟨fun _ _ => quotes_readable depth, fun _ _ => quotes_readable depth, fun _ _ => quotes_readable depth,
    fun _ _ => quotes_readable depth, fun _ _ => numbers_readable "i64" depth (by decide) (by decide),
    fun _ _ => values_readable, fun _ _ => numbers_readable "u32" depth (by decide) (by decide), trivial⟩

section
variable {s : Spelling} {m : Message}

private theorem spelled_members (tells : s.Tells m) : Spelled Message.members styles (fields m) (s.members m) := by
  refine .inl ⟨_, _, rfl, ⟨_, tells.version, rfl⟩, ?_⟩
  refine .inl ⟨_, _, rfl, ⟨_, tells.id, rfl⟩, ?_⟩
  refine .inl ⟨_, _, rfl, ⟨_, tells.source, rfl⟩, ?_⟩
  refine .inl ⟨_, _, rfl, ⟨_, tells.kind, rfl⟩, ?_⟩
  refine .inl ⟨_, _, rfl, ⟨rfl, tells.timestamp⟩, ?_⟩
  have checksum : Spelled (.optional "checksum" .word32 0 (· = 0) .nil) (Numbers 0 4294967295, ())
      ((m.checksum : Int), ()) (if s.checksum then [("checksum", writeInt m.checksum)] else []) := by
    have sum := tells.checksum
    cases there : s.checksum <;> rw [there] at sum
    · exact .inr ⟨congrArg (fun n : Nat => some (n : Int)) (Eq.symm sum), rfl⟩
    · exact .inl ⟨_, _, rfl, ⟨rfl, Int.natCast_nonneg _, Int.ofNat_le.mpr sum⟩, rfl⟩
  have payload := tells.payload
  cases there : s.payload <;> rw [there] at payload
  · exact .inr ⟨congrArg some (Eq.symm payload), checksum⟩
  · exact .inl ⟨_, _, rfl, ⟨rfl, payload⟩, checksum⟩

private theorem heads_members (tells : s.Tells m) (last : s.checksum = true → s.payload = true) :
    Heads Message.members styles (fields m) ((s.members m).map Prod.snd) := by
  refine heads_of_spelled (by decide) (spelled_members tells) ?_
  rw [Spelling.members]
  cases checksum : s.checksum with
  | true =>
    rw [last checksum]
    exact List.prefix_refl _
  | false => cases s.payload <;> exact ⟨_, rfl⟩

theorem message_reads {text : Bytes} (envelope : Envelope m text) (depth : Nat) :
    Reads (Message.codec.read (depth + 1)) text m := by
  have reads : Reads ((Codec.record "Message" Message.members).read (depth + 1)) text (fields m) := by
    cases envelope with
    | object tells unknown order listed =>
      exact object_reads "Message" (by decide) (readable_members depth) (spelled_members tells) unknown order listed
    | list tells last listed => exact list_reads "Message" (readable_members depth) (heads_members tells last) listed
  intro before rest blank stops
  simp only [Message.codec, Codec.convert, reads before rest blank stops, Except.map]
  rfl

private theorem consuming_members (depth : Nat) : Consuming depth Message.members :=
  ⟨text_consumes depth, text_consumes depth, text_consumes depth, text_consumes depth,
    integer_consumes depth _ _ _, raw_consumes, integer_consumes depth _ _ _, trivial⟩

end

/-- Every text of a valid message that is not too large gives the message, whatever blanks are around it. No object
that has a member of a message twice gives any. -/
theorem unmarshal_envelope {before text after : Bytes} (before_blank : Blank before) (after_blank : Blank after) :
    (∀ m, Envelope m text → m.validate = .ok () → (before ++ (text ++ after)).length ≤ Message.maxSize →
      Message.unmarshal (before ++ (text ++ after)) = .ok m) ∧
    (Doubled text → ∀ m, Message.unmarshal (before ++ (text ++ after)) ≠ .ok m) := by
  constructor
  · intro m envelope valid small
    have read := readText_reads (message_reads envelope 126) before_blank after_blank
    exact unmarshal_iff.mpr ⟨small, read, valid⟩
  · rintro ⟨listed, known, both, spelled, spelledAgain⟩ m received
    obtain ⟨⟨m, rest⟩, read, -⟩ := JsonOrigins.ok_of_bind (unmarshal_iff.mp received).2.1
    obtain ⟨tuple, read, -⟩ := JsonOrigins.convert_read read
    exact record_refuses "Message" (consuming_members 126) listed known both spelled spelledAgain before_blank after
      _ read

/-- The printer's spelling of a string, without its quotes. -/
def plainly (s : String) : Bytes := Utf8.encode (s.toList.flatMap escapeChar)

def sketch : Message := ⟨"1", "m", "s", "t", -5, [], 0⟩

def sketched : Spelling where
  version := plainly "1"
  id := plainly "m"
  source := plainly "s"
  kind := ascii "\\u0074"
  payload := false
  checksum := false

def scattered : List (String × Bytes) :=
  [("timestamp_ns", ascii "-5"), ("note", ascii "[[]]"), ("type", quoted (ascii "\\u0074")),
    ("source", quoted (plainly "s")), ("id", quoted (plainly "m")), ("version", quoted (plainly "1"))]

def scatteredText : Bytes := commaSeparated (scattered.map fun entry => writeMember entry.1 entry.2)

def doubledText : Bytes := ascii "\"id\":null,\"\\u0069d\":0"

private theorem scattered_envelope : Envelope sketch (ascii "\x7b" ++ (scatteredText ++ ascii "\x7d")) := by
  have unit : Spells (ascii "\\u0074") "t".toList :=
    @Spells.unit (ascii "0074") [] 0x74 [] (by decide) (.inl (by decide)) .nil
  have tells : sketched.Tells sketch :=
    ⟨spells_escaped _, spells_escaped _, spells_escaped _, unit, by decide, rfl, rfl⟩
  have nested : Derives .value (ascii "[[]]") :=
    .list (.lastElement (@Derives.element [] (ascii "[]") [] blank_nil (@Derives.emptyList [] blank_nil) blank_nil))
  have unknown : ∀ entry ∈ [("note", ascii "[[]]")], entry.1 ∉ names Message.members ∧ Derives .value entry.2 :=
    List.forall_mem_singleton.mpr ⟨by decide, nested⟩
  have order : scattered.Perm (sketched.members sketch ++ [("note", ascii "[[]]")]) := by decide +kernel
  exact .object tells unknown order (entries_commaSeparated (List.cons_ne_nil _ _))

private theorem doubled_twice : Doubled (ascii "\x7b" ++ (doubledText ++ ascii "\x7d")) := by
  have letter : Body (ascii "d") := @Body.plain 0x64 _ (by decide) (by decide) .nil
  have letters : Body (ascii "id") := @Body.plain 0x69 _ (by decide) (by decide) letter
  have escaped : Body (ascii "\\u0069d") := @Body.unit 0x30 0x30 0x36 0x39 _ (each (by decide)) letter
  have last : Spells (ascii "d") ['d'] := spells_escaped ['d']
  have spelled : Spells (ascii "id") "id".toList := spells_escaped ['i', 'd']
  have spelledAgain : Spells (ascii "\\u0069d") "id".toList :=
    @Spells.unit (ascii "0069") _ 0x69 _ (by decide) (.inl (by decide)) last
  have null : Derives .value (ascii "null") := .word (by decide)
  have zero : Derives .value (ascii "0") := .number (@Numeral.of [] _ [] [] (by decide) .zero .none .none)
  have first := Field.of blank_nil letters blank_nil blank_nil null blank_nil
  have second := Field.of blank_nil escaped blank_nil blank_nil zero blank_nil
  have listed : Fields [(ascii "id", ascii "null"), (ascii "\\u0069d", ascii "0")] doubledText :=
    .more first (.last second)
  exact .of listed (by decide) (List.Sublist.refl _) spelled spelledAgain

theorem unmarshal_envelope_scattered :
    Message.unmarshal (ascii " " ++ (ascii "\x7b" ++ (scatteredText ++ ascii "\x7d") ++ ascii "\n")) = .ok sketch ∧
    ∀ m, Message.unmarshal ([] ++ (ascii "\x7b" ++ (doubledText ++ ascii "\x7d") ++ [])) ≠ .ok m := by
  have small : (ascii " " ++ (ascii "\x7b" ++ (scatteredText ++ ascii "\x7d") ++ ascii "\n")).length ≤
      Message.maxSize := by decide +kernel
  exact ⟨(unmarshal_envelope (by decide) (by decide)).1 sketch scattered_envelope rfl small,
    (unmarshal_envelope blank_nil blank_nil).2 doubled_twice⟩

end Courier.Proofs.EnvelopeGrammar
