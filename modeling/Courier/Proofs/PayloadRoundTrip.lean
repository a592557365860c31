import Courier.Payload
import Courier.Proofs.JsonValues
import Courier.Proofs.MessageRoundTrip

/-! The records that messages carry. What is written for a record is decoded as the same record, in the message
that was made for it and in the one that arrives on the wire. -/

namespace Courier.Proofs.PayloadRoundTrip
open Json JsonScanning JsonStrings JsonIntegers JsonRecords JsonObjects JsonNesting JsonWriting JsonValues
open JsonGrammar Payload MessageRoundTrip

/-- What is written is JSON, and it is read back where brackets may nest as deep as its own. -/
structure Sound {α : Type} (codec : Codec α) (a : α) : Prop where
  written : Written (codec.write a)
  reads : ∀ depth, nesting (codec.write a) ≤ depth → Reads (codec.read depth) (codec.write a) a

private theorem sound_text (s : String) : Sound .text s where
  written := written_string s
  reads depth _ := text_read_write s depth

private theorem sound_boolean (b : Bool) : Sound .boolean b where
  written := by cases b <;> exact written_word (by decide)
  reads _ _ := boolean_read_write b

private theorem sound_int64 {i : Int} (range : -9223372036854775808 ≤ i ∧ i ≤ 9223372036854775807) : Sound .int64 i where
  written := written_int i
  reads depth _ := int64_read_write depth range.1 range.2

private theorem sound_value {v : Value} (plain : Plain v) : Sound .value v where
  written := written_value plain
  reads _ fits := value_read_write plain fits

section
variable {α : Type} {item : Codec α}

private theorem sound_list {items : List α} (all : ∀ a ∈ items, Sound item a) : Sound (.list item) items := by
  have written : ∀ text ∈ items.map item.write, Written text :=
    List.forall_mem_map.mpr fun a member => (all a member).written
  refine ⟨written_list written, fun depth fits => ?_⟩
  obtain ⟨inner, rfl, inside⟩ := nesting_list written fits
  refine list_read_write (fun a member => opens_value (all a member).written.value) fun a member => ?_
  exact (all a member).reads inner (inside _ (List.mem_map_of_mem member))

private theorem sound_table {entries : List (String × α)} (sorted : Sorted entries)
    (all : ∀ entry ∈ entries, Sound item entry.2) : Sound (.table item) entries := by
  have written : ∀ entry ∈ entries, Written (item.write entry.2) := fun entry member => (all entry member).written
  refine ⟨written_object item.write written, fun depth fits => ?_⟩
  obtain ⟨inner, rfl, inside⟩ := nesting_object item.write written fits
  exact table_read_write sorted fun entry member => (all entry member).reads inner (inside entry member)

end

private theorem sound_texts {entries : Table String} (sorted : Sorted entries) : Sound (.table .text) entries :=
  sound_table sorted fun entry _ => sound_text entry.2

private theorem sound_values {entries : Table Value} (sorted : Sorted entries) (plain : ∀ entry ∈ entries, Plain entry.2) :
    Sound (.table .value) entries :=
  sound_table sorted fun entry member => sound_value (plain entry member)

/-! ### Records -/

def AllSound : {types : List Type} → Members types → Tuple types → Prop
  | _, .nil, () => True
  | _, .cons _ codec absent omits more, (a, tuple) =>
    (omitted absent omits a = true → absent = some a) ∧ Sound codec a ∧ AllSound more tuple

section
variable {types : List Type}

private theorem written_entries {members : Members types} {tuple : Tuple types} (sound : AllSound members tuple) :
    ∀ entry ∈ entries members tuple, Written entry.2 := by
  induction members with
  | nil => nofun
  | cons name codec absent omits more ih =>
    obtain ⟨a, tuple⟩ := tuple
    obtain ⟨-, here, later⟩ := sound
    rw [entries]
    split
    · exact ih later
    · exact List.forall_mem_cons.mpr ⟨here.written, ih later⟩

private theorem faithful_of_sound {members : Members types} {tuple : Tuple types} {depth : Nat}
    (sound : AllSound members tuple) (fits : ∀ entry ∈ entries members tuple, nesting entry.2 ≤ depth) :
    Faithful depth members tuple := by
  induction members with
  | nil => trivial
  | cons name codec absent omits more ih =>
    obtain ⟨a, tuple⟩ := tuple
    obtain ⟨default, here, later⟩ := sound
    rw [entries] at fits
    rw [Faithful]
    split at fits
    next left =>
      rw [if_pos left]
      exact ⟨default left, ih later fits⟩
    next left =>
      obtain ⟨own, others⟩ := List.forall_mem_cons.mp fits
      rw [if_neg left]
      exact ⟨here.reads depth own, ih later others⟩

/-- A record is sound if its members are, and if some are written at all. -/
theorem sound_record (record : String) {members : Members types} {tuple : Tuple types}
    (distinct : (names members).Nodup) (sound : AllSound members tuple) (some : entries members tuple ≠ []) :
    Sound (.record record members) tuple := by
  have write : (Codec.record record members).write tuple = writeObject (memberTexts id (entries members tuple)) :=
    congrArg writeObject (writeAll_eq members tuple)
  have written := written_entries sound
  refine ⟨?_, fun depth fits => ?_⟩
  · rw [write]
    exact written_object id written
  · rw [write] at fits
    obtain ⟨inner, rfl, inside⟩ := nesting_object id written fits
    exact record_read_write record distinct (faithful_of_sound sound inside) some

private theorem sound_convert {α β : Type} {codec : Codec α} {forth : α → β} {back : β → α} {b : β}
    (same : forth (back b) = b) (sound : Sound codec (back b)) : Sound (codec.convert forth back) b where
  written := sound.written
  reads depth fits := convert_read_write same (sound.reads depth fits)

variable {more : Members types} {tuple : Tuple types} (name : String)

private theorem required_sound {α : Type} {codec : Codec α} {a : α} (here : Sound codec a) (later : AllSound more tuple) :
    AllSound (.required name codec more) (a, tuple) := ⟨nofun, here, later⟩

private theorem optionalText_sound {s : String} (later : AllSound more tuple) :
    AllSound (optionalText name more) (s, tuple) := by
  refine ⟨fun left => ?_, sound_text s, later⟩
  have empty : s = "" := String.isEmpty_iff.mp left
  rw [empty]

private theorem optionalList_sound {α : Type} {codec : Codec (List α)} {items : List α} (here : Sound codec items)
    (later : AllSound more tuple) : AllSound (optionalList name codec more) (items, tuple) := by
  refine ⟨fun left => ?_, here, later⟩
  have empty : items = [] := List.isEmpty_iff.mp left
  rw [empty]

end

/-- The records that messages carry, as their types have them: integers have 64 bits, and tables are sorted by
name. The values in them are plain. -/
inductive Proper : {α : Type} → Codec α → α → Prop where
  | inferRequest {r : InferRequest} : Sorted r.params → (∀ entry ∈ r.params, Plain entry.2) → Sorted r.notes →
      Proper InferRequest.codec r
  | chatMessage (c : ChatMessage) : Proper ChatMessage.codec c
  | evalRun {r : EvalRun} : Sorted r.tags → Proper EvalRun.codec r
  | traceSpan {s : TraceSpan} : (-9223372036854775808 ≤ s.start ∧ s.start ≤ 9223372036854775807) →
      (-9223372036854775808 ≤ s.finish ∧ s.finish ≤ 9223372036854775807) → Sorted s.attributes →
      (∀ entry ∈ s.attributes, Plain entry.2) → Proper TraceSpan.codec s
  | dataEntities {e : DataEntities} : (-9223372036854775808 ≤ e.count ∧ e.count ≤ 9223372036854775807) →
      Proper DataEntities.codec e
  | dataSchema (s : DataSchema) : Proper DataSchema.codec s
  | schemaField (f : SchemaField) : Proper SchemaField.codec f
  | healthPing (p : HealthPing) : Proper HealthPing.codec p
  | healthPong {p : HealthPong} : (-9223372036854775808 ≤ p.uptime ∧ p.uptime ≤ 9223372036854775807) →
      Proper HealthPong.codec p

private theorem sound_chatMessage (c : ChatMessage) : Sound ChatMessage.codec c := by
  refine sound_convert rfl (sound_record "ChatMessage" (by decide) ?_ (List.cons_ne_nil _ _))
  exact required_sound _ (sound_text _) <| required_sound _ (sound_text _) trivial

private theorem sound_schemaField (f : SchemaField) : Sound SchemaField.codec f := by
  refine sound_convert rfl (sound_record "SchemaField" (by decide) ?_ (List.cons_ne_nil _ _))
  exact required_sound _ (sound_text _) <| required_sound _ (sound_text _) <|
    required_sound _ (sound_boolean _) trivial

theorem sound_proper {α : Type} {codec : Codec α} {a : α} (proper : Proper codec a) : Sound codec a := by
  cases proper with
  | inferRequest params plain notes =>
    refine sound_convert rfl (sound_record "InferRequest" (by decide) ?_ (List.cons_ne_nil _ _))
    exact required_sound _ (sound_text _) <| optionalText_sound _ <|
      required_sound _ (sound_list fun c _ => sound_chatMessage c) <|
      optionalList_sound _ (sound_values params plain) <| optionalList_sound _ (sound_texts notes) trivial
  | chatMessage c => exact sound_chatMessage c
  | evalRun tags =>
    refine sound_convert rfl (sound_record "EvalRun" (by decide) ?_ (List.cons_ne_nil _ _))
    exact required_sound _ (sound_text _) <| optionalList_sound _ (sound_list fun s _ => sound_text s) <|
      required_sound _ (sound_boolean _) <| optionalText_sound _ <| optionalList_sound _ (sound_texts tags) trivial
  | traceSpan start finish attributes plain =>
    refine sound_convert rfl (sound_record "TraceSpan" (by decide) ?_ (List.cons_ne_nil _ _))
    exact required_sound _ (sound_text _) <| required_sound _ (sound_text _) <| optionalText_sound _ <|
      required_sound _ (sound_text _) <| required_sound _ (sound_int64 start) <|
      required_sound _ (sound_int64 finish) <| required_sound _ (sound_text _) <|
      optionalList_sound _ (sound_values attributes plain) trivial
  | dataEntities count =>
    refine sound_convert rfl (sound_record "DataEntities" (by decide) ?_ (List.cons_ne_nil _ _))
    exact required_sound _ (sound_int64 count) <| required_sound _ (sound_text _) <|
      required_sound _ (sound_text _) <| optionalText_sound _ <| optionalText_sound _ trivial
  | dataSchema s =>
    refine sound_convert rfl (sound_record "DataSchema" (by decide) ?_ (List.cons_ne_nil _ _))
    exact required_sound _ (sound_text _) <| required_sound _ (sound_list fun f _ => sound_schemaField f) trivial
  | schemaField f => exact sound_schemaField f
  | healthPing p =>
    refine sound_convert rfl (sound_record "HealthPing" (by decide) ?_ (List.cons_ne_nil _ _))
    exact required_sound _ (sound_text _) trivial
  | healthPong uptime =>
    refine sound_convert rfl (sound_record "HealthPong" (by decide) ?_ (List.cons_ne_nil _ _))
    exact required_sound _ (sound_text _) <| required_sound _ (sound_text _) <|
      required_sound _ (sound_int64 uptime) trivial

/-! ### Messages -/

theorem decode_written {α : Type} {codec : Codec α} {a : α} (sound : Sound codec a)
    (shallow : nesting (codec.write a) ≤ depthLimit) {m : Message} (carried : m.payload = codec.write a) :
    m.decode codec = .ok a := by
  have read := readText_reads (sound.reads depthLimit shallow) blank_nil blank_nil
  rw [List.nil_append, List.append_nil] at read
  rw [Message.decode, carried, read]

private theorem writable_ofPayload {α : Type} {codec : Codec α} {a : α} (sound : Sound codec a) {id source kind : String}
    {timestamp : Int} (range : -9223372036854775808 ≤ timestamp ∧ timestamp ≤ 9223372036854775807) :
    Writable (Message.ofPayload codec id timestamp source kind a) where
  timestamp := range
  checksum := Nat.zero_le _
  payload := sound.written.value
  text := sound.written.utf8

/-- A record that nests at most 127 brackets deep is decoded as itself, and so it is on the other side of the
wire. -/
theorem decode_ofPayload {α : Type} {codec : Codec α} {a : α} (proper : Proper codec a)
    (shallow : nesting (codec.write a) ≤ 127) (id source kind : String) (timestamp : Int) :
    (Message.ofPayload codec id timestamp source kind a).decode codec = .ok a ∧
    (id ≠ "" → source ≠ "" → kind ≠ "" → -9223372036854775808 ≤ timestamp ∧ timestamp ≤ 9223372036854775807 →
      ∃ wire, (Message.ofPayload codec id timestamp source kind a).marshal = .ok wire ∧
        (wire.length ≤ Message.maxSize → ∃ m, Message.unmarshal wire = .ok m ∧ m.decode codec = .ok a)) := by
  have sound := sound_proper proper
  have back : (Message.ofPayload codec id timestamp source kind a).decode codec = .ok a :=
    decode_written sound shallow rfl
  refine ⟨back, fun identified sent typed range => ?_⟩
  have writable : Writable (Message.ofPayload codec id timestamp source kind a) := writable_ofPayload sound range
  refine ⟨_, marshal_eq writable, fun small => ⟨_, unmarshal_write writable ?_ small, back⟩⟩
  have shorter : (codec.write a).length ≤ Message.maxSize := Nat.le_trans (length_payload_le writable) small
  have current : ¬ Version.current.isEmpty = true := by decide
  exact validate_iff.mpr ⟨current, mt String.isEmpty_iff.mp identified, mt String.isEmpty_iff.mp sent,
    mt String.isEmpty_iff.mp typed, shorter⟩

def spanned : TraceSpan where
  traceId := "\x00\"é"
  spanId := "[\x7b"
  parentId := ""
  operation := "o"
  start := -9223372036854775808
  finish := 9223372036854775807
  status := ""
  attributes := [("", .array [.null, .object [], .object [("a", .array []), ("b", .boolean true)]]),
    ("n", .integer 18446744073709551615), ("s", .text "]")]

theorem spanned_proper : Proper TraceSpan.codec spanned := by
  have list : Plain (.array []) := .array nofun
  have inner : Plain (.object [("a", .array []), ("b", .boolean true)]) :=
    .object (by decide) (by decide)
      (List.forall_mem_cons.mpr ⟨list, List.forall_mem_singleton.mpr (.boolean true)⟩)
  have empty : Plain (.object []) := .object .nil nofun nofun
  have outer : Plain (.array [.null, .object [], .object [("a", .array []), ("b", .boolean true)]]) :=
    .array (List.forall_mem_cons.mpr
      ⟨.null, List.forall_mem_cons.mpr ⟨empty, List.forall_mem_singleton.mpr inner⟩⟩)
  have number : Plain (.integer 18446744073709551615) := .integer (by decide) (by decide)
  exact .traceSpan (by decide) (by decide) (by decide) (List.forall_mem_cons.mpr
    ⟨outer, List.forall_mem_cons.mpr ⟨number, List.forall_mem_singleton.mpr (.text "]")⟩⟩)

theorem decode_ofPayload_spanned :
    Proper TraceSpan.codec spanned ∧ nesting (TraceSpan.codec.write spanned) ≤ 127 ∧
    (Message.ofPayload TraceSpan.codec "i" 0 "s" "t" spanned).decode TraceSpan.codec = .ok spanned ∧
    ∃ wire, (Message.ofPayload TraceSpan.codec "i" 0 "s" "t" spanned).marshal = .ok wire ∧
      ∃ m, Message.unmarshal wire = .ok m ∧ m.decode TraceSpan.codec = .ok spanned := by
  have shallow : nesting (TraceSpan.codec.write spanned) ≤ 127 := by decide +kernel
  obtain ⟨here, there⟩ := decode_ofPayload spanned_proper shallow "i" "s" "t" 0
  obtain ⟨wire, written, back⟩ := there (by decide) (by decide) (by decide) (by decide)
  have written_as : wire = Message.codec.write (Message.ofPayload TraceSpan.codec "i" 0 "s" "t" spanned) :=
    Except.ok.inj (written.symm.trans (marshal_eq (writable_ofPayload (sound_proper spanned_proper) (by decide))))
  have small : wire.length ≤ Message.maxSize := by
    rw [written_as]
    decide +kernel
  exact ⟨spanned_proper, shallow, here, wire, written, back small⟩

/-- One of its values has the shape of one that stands for another. -/
def deceiving : InferRequest where
  model := "m"
  provider := ""
  messages := []
  params := [("p", .object [(embeddedName, .text "1")])]
  notes := []

theorem decode_ofPayload_deceiving :
    nesting (InferRequest.codec.write deceiving) ≤ 127 ∧
    (Message.ofPayload InferRequest.codec "i" 0 "s" "t" deceiving).decode InferRequest.codec =
      .ok { deceiving with params := [("p", .integer 1)] } ∧
    { deceiving with params := [("p", .integer 1)] } ≠ deceiving := by
  refine ⟨by decide +kernel, by with_unfolding_all rfl, fun same => ?_⟩
  have params := congrArg InferRequest.params same
  cases params

end Courier.Proofs.PayloadRoundTrip
