import Courier.Proofs.JsonObjects
import Courier.Proofs.JsonWriting

/-! Lists, tables and values are read back from what is written for them, where brackets may nest as deep as they
do. An object whose first member has the name that stands for another value is read as that value. -/

namespace Courier.Proofs.JsonValues
open Json JsonGrammar JsonScanning JsonStrings JsonIntegers JsonRecords JsonObjects JsonWriting JsonNesting

/-! ### Sorted members -/

section
variable {α : Type}

def Sorted (entries : List (String × α)) : Prop := entries.Pairwise fun one other => one.1 < other.1

instance (entries : List (String × α)) : Decidable (Sorted entries) :=
  inferInstanceAs (Decidable (entries.Pairwise _))

private theorem insertSorted_last {name : String} {done : List (String × α)} (a : α)
    (below : ∀ entry ∈ done, entry.1 < name) : insertSorted name a done = done ++ [(name, a)] := by
  induction done with
  | nil => rfl
  | cons entry done ih =>
    obtain ⟨less, below⟩ := List.forall_mem_cons.mp below
    have greater : ¬ name < entry.1 := String.lt_asymm less
    have other : ¬ name = entry.1 := fun same => String.lt_irrefl name (same ▸ less)
    rw [insertSorted, if_neg greater, if_neg other, ih below, List.cons_append]

private theorem sortMembers_sorted {entries : List (String × α)} (sorted : Sorted entries) :
    sortMembers entries = entries := by
  have grows (done : List (String × α)) (ordered : Sorted (done ++ entries)) :
      entries.foldl (fun done entry => insertSorted entry.1 entry.2 done) done = done ++ entries := by
    clear sorted
    induction entries generalizing done with
    | nil => exact (List.append_nil done).symm
    | cons entry entries ih =>
      have below : ∀ before ∈ done, before.1 < entry.1 := fun before member =>
        (List.pairwise_append.mp ordered).2.2 before member entry List.mem_cons_self
      rw [List.append_cons] at ordered ⊢
      rw [List.foldl_cons, insertSorted_last entry.2 below]
      exact ih _ ordered
  exact grows [] sorted

end

/-! ### What is between brackets -/

/-- Items with a comma before each, except the first one of all. -/
def separated : Bool → List Bytes → Bytes
  | _, [] => []
  | first, item :: more => comma first ++ (item ++ separated false more)

private theorem commaSeparated_eq (items : List Bytes) : commaSeparated items = separated true items := by
  fun_induction commaSeparated items with
  | case1 => rfl
  | case2 last => exact (List.append_nil last).symm
  | case3 first rest some ih =>
    cases rest with
    | nil => exact absurd rfl some
    | cons next rest =>
      rw [ih]
      rfl

private theorem length_le_separated (first : Bool) {items : List Bytes} (solid : ∀ item ∈ items, item ≠ []) :
    items.length ≤ (separated first items).length := by
  induction items generalizing first with
  | nil => exact Nat.zero_le _
  | cons item more ih =>
    obtain ⟨here, later⟩ := List.forall_mem_cons.mp solid
    have := List.length_pos_iff.mpr here
    have := ih false later
    simp only [separated, List.length_cons, List.length_append]
    omega

private theorem stops_separated {bracket : UInt8} (closing : bracket ∈ ascii "]\x7d") (items : List Bytes) (rest : Bytes) :
    Stops (separated false items ++ bracket :: rest) := by
  have outside : ∀ b ∈ ascii "]\x7d", b ∉ ascii "0123456789.eE" := each (by decide)
  cases items with
  | nil => exact stops_cons (outside bracket closing) rest
  | cons item more => exact stops_cons (by decide) _

private theorem nextName_written (first : Bool) (name : String) (value rest : Bytes) :
    nextName first (comma first ++ (writeMember name value ++ rest)) =
      .ok (some (name, 0x3A :: (value ++ rest))) := by
  have next := nextName_quoted first blank_nil blank_nil (spells_escaped name.toList) (0x3A :: (value ++ rest))
  have same : writeMember name value ++ rest =
      quoted (Utf8.encode (name.toList.flatMap escapeChar)) ++ 0x3A :: (value ++ rest) := List.append_assoc _ _ _
  rw [same]
  exact next

private theorem readColon_written (rest : Bytes) : readColon (0x3A :: rest) = .ok rest := rfl

section
variable {α : Type} {read : Bytes → Except Error (α × Bytes)} {write : α → Bytes}

private theorem readItems_written (first : Bool) {items : List α} {fuel : Bytes} (enough : items.length < fuel.length)
    (opens : ∀ a ∈ items, Opens (write a)) (reads : ∀ a ∈ items, Reads read (write a) a) (rest : Bytes)
    (done : List α) :
    readItems read fuel first (separated first (items.map write) ++ 0x5D :: rest) done =
      .ok (done.reverse ++ items, rest) := by
  induction items generalizing first fuel done with
  | nil =>
    match fuel, enough with
    | used :: fuel, _ =>
      have last := nextItem_end first blank_nil rest
      have bracket : readEnd 0x5D ([] ++ 0x5D :: rest) = .ok rest := readEnd_bracket rfl blank_nil rest
      rw [List.nil_append] at last bracket
      simp only [readItems, List.map_nil, separated, List.nil_append, last, bracket, bind, Except.bind]
      rw [List.append_nil]
      rfl
  | cons a items ih =>
    match fuel, enough with
    | used :: fuel, enough =>
      obtain ⟨opens, others⟩ := List.forall_mem_cons.mp opens
      obtain ⟨here, later⟩ := List.forall_mem_cons.mp reads
      have stops : Stops (separated false (items.map write) ++ 0x5D :: rest) := stops_separated (by decide) _ rest
      have found := here [] _ blank_nil stops
      have next := nextItem_opens first blank_nil blank_nil opens
        (separated false (items.map write) ++ 0x5D :: rest)
      rw [List.nil_append] at found
      rw [List.nil_append, List.nil_append] at next
      simp only [readItems, List.map_cons, separated, List.append_assoc, next, found, bind, Except.bind]
      rw [ih false (Nat.lt_of_succ_lt_succ enough) others later, List.reverse_cons, List.append_assoc,
        List.singleton_append]

private theorem readMembers_written (first : Bool) {entries : List (String × α)} {fuel : Bytes}
    (enough : entries.length < fuel.length) (reads : ∀ entry ∈ entries, Reads read (write entry.2) entry.2)
    (rest : Bytes) (done : List (String × α)) :
    readMembers read fuel first (separated first (memberTexts write entries) ++ 0x7D :: rest) done =
      .ok (done.reverse ++ entries, rest) := by
  induction entries generalizing first fuel done with
  | nil =>
    match fuel, enough with
    | used :: fuel, _ =>
      have last := nextName_end first blank_nil rest
      have bracket : readEnd 0x7D ([] ++ 0x7D :: rest) = .ok rest := readEnd_bracket rfl blank_nil rest
      rw [List.nil_append] at last bracket
      simp only [readMembers, memberTexts, List.map_nil, separated, List.nil_append, last, bracket, bind, Except.bind]
      rw [List.append_nil]
      rfl
  | cons entry entries ih =>
    match fuel, enough with
    | used :: fuel, enough =>
      obtain ⟨name, a⟩ := entry
      obtain ⟨here, later⟩ := List.forall_mem_cons.mp reads
      have stops : Stops (separated false (memberTexts write entries) ++ 0x7D :: rest) :=
        stops_separated (by decide) _ rest
      have texts : memberTexts write ((name, a) :: entries) =
          writeMember name (write a) :: memberTexts write entries := rfl
      have found := here [] _ blank_nil stops
      rw [List.nil_append] at found
      simp only [readMembers, texts, separated, List.append_assoc, nextName_written, readColon_written, found, bind,
        Except.bind]
      rw [ih false (Nat.lt_of_succ_lt_succ enough) later, List.reverse_cons, List.append_assoc,
        List.singleton_append]

end

private theorem skipBlanks_solid {before : Bytes} (blank : Blank before) {b : UInt8} (solid : isBlank b = false)
    (rest : Bytes) : skipBlanks (before ++ b :: rest) = b :: rest := by
  rw [skipBlanks_append blank, skipBlanks_cons solid]

private theorem skipBlanks_list {before : Bytes} (blank : Blank before) (items : List Bytes) (rest : Bytes) :
    skipBlanks (before ++ (writeList items ++ rest)) = 0x5B :: (separated true items ++ 0x5D :: rest) := by
  rw [writeList, commaSeparated_eq]
  exact skipBlanks_bracketed rfl blank _ rest 0x5D

private theorem skipBlanks_object {before : Bytes} (blank : Blank before) (members : List Bytes) (rest : Bytes) :
    skipBlanks (before ++ (writeObject members ++ rest)) = 0x7B :: (separated true members ++ 0x7D :: rest) := by
  rw [writeObject, commaSeparated_eq]
  exact skipBlanks_bracketed rfl blank _ rest 0x7D

section
variable {α : Type} {read : Bytes → Except Error (α × Bytes)} (write : α → Bytes)

private theorem readItems_list {items : List α} (opens : ∀ a ∈ items, Opens (write a))
    (reads : ∀ a ∈ items, Reads read (write a) a) (rest : Bytes) :
    readItems read (0x5B :: (separated true (items.map write) ++ 0x5D :: rest)) true
      (separated true (items.map write) ++ 0x5D :: rest) [] = .ok (items, rest) := by
  have solid : ∀ item ∈ items.map write, item ≠ [] := by
    refine List.forall_mem_map.mpr fun a member => ?_
    obtain ⟨b, more, same, -⟩ := opens a member
    exact same ▸ List.cons_ne_nil b more
  have enough := length_le_separated true solid
  rw [List.length_map] at enough
  refine readItems_written true ?_ opens reads rest []
  simp only [List.length_cons, List.length_append]
  omega

variable {entries : List (String × α)}

private theorem readMembers_object (reads : ∀ entry ∈ entries, Reads read (write entry.2) entry.2) (rest : Bytes) :
    readMembers read (0x7B :: (separated true (memberTexts write entries) ++ 0x7D :: rest)) true
      (separated true (memberTexts write entries) ++ 0x7D :: rest) [] = .ok (entries, rest) := by
  have solid : ∀ item ∈ memberTexts write entries, item ≠ [] :=
    List.forall_mem_map.mpr fun entry _ => List.cons_ne_nil _ _
  have enough := length_le_separated true solid
  rw [memberTexts, List.length_map, ← memberTexts] at enough
  refine readMembers_written true ?_ reads rest []
  simp only [List.length_cons, List.length_append]
  omega

private theorem embedded_none (other : ∀ first ∈ entries.head?, first.1 ≠ embeddedName) (rest : Bytes) :
    embedded? (separated true (memberTexts write entries) ++ 0x7D :: rest) = none := by
  cases entries with
  | nil =>
    have last := nextName_end true blank_nil rest
    rw [List.nil_append] at last
    simp only [embedded?, memberTexts, List.map_nil, separated, List.nil_append, last]
  | cons entry entries =>
    have named : entry.1 ≠ embeddedName := other entry rfl
    simp only [embedded?, memberTexts, List.map_cons, separated, List.append_assoc, nextName_written, if_neg named]

end

/-! ### Codecs -/

section
variable {α : Type} {item : Codec α} {depth : Nat}

theorem boolean_read_write (b : Bool) : Reads (Codec.boolean.read depth) (Codec.boolean.write b) b := by
  intro before rest blank stops
  cases b with
  | true =>
    have start : skipBlanks (before ++ (ascii "true" ++ rest)) = 0x74 :: (ascii "rue" ++ rest) :=
      skipBlanks_solid blank rfl _
    simp only [Codec.boolean, atValue, if_true, start]
    rfl
  | false =>
    have start : skipBlanks (before ++ (ascii "false" ++ rest)) = 0x66 :: (ascii "alse" ++ rest) :=
      skipBlanks_solid blank rfl _
    simp only [Codec.boolean, atValue, if_false, Bool.false_eq_true, start]
    rfl

theorem list_read_write {items : List α} (opens : ∀ a ∈ items, Opens (item.write a))
    (reads : ∀ a ∈ items, Reads (item.read depth) (item.write a) a) :
    Reads ((Codec.list item).read (depth + 1)) ((Codec.list item).write items) items := by
  intro before rest blank stops
  have start := skipBlanks_list blank (items.map item.write) rest
  simp only [Codec.list, atValue, start, if_true]
  exact readItems_list item.write opens reads rest

theorem table_read_write {entries : List (String × α)} (sorted : Sorted entries)
    (reads : ∀ entry ∈ entries, Reads (item.read depth) (item.write entry.2) entry.2) :
    Reads ((Codec.table item).read (depth + 1)) ((Codec.table item).write entries) entries := by
  intro before rest blank stops
  have start : skipBlanks (before ++ ((Codec.table item).write entries ++ rest)) = _ :=
    skipBlanks_object blank (memberTexts item.write entries) rest
  have members := readMembers_object item.write reads rest
  rw [Codec.table] at start ⊢
  simp only [atValue, start, if_true, members, Except.map, sortMembers_sorted sorted]

end

/-! ### Values -/

/-- A value without doubles: its integers have 64 bits, the members of its objects are sorted by name, and none of
its objects has a first member of the name that stands for another value. -/
inductive Plain : Value → Prop where
  | null : Plain .null
  | boolean (b : Bool) : Plain (.boolean b)
  | integer {i : Int} : -9223372036854775808 ≤ i → i ≤ maxWord64 → Plain (.integer i)
  | text (s : String) : Plain (.text s)
  | array {items : List Value} : (∀ item ∈ items, Plain item) → Plain (.array items)
  | object {members : List (String × Value)} : Sorted members → (∀ first ∈ members.head?, first.1 ≠ embeddedName) →
      (∀ entry ∈ members, Plain entry.2) → Plain (.object members)

private theorem writeItems_eq (items : List Value) : writeItems items = items.map Value.write := by
  induction items with
  | nil => rfl
  | cons item rest ih => rw [writeItems, List.map_cons, ih]

private theorem writeMembers_eq (members : List (String × Value)) :
    writeMembers members = memberTexts Value.write members := by
  induction members with
  | nil => rfl
  | cons entry rest ih => rw [writeMembers, memberTexts, List.map_cons, ih, memberTexts]

theorem written_value {v : Value} (plain : Plain v) : Written v.write := by
  induction plain with
  | null => exact written_word (by decide)
  | boolean b => cases b <;> exact written_word (by decide)
  | integer => exact written_int _
  | text s => exact written_string s
  | array _ ih =>
    rw [Value.write, writeItems_eq]
    exact written_list (List.forall_mem_map.mpr ih)
  | object _ _ _ ih =>
    rw [Value.write, writeMembers_eq]
    exact written_object Value.write ih

section
variable (spelled : Bytes → Except Error Value)

private theorem readValueWith_number {expected : String} {depth : Nat} {bytes rest : Bytes} {n : Number}
    (read : Codec.readNumeric expected bytes = .ok (n, rest)) :
    readValueWith spelled depth bytes = .ok (n.toValue, rest) := by
  have letters : ∀ b ∈ ascii "0123456789", b ≠ 0x6E ∧ b ≠ 0x74 ∧ b ≠ 0x66 ∧ b ≠ 0x22 := each (by decide)
  rw [Codec.readNumeric, atValue] at read
  rw [readValueWith.eq_def]
  split at read
  next => cases read
  next b more start =>
  split at read
  next minus =>
    subst minus
    simp [read, Except.map]
  next plus =>
  split at read
  next digit =>
    obtain ⟨null, yes, no, quote⟩ := letters b ((isDigit_iff b).mp digit)
    simp [null, yes, no, quote, plus, digit, read, Except.map]
  next => cases read

/-- The induction is on the value: what is in a list or an object nests less deep. -/
theorem value_reads {v : Value} (plain : Plain v) {depth : Nat} (fits : nesting v.write ≤ depth) :
    Reads (readValueWith spelled depth) v.write v := by
  induction plain generalizing depth with
  | null =>
    intro before rest blank stops
    have start : skipBlanks (before ++ (ascii "null" ++ rest)) = 0x6E :: (ascii "ull" ++ rest) :=
      skipBlanks_solid blank rfl _
    rw [readValueWith.eq_def, Value.write, start]
    rfl
  | boolean b =>
    intro before rest blank stops
    have yes : skipBlanks (before ++ (ascii "true" ++ rest)) = 0x74 :: (ascii "rue" ++ rest) :=
      skipBlanks_solid blank rfl _
    have no : skipBlanks (before ++ (ascii "false" ++ rest)) = 0x66 :: (ascii "alse" ++ rest) :=
      skipBlanks_solid blank rfl _
    rw [readValueWith.eq_def]
    cases b with
    | true =>
      rw [Value.write, yes]
      rfl
    | false =>
      rw [Value.write, no]
      rfl
  | integer low high =>
    intro before rest blank stops
    exact readValueWith_number spelled (readNumeric_writeInt "i64" blank stops low high)
  | text s =>
    intro before rest blank stops
    have start : skipBlanks (before ++ (writeString s ++ rest)) = 0x22 :: (_ ++ 0x22 :: rest) :=
      skipBlanks_bracketed rfl blank _ rest 0x22
    have read := readString_spells (spells_escaped s.toList) rest
    rw [readValueWith.eq_def, Value.write, start]
    simp [read, Except.map]
  | @array items all ih =>
    intro before rest blank stops
    rw [Value.write, writeItems_eq] at fits ⊢
    have written : ∀ item ∈ items.map Value.write, Written item :=
      List.forall_mem_map.mpr fun item member => written_value (all item member)
    obtain ⟨inner, rfl, inside⟩ := nesting_list written fits
    have opens : ∀ item ∈ items, Opens item.write := fun item member =>
      opens_value (written_value (all item member)).value
    have reads : ∀ item ∈ items, Reads (readValueWith spelled inner) item.write item := fun item member =>
      ih item member (inside _ (List.mem_map_of_mem member))
    rw [readValueWith, skipBlanks_list blank (items.map Value.write) rest]
    simp [isDigit, readItems_list Value.write opens reads rest, Except.map]
  | @object members sorted other all ih =>
    intro before rest blank stops
    rw [Value.write, writeMembers_eq] at fits ⊢
    have written : ∀ entry ∈ members, Written entry.2.write := fun entry member => written_value (all entry member)
    obtain ⟨inner, rfl, inside⟩ := nesting_object Value.write written fits
    have reads : ∀ entry ∈ members, Reads (readValueWith spelled inner) entry.2.write entry.2 :=
      fun entry member => ih entry member (inside entry member)
    rw [readValueWith, skipBlanks_object blank (memberTexts Value.write members) rest]
    simp [isDigit, embedded_none Value.write other, readMembers_object Value.write reads rest, Except.map,
      Value.ofMembers, sortMembers_sorted sorted]

end

theorem value_read_write {v : Value} (plain : Plain v) {depth : Nat} (fits : nesting v.write ≤ depth) :
    Reads (Codec.value.read depth) (Codec.value.write v) v := by
  intro before rest blank stops
  exact value_reads (fun text => readSpelled text text) plain fits before rest blank stops

/-- An object that stands for a value is read as the value. -/
theorem embedded_read_write {v : Value} (plain : Plain v) (fits : nesting v.write ≤ depthLimit) {s : String}
    (same : v.write = Utf8.ofString s) (depth : Nat) :
    Reads (Codec.value.read (depth + 1)) (Codec.value.write (.object [(embeddedName, .text s)])) v := by
  intro before rest blank stops
  have spelled : readSpelled v.write v.write = .ok v := by
    obtain ⟨b, more, text, -⟩ := value_solid (written_value plain).value
    have read := readText_reads (value_reads (readSpelled more) plain fits) blank_nil blank_nil
    rw [List.nil_append, List.append_nil] at read
    rwa [text, readSpelled, ← text]
  have members : Value.write (.object [(embeddedName, .text s)]) =
      writeObject [writeMember embeddedName (writeString s)] := rfl
  have named : embedded? (separated true [writeMember embeddedName (writeString s)] ++ 0x7D :: rest) =
      some (0x3A :: (writeString s ++ 0x7D :: rest)) := by
    simp only [embedded?, separated, List.append_assoc, List.nil_append, nextName_written, if_true]
  have text : skipBlanks (writeString s ++ 0x7D :: rest) = 0x22 :: (_ ++ 0x22 :: 0x7D :: rest) :=
    skipBlanks_bracketed rfl blank_nil _ (0x7D :: rest) 0x22
  have read := readString_spells (spells_escaped s.toList) (0x7D :: rest)
  have brace : readEnd 0x7D ([] ++ 0x7D :: rest) = .ok rest := readEnd_bracket rfl blank_nil rest
  rw [List.nil_append] at brace
  have found : (Except.ok v).mapError Error.inText = .ok v := rfl
  simp only [Codec.value, readValue, members]
  rw [readValueWith, skipBlanks_object blank]
  simp [isDigit, named, readEmbedded, readColon_written, atValue, text, read, ← same, spelled, found, brace, bind,
    Except.bind]
  rfl

end Courier.Proofs.JsonValues
