import Courier.Json.Codec
import Courier.Proofs.JsonStrings

/-! Records as objects. An object's text lists its members with their names spelled in any way and with
blanks anywhere; what a reader makes of it is settled one member at a time. A record that is written is
such a text, and if every member is read back, so is the record. -/

namespace Courier.Proofs.JsonRecords
open Json JsonGrammar JsonScanning JsonStrings

inductive Entry : String × Bytes → Bytes → Prop where
  | of {name : String} {value before body after between behind : Bytes} : Blank before →
      Spells body name.toList → Blank after → Blank between → Blank behind →
      Entry (name, value)
        (before ++ (quoted body ++ (after ++ (ascii ":" ++ (between ++ (value ++ behind))))))

/-- The text between the braces of an object, given its names and the texts of their values. -/
inductive Entries : List (String × Bytes) → Bytes → Prop where
  | last {entry : String × Bytes} {text : Bytes} : Entry entry text → Entries [entry] text
  | more {entry : String × Bytes} {entries : List (String × Bytes)} {text rest : Bytes} :
      Entry entry text → Entries entries rest → Entries (entry :: entries) (text ++ (ascii "," ++ rest))

section
variable {types : List Type} (members : Members types) (depth : Nat)

/-- A member of an object takes the slots of a record from one state to another. -/
def Takes (entry : String × Bytes) (slots filled : Slots types) : Prop :=
  ∀ after between rest, Blank after → Blank between → Stops rest →
    members.readNamed depth entry.1 (after ++ (ascii ":" ++ (between ++ (entry.2 ++ rest)))) slots =
      .ok (filled, rest)

/-- Members of an object take the slots of a record from one state to another, one after the other. -/
inductive Fills : List (String × Bytes) → Slots types → Slots types → Prop where
  | nil {slots : Slots types} : Fills [] slots slots
  | cons {entry : String × Bytes} {entries : List (String × Bytes)} {slots middle filled : Slots types} :
      Takes members depth entry slots middle → Fills entries middle filled →
      Fills (entry :: entries) slots filled

end

theorem readColon_colon {after : Bytes} (blank : Blank after) (rest : Bytes) :
    readColon (after ++ (ascii ":" ++ rest)) = .ok rest := by
  rw [readColon, skipBlanks_append blank]
  rfl

theorem readEnd_bracket {bracket : UInt8} (solid : isBlank bracket = false) {blanks : Bytes}
    (blank : Blank blanks) (rest : Bytes) : readEnd bracket (blanks ++ bracket :: rest) = .ok rest := by
  rw [readEnd, skipBlanks_append blank, skipBlanks_cons solid]
  simp

/-- What stands before a member: nothing before the first one. -/
def comma (first : Bool) : Bytes := if first then [] else ascii ","

theorem nextName_string (first : Bool) {behind before : Bytes} (behind_blank : Blank behind)
    (before_blank : Blank before) (body rest : Bytes) :
    nextName first (behind ++ (comma first ++ (before ++ (quoted body ++ rest)))) =
      (readString (body ++ 0x22 :: rest)).map some := by
  have start : skipBlanks (before ++ (quoted body ++ rest)) = 0x22 :: (body ++ 0x22 :: rest) := by
    rw [skipBlanks_append before_blank, quoted_append]
    rfl
  rw [nextName, skipBlanks_append behind_blank]
  cases first with
  | true =>
    simp only [comma, if_true, List.nil_append, start]
    rfl
  | false =>
    have comma : skipBlanks (comma false ++ (before ++ (quoted body ++ rest))) =
        0x2C :: (before ++ (quoted body ++ rest)) := rfl
    simp only [comma, start]
    rfl

theorem nextName_quoted (first : Bool) {behind before body : Bytes} {name : String} (behind_blank : Blank behind)
    (before_blank : Blank before) (spelled : Spells body name.toList) (rest : Bytes) :
    nextName first (behind ++ (comma first ++ (before ++ (quoted body ++ rest)))) =
      .ok (some (name, rest)) := by
  rw [nextName_string first behind_blank before_blank, readString_spells spelled, String.ofList_toList]
  rfl

theorem nextName_end (first : Bool) {blanks : Bytes} (blank : Blank blanks) (rest : Bytes) :
    nextName first (blanks ++ 0x7D :: rest) = .ok none := by
  rw [nextName, skipBlanks_append blank]
  rfl

section
variable {types : List Type} (members : Members types) (depth : Nat)

private theorem readNames_entry (first : Bool) {entry : String × Bytes} {text behind : Bytes}
    {slots filled : Slots types} (listed : Entry entry text) (takes : Takes members depth entry slots filled)
    (blank : Blank behind) (rest : Bytes) (stops : Stops rest) (used : UInt8) (fuel : Bytes) :
    ∃ after, Blank after ∧
      members.readNames depth (used :: fuel) first (behind ++ (comma first ++ (text ++ rest))) slots =
        members.readNames depth fuel false (after ++ rest) filled := by
  cases listed with
  | @of name value before body after between last before_blank spelled after_blank between_blank last_blank =>
    refine ⟨last, last_blank, ?_⟩
    have taken := takes after between (last ++ rest) after_blank between_blank (stops.blank last_blank)
    simp only [List.append_assoc, Members.readNames, nextName_quoted first blank before_blank spelled, bind,
      Except.bind]
    rw [taken]

/-- The members of an object are read one by one, up to the closing brace. -/
theorem readNames_fills (first : Bool) {entries : List (String × Bytes)} {text behind fuel : Bytes}
    {slots filled : Slots types} (listed : Entries entries text)
    (fills : Fills members depth entries slots filled) (blank : Blank behind)
    (enough : entries.length < fuel.length) (rest : Bytes) :
    ∃ after, Blank after ∧
      members.readNames depth fuel first (behind ++ (comma first ++ (text ++ 0x7D :: rest))) slots =
        .ok (filled, after ++ 0x7D :: rest) := by
  have closing (after : Bytes) (used : UInt8) (fuel : Bytes) (blank : Blank after) :
      members.readNames depth (used :: fuel) false (after ++ 0x7D :: rest) filled =
        .ok (filled, after ++ 0x7D :: rest) := by
    simp only [Members.readNames, nextName_end false blank, bind, Except.bind]
    rfl
  induction listed generalizing first slots behind fuel with
  | last entry =>
    cases fills with
    | cons takes none =>
      cases none
      match fuel, enough with
      | used :: other :: fuel, _ =>
        obtain ⟨after, after_blank, same⟩ := readNames_entry members depth first entry takes blank
          (0x7D :: rest) (stops_cons (by decide) rest) used (other :: fuel)
        exact ⟨after, after_blank, same.trans (closing after other fuel after_blank)⟩
  | @more _ entries text others entry _ ih =>
    cases fills with
    | cons takes fills =>
      match fuel, enough with
      | used :: fuel, enough =>
        obtain ⟨after, after_blank, same⟩ := readNames_entry members depth first entry takes blank
          (ascii "," ++ (others ++ 0x7D :: rest)) (stops_cons (by decide) _) used fuel
        simp only [List.append_assoc]
        rw [same]
        exact ih false fills after_blank (by simpa using enough)

private theorem length_le_of_entries {entries : List (String × Bytes)} {text : Bytes} (listed : Entries entries text) :
    entries.length ≤ text.length := by
  have some {entry : String × Bytes} {text : Bytes} (listed : Entry entry text) : 0 < text.length := by
    cases listed
    have colon : (ascii ":").length = 1 := rfl
    simp only [List.length_append, colon]
    omega
  induction listed with
  | last entry => exact some entry
  | more entry _ ih =>
    have := some entry
    simp only [List.length_cons, List.length_append]
    omega

/-- A record is read from an object whose members fill its slots. -/
theorem record_reads (record : String) {entries : List (String × Bytes)} {text : Bytes}
    {filled : Slots types} {tuple : Tuple types} (listed : Entries entries text)
    (fills : Fills members depth entries members.empty filled)
    (complete : members.complete filled = .ok tuple) :
    Reads ((Codec.record record members).read (depth + 1)) (ascii "\x7b" ++ (text ++ ascii "\x7d")) tuple := by
  intro before rest blank stops
  have start : skipBlanks (before ++ (ascii "\x7b" ++ (text ++ ascii "\x7d") ++ rest)) =
      0x7B :: (text ++ 0x7D :: rest) := skipBlanks_bracketed rfl blank text rest 0x7D
  have enough : entries.length < (0x7B :: (text ++ 0x7D :: rest)).length := by
    have := length_le_of_entries listed
    simp only [List.length_cons, List.length_append]
    omega
  obtain ⟨after, after_blank, named⟩ :=
    readNames_fills members depth true listed fills blank_nil enough rest
  have braces : readEnd 0x7D (after ++ 0x7D :: rest) = .ok rest := readEnd_bracket rfl after_blank rest
  simp only [List.nil_append, comma, if_true] at named
  simp only [Codec.record, atValue, start]
  simp [named, complete, braces, bind, Except.bind]
  rfl

end

/-! The object that is written for a record. -/

def names : {types : List Type} → Members types → List String
  | _, .nil => []
  | _, .cons name _ _ _ more => name :: names more

def omitted {α : Type} (absent : Option α) (omits : α → Bool) (a : α) : Bool := absent.isSome && omits a

def entries : {types : List Type} → Members types → Tuple types → List (String × Bytes)
  | _, .nil, () => []
  | _, .cons name codec absent omits more, (a, tuple) =>
    if omitted absent omits a then entries more tuple
    else (name, codec.write a) :: entries more tuple

def filled : {types : List Type} → Members types → Tuple types → Slots types
  | _, .nil, () => ()
  | _, .cons _ _ absent omits more, (a, tuple) =>
    (if omitted absent omits a then none else some a, filled more tuple)

/-- Every member of a record is read back, or is left out and equals its default. -/
def Faithful (depth : Nat) : {types : List Type} → Members types → Tuple types → Prop
  | _, .nil, () => True
  | _, .cons _ codec absent omits more, (a, tuple) =>
    (if omitted absent omits a then absent = some a else Reads (codec.read depth) (codec.write a) a) ∧
      Faithful depth more tuple

theorem writeAll_eq {types : List Type} (members : Members types) (tuple : Tuple types) :
    members.writeAll tuple = (entries members tuple).map fun entry => writeMember entry.1 entry.2 := by
  induction members with
  | nil => rfl
  | cons name codec absent omits more ih =>
    obtain ⟨a, tuple⟩ := tuple
    rw [Members.writeAll, entries, omitted]
    split
    · exact ih tuple
    · rw [ih tuple]
      rfl

private theorem mem_names_of_mem_entries {types : List Type} {members : Members types} {tuple : Tuple types}
    {entry : String × Bytes} (member : entry ∈ entries members tuple) : entry.1 ∈ names members := by
  induction members with
  | nil => cases member
  | cons name codec absent omits more ih =>
    obtain ⟨a, tuple⟩ := tuple
    rw [entries] at member
    split at member
    · exact List.mem_cons_of_mem _ (ih member)
    · rcases List.mem_cons.mp member with rfl | later
      · exact List.mem_cons_self
      · exact List.mem_cons_of_mem _ (ih later)

section
variable {types : List Type} {depth : Nat}

theorem Fills.skip {α : Type} {name : String} {codec : Codec α} {absent : Option α} {omits : α → Bool}
    {more : Members types} {listed : List (String × Bytes)} {slots filled : Slots types} (slot : Option α)
    (others : ∀ entry ∈ listed, entry.1 ≠ name) (fills : Fills more depth listed slots filled) :
    Fills (.cons name codec absent omits more) depth listed (slot, slots) (slot, filled) := by
  induction fills with
  | nil => exact .nil
  | @cons entry _ _ _ _ takes _ ih =>
    refine .cons ?_ (ih fun other member => others other (List.mem_cons_of_mem _ member))
    intro after between rest after_blank between_blank stops
    have other : ¬ name = entry.1 := fun same => others entry List.mem_cons_self same.symm
    rw [Members.readNamed, if_neg other, takes after between rest after_blank between_blank stops]
    rfl

private theorem fills_entries {members : Members types} {tuple : Tuple types} (distinct : (names members).Nodup)
    (faithful : Faithful depth members tuple) :
    Fills members depth (entries members tuple) members.empty (filled members tuple) := by
  induction members with
  | nil => exact .nil
  | cons name codec absent omits more ih =>
    obtain ⟨a, tuple⟩ := tuple
    obtain ⟨faithful, others⟩ := faithful
    obtain ⟨new, distinct⟩ := List.nodup_cons.mp distinct
    have elsewhere : ∀ entry ∈ entries more tuple, entry.1 ≠ name := by
      rintro entry member rfl
      exact new (mem_names_of_mem_entries member)
    rw [entries, filled, Members.empty]
    split
    next => exact (ih distinct others).skip none elsewhere
    next written =>
      rw [if_neg written] at faithful
      refine .cons ?_ ((ih distinct others).skip (some a) elsewhere)
      intro after between rest after_blank between_blank stops
      rw [Members.readNamed, if_pos rfl]
      simp [readColon_colon after_blank, faithful between rest between_blank stops, bind, Except.bind]
      rfl

private theorem complete_filled {members : Members types} {tuple : Tuple types}
    (faithful : Faithful depth members tuple) : members.complete (filled members tuple) = .ok tuple := by
  induction members with
  | nil => rfl
  | cons name codec absent omits more ih =>
    obtain ⟨a, tuple⟩ := tuple
    obtain ⟨faithful, others⟩ := faithful
    rw [filled]
    split
    next left =>
      rw [if_pos left] at faithful
      rw [faithful, Members.complete, ih others]
      rfl
    next =>
      rw [Members.complete, ih others]
      rfl

theorem entries_commaSeparated {listed : List (String × Bytes)} (some : listed ≠ []) :
    Entries listed (commaSeparated (listed.map fun entry => writeMember entry.1 entry.2)) := by
  have single (entry : String × Bytes) : Entry entry (writeMember entry.1 entry.2) := by
    have spelled := spells_escaped entry.1.toList
    have compact : Entry entry (_ ++ (quoted _ ++ (_ ++ (ascii ":" ++ (_ ++ (entry.2 ++ []))))))  :=
      .of blank_nil spelled blank_nil blank_nil blank_nil
    rw [List.append_nil] at compact
    exact compact
  induction listed with
  | nil => exact absurd rfl some
  | cons entry others ih =>
    cases others with
    | nil => exact .last (single entry)
    | cons other others => exact .more (single entry) (ih (List.cons_ne_nil _ _))

private theorem length_le_commaSeparated {item : Bytes} {items : List Bytes} (member : item ∈ items) :
    item.length ≤ (commaSeparated items).length := by
  fun_induction commaSeparated items with
  | case1 => cases member
  | case2 last =>
    obtain rfl := List.mem_singleton.mp member
    exact Nat.le_refl _
  | case3 first rest _ ih =>
    rw [List.length_append, List.length_cons]
    rcases List.mem_cons.mp member with rfl | later
    · omega
    · have := ih later
      omega

theorem length_le_record (record : String) {members : Members types} {tuple : Tuple types} {name : String}
    {value : Bytes} (member : (name, value) ∈ entries members tuple) :
    value.length ≤ ((Codec.record record members).write tuple).length := by
  have listed : writeMember name value ∈ members.writeAll tuple := by
    rw [writeAll_eq]
    exact List.mem_map.mpr ⟨(name, value), member, rfl⟩
  have whole := length_le_commaSeparated listed
  calc value.length
    _ ≤ (writeMember name value).length := by
      simp only [writeMember, List.length_append, List.length_cons]
      omega
    _ ≤ (commaSeparated (members.writeAll tuple)).length := whole
    _ ≤ (writeObject (members.writeAll tuple)).length := by
      simp only [writeObject, List.length_append, List.length_cons]
      omega

/-- A record is read back if its members are. -/
theorem record_read_write (record : String) {members : Members types} {tuple : Tuple types}
    (distinct : (names members).Nodup) (faithful : Faithful depth members tuple)
    (some : entries members tuple ≠ []) :
    Reads ((Codec.record record members).read (depth + 1)) ((Codec.record record members).write tuple)
      tuple := by
  have listed := entries_commaSeparated some
  rw [← writeAll_eq] at listed
  exact record_reads members depth record listed (fills_entries distinct faithful) (complete_filled faithful)

end

/-- Values that are told apart by a coded one are read back if that is. -/
theorem convert_read_write {α β : Type} {codec : Codec α} {forth : α → β} {back : β → α} {b : β}
    {depth : Nat} (same : forth (back b) = b) (reads : Reads (codec.read depth) (codec.write (back b)) (back b)) :
    Reads ((codec.convert forth back).read depth) ((codec.convert forth back).write b) b := by
  intro before rest blank stops
  simp only [Codec.convert, reads before rest blank stops, Except.map, same]

end Courier.Proofs.JsonRecords
