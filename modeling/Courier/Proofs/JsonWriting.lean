import Courier.Proofs.JsonIntegers
import Courier.Proofs.JsonNesting
import Courier.Proofs.JsonRecords
import Courier.Proofs.JsonRemainders

/-! What is written is JSON: one value, in UTF-8. A list or an object nests deeper than whatever is in it. -/

namespace Courier.Proofs.JsonWriting
open Json JsonGrammar JsonScanning JsonStrings JsonIntegers JsonRemainders JsonNesting

/-- A text that is one JSON value, without blanks around it. -/
structure Written (text : Bytes) : Prop where
  value : Derives .value text
  utf8 : ∃ s, text = Utf8.ofString s

/-! ### Encoded text -/

private theorem utf8_encode (text : List Char) : ∃ s, Utf8.encode text = Utf8.ofString s :=
  ⟨String.ofList text, by rw [Utf8.ofString, String.toList_ofList]⟩

private theorem utf8_append {first second : Bytes} (before : ∃ s, first = Utf8.ofString s)
    (after : ∃ s, second = Utf8.ofString s) : ∃ s, first ++ second = Utf8.ofString s := by
  obtain ⟨s, rfl⟩ := before
  obtain ⟨t, rfl⟩ := after
  rw [Utf8.ofString, Utf8.ofString, ← Utf8Decoding.encode_append]
  exact utf8_encode _

private theorem utf8_commaSeparated {items : List Bytes} (all : ∀ item ∈ items, ∃ s, item = Utf8.ofString s) :
    ∃ s, commaSeparated items = Utf8.ofString s := by
  fun_induction commaSeparated items with
  | case1 => exact ⟨"", rfl⟩
  | case2 last => exact all last (List.mem_singleton_self last)
  | case3 first rest _ ih =>
    obtain ⟨here, later⟩ := List.forall_mem_cons.mp all
    exact utf8_append here (utf8_append ⟨",", rfl⟩ (ih later))

/-! ### Strings and numbers -/

private theorem body_plain {bytes body : Bytes} (plain : ∀ b ∈ bytes, 0x20 ≤ b ∧ b ≠ 0x22 ∧ b ≠ 0x5C)
    (derived : Body body) : Body (bytes ++ body) := by
  induction bytes with
  | nil => exact derived
  | cons b bytes ih =>
    obtain ⟨⟨printable, quote, backslash⟩, later⟩ := List.forall_mem_cons.mp plain
    have outside : b ∉ ascii "\"\\" := by
      have spelled : ascii "\"\\" = [0x22, 0x5C] := by decide
      simp [spelled, quote, backslash]
    exact .plain printable outside (ih later)

private theorem body_of_spells {body : Bytes} {text : List Char} (spelled : Spells body text) : Body body := by
  have unit {digits body : Bytes} {n : Nat} (read : unit? digits = some n) (derived : Body body) :
      Body (ascii "\\u" ++ (digits ++ body)) := by
    match digits, read with
    | [a, b, c, d], read => exact .unit (mem_of_hex4 (by rw [show hex4? a b c d = some n from read]; rfl)) derived
  induction spelled with
  | nil => exact .nil
  | plain printable quote backslash _ ih => exact body_plain (encodeChar_plain printable quote backslash) ih
  | escape known _ ih =>
    have letters : ∀ entry ∈ escapes, entry.1 ∈ ascii "\"\\/bfnrt" := by decide
    exact .escape (letters _ known) ih
  | unit read _ _ ih => exact unit read ih
  | pair lead trail _ _ _ ih => exact unit lead (unit trail ih)

private theorem body_written (s : String) : Body (Utf8.encode (s.toList.flatMap escapeChar)) :=
  body_of_spells (spells_escaped s.toList)

private theorem utf8_string (s : String) : ∃ t, writeString s = Utf8.ofString t :=
  utf8_append ⟨"\"", rfl⟩ (utf8_append (utf8_encode _) ⟨"\"", rfl⟩)

theorem written_string (s : String) : Written (writeString s) where
  value := .string (body_written s)
  utf8 := utf8_string s

private theorem whole_writeNat (n : Nat) : Whole (writeNat n) := by
  obtain ⟨first, more, shape, leading⟩ := writeNat_cons n
  have digits : ∀ b ∈ first :: more, isDigit b = true := shape ▸ writeNat_isDigit n
  rw [shape]
  by_cases zero : first = 0x30
  · rw [zero, (leading zero).2]
    exact .zero
  · obtain ⟨here, later⟩ := List.forall_mem_cons.mp digits
    exact .positive (nonzero_digit here zero) fun b member => (isDigit_iff b).mp (later b member)

theorem written_int (i : Int) : Written (writeInt i) := by
  have digits (sign : Bytes) (n : Nat) (known : sign ∈ [[], ascii "-"]) : Derives .value (sign ++ writeNat n) := by
    have numeral : Numeral (sign ++ (writeNat n ++ ([] ++ []))) := .of known (whole_writeNat n) .none .none
    rw [List.append_nil, List.append_nil] at numeral
    exact .number numeral
  rw [writeInt]
  split
  · exact ⟨digits (ascii "-") _ (by decide), utf8_append ⟨"-", rfl⟩ (utf8_encode _)⟩
  · exact ⟨digits [] _ List.mem_cons_self, utf8_encode _⟩

theorem written_word {word : String} (known : word ∈ ["null", "true", "false"]) : Written (ascii word) := by
  refine ⟨.word ?_, word, rfl⟩
  simp only [List.mem_cons, List.not_mem_nil, or_false] at known ⊢
  rcases known with rfl | rfl | rfl <;> simp

/-! ### Lists and objects -/

private theorem derives_commaSeparated {bracket : Bracket} {items : List Bytes} (some : items ≠ [])
    (all : ∀ item ∈ items, Derives (single bracket) item) :
    Derives (contents bracket) (commaSeparated items) := by
  fun_induction commaSeparated items with
  | case1 => exact absurd rfl some
  | case2 last => exact contents_last (all last (List.mem_singleton_self last))
  | case3 first rest more ih =>
    obtain ⟨here, later⟩ := List.forall_mem_cons.mp all
    exact contents_more here (ih more later)

private theorem derives_bracketed (bracket : Bracket) {items : List Bytes}
    (all : ∀ item ∈ items, Derives (single bracket) item) :
    Derives .value (opening bracket :: (commaSeparated items ++ [closing bracket])) := by
  by_cases none : items = []
  · subst none
    exact value_empty bracket blank_nil
  · exact value_contents (derives_commaSeparated none all)

private theorem nests_commaSeparated {items : List Bytes} (all : ∀ item ∈ items, ∃ levels, Nests levels item) :
    ∃ levels, Nests levels (commaSeparated items) ∧ ∀ item ∈ items, nesting item ≤ levels := by
  fun_induction commaSeparated items with
  | case1 => exact ⟨0, nests_blank blank_nil, List.forall_mem_nil _⟩
  | case2 last =>
    obtain ⟨levels, nests⟩ := all last (List.mem_singleton_self last)
    refine ⟨levels, nests, fun item member => ?_⟩
    rw [List.mem_singleton.mp member]
    exact Nat.le_of_eq nests.nesting
  | case3 first rest _ ih =>
    obtain ⟨⟨one, here⟩, later⟩ := List.forall_mem_cons.mp all
    obtain ⟨other, more, below⟩ := ih later
    refine ⟨_, here.append (nests_comma.append more), fun item member => ?_⟩
    rcases List.mem_cons.mp member with rfl | among
    · rw [here.nesting]
      omega
    · have := below item among
      omega

private theorem nesting_bracketed (bracket : Bracket) {items : List Bytes}
    (all : ∀ item ∈ items, Derives (single bracket) item) {depth : Nat}
    (fits : nesting (opening bracket :: (commaSeparated items ++ [closing bracket])) ≤ depth) :
    ∃ inner, depth = inner + 1 ∧ ∀ item ∈ items, nesting item ≤ inner := by
  obtain ⟨levels, nests, below⟩ := nests_commaSeparated fun item member => derives_nests (all item member)
  have opens : opening bracket = 0x5B ∨ opening bracket = 0x7B := by cases bracket <;> decide
  have closes : closing bracket = 0x5D ∨ closing bracket = 0x7D := by cases bracket <;> decide
  rw [(nests_bracketed opens closes nests).nesting] at fits
  obtain ⟨inner, rfl⟩ := Nat.exists_eq_add_of_lt fits
  refine ⟨levels + inner, rfl, fun item member => ?_⟩
  exact Nat.le_trans (below item member) (Nat.le_add_right _ _)

private theorem Written.element {text : Bytes} (written : Written text) : Derives .element text := by
  have element := Derives.element blank_nil written.value blank_nil
  rwa [List.nil_append, List.append_nil] at element

private theorem member_derives (name : String) {value : Bytes} (written : Written value) :
    Derives .member (writeMember name value) :=
  .member blank_nil (body_written name) blank_nil written.element

private theorem nesting_member (name : String) {value : Bytes} (written : Written value) :
    nesting (writeMember name value) = nesting value := by
  obtain ⟨levels, nests⟩ := derives_nests written.value
  have named := (nests_quoted (body_written name)).append (nests_colon.append nests)
  have same : nesting (writeMember name value) = max 0 (max 0 levels) := Nests.nesting named
  rw [same, nests.nesting]
  omega

theorem written_list {items : List Bytes} (all : ∀ item ∈ items, Written item) : Written (writeList items) where
  value := derives_bracketed .list fun item member => (all item member).element
  utf8 := utf8_append ⟨"[", rfl⟩
    (utf8_append (utf8_commaSeparated fun item member => (all item member).utf8) ⟨"]", rfl⟩)

/-- Where a list fits, there is a bracket left for it, and its items fit inside. -/
theorem nesting_list {items : List Bytes} (all : ∀ item ∈ items, Written item) {depth : Nat}
    (fits : nesting (writeList items) ≤ depth) :
    ∃ inner, depth = inner + 1 ∧ ∀ item ∈ items, nesting item ≤ inner :=
  nesting_bracketed .list (fun item member => (all item member).element) fits

def memberTexts {α : Type} (write : α → Bytes) (entries : List (String × α)) : List Bytes :=
  entries.map fun entry => writeMember entry.1 (write entry.2)

section
variable {α : Type} (write : α → Bytes) {entries : List (String × α)}
variable (all : ∀ entry ∈ entries, Written (write entry.2))
include all

private theorem members_derive : ∀ item ∈ memberTexts write entries, Derives .member item :=
  List.forall_mem_map.mpr fun entry member => member_derives entry.1 (all entry member)

theorem written_object : Written (writeObject (memberTexts write entries)) where
  value := derives_bracketed .object (members_derive write all)
  utf8 := by
    refine utf8_append ⟨"\x7b", rfl⟩ (utf8_append (utf8_commaSeparated ?_) ⟨"\x7d", rfl⟩)
    refine List.forall_mem_map.mpr fun entry member => ?_
    exact utf8_append (utf8_string entry.1) (utf8_append ⟨":", rfl⟩ (all entry member).utf8)

theorem nesting_object {depth : Nat} (fits : nesting (writeObject (memberTexts write entries)) ≤ depth) :
    ∃ inner, depth = inner + 1 ∧ ∀ entry ∈ entries, nesting (write entry.2) ≤ inner := by
  obtain ⟨inner, bracket, inside⟩ := nesting_bracketed .object (members_derive write all) fits
  refine ⟨inner, bracket, fun entry member => ?_⟩
  rw [← nesting_member entry.1 (all entry member)]
  exact inside _ (List.mem_map_of_mem member)

end

end Courier.Proofs.JsonWriting
