import Courier.Proofs.TextTrimming
import Courier.Trace
import Mathlib.Data.List.TakeWhile

/-! A header is read exactly if it has four fields of hexadecimal digits, and it names what its two middle fields
say. So a header that is written for two identifiers is read exactly if they have the shape of such fields. -/

namespace Courier.Proofs.TraceHeaders
open Trace TextTrimming Text

/-! ### Identifiers -/

structure LowerHex (length : Nat) (text : List Char) : Prop where
  length_eq : text.length = length
  digits : ∀ c ∈ text, c ∈ "0123456789abcdef".toList

/-- Zeros alone identify nothing. -/
structure Identifies (length : Nat) (id : String) : Prop where
  hex : LowerHex length id.toList
  telling : ∃ c ∈ id.toList, c ≠ '0'

private theorem isHexDigit_iff {c : Char} : isHexDigit c = true ↔ c ∈ "0123456789abcdef".toList := by
  have listed : ∀ n < 103, 48 ≤ n ∧ n ≤ 57 ∨ 97 ≤ n → Char.ofNat n ∈ "0123456789abcdef".toList := by decide
  have digits : "0123456789abcdef".toList.all isHexDigit = true := by decide
  refine ⟨fun digit => ?_, List.all_eq_true.mp digits c⟩
  simp only [isHexDigit, Bool.or_eq_true, Bool.and_eq_true, decide_eq_true_eq] at digit
  have bounds : 48 ≤ c.toNat ∧ c.toNat ≤ 57 ∨ 97 ≤ c.toNat ∧ c.toNat ≤ 102 := digit
  rw [← Char.ofNat_toNat c]
  exact listed c.toNat (by omega) (by omega)

private theorem isHex_iff {length : Nat} {text : List Char} : isHex length text = true ↔ LowerHex length text := by
  simp only [isHex, Bool.and_eq_true, decide_eq_true_eq, List.all_eq_true, isHexDigit_iff]
  exact ⟨fun found => ⟨found.1, found.2⟩, fun hex => ⟨hex.length_eq, hex.digits⟩⟩

private theorem identifies_iff {length : Nat} {id : String} :
    isHex length id.toList = true ∧ id.toList.all (· = '0') = false ↔ Identifies length id := by
  rw [isHex_iff, List.all_eq_false]
  simp only [decide_eq_true_eq]
  exact ⟨fun found => ⟨found.1, found.2⟩, fun identifies => ⟨identifies.hex, identifies.telling⟩⟩

instance (length : Nat) (text : List Char) : Decidable (LowerHex length text) := decidable_of_iff _ isHex_iff

instance (length : Nat) (id : String) : Decidable (Identifies length id) := decidable_of_iff _ identifies_iff

section
variable {length : Nat} {text : List Char}

/-- What can be decided of the sixteen digits holds of the whole text. -/
theorem LowerHex.each {p : Char → Prop} [DecidablePred p] (hex : LowerHex length text)
    (digits : ("0123456789abcdef".toList.all fun c => decide (p c)) = true) : ∀ c ∈ text, p c := by
  intro c member
  exact of_decide_eq_true (List.all_eq_true.mp digits c (hex.digits c member))

private theorem LowerHex.solid (hex : LowerHex length text) : ∀ c ∈ text, isBlank c = false ∧ c ≠ '-' :=
  hex.each (by decide)

private theorem LowerHex.no_dash (hex : LowerHex length text) : '-' ∉ text :=
  fun member => (hex.solid _ member).2 rfl

end

/-! ### Fields -/

private theorem splitOn_eq (c : Char) (text : List Char) : splitOn c text = text.splitOn c := by
  induction text with
  | nil => rfl
  | cons d rest ih =>
    rw [splitOn, ih, List.splitOn, List.splitOn, List.splitOnP_cons_eq_if_modifyHead]
    simp only [beq_iff_eq]
    split
    next => rfl
    next =>
      obtain ⟨piece, pieces, shape⟩ := List.exists_cons_of_ne_nil (List.splitOnP_ne_nil (· == c) rest)
      rw [shape]
      rfl

def fields (version traceId parentId flags : List Char) : List Char :=
  version ++ '-' :: (traceId ++ '-' :: (parentId ++ '-' :: flags))

private theorem splitOn_fields {version traceId parentId flags : List Char} (first : '-' ∉ version)
    (second : '-' ∉ traceId) (third : '-' ∉ parentId) (fourth : '-' ∉ flags) :
    splitOn '-' (fields version traceId parentId flags) = [version, traceId, parentId, flags] := by
  rw [splitOn_eq, fields, List.splitOn_append_cons_self_of_not_mem first,
    List.splitOn_append_cons_self_of_not_mem second, List.splitOn_append_cons_self_of_not_mem third,
    List.splitOn_eq_singleton fourth]

private theorem eq_fields {text version traceId parentId flags : List Char}
    (split : splitOn '-' text = [version, traceId, parentId, flags]) :
    text = fields version traceId parentId flags := by
  rw [splitOn_eq] at split
  have joined : ['-'].intercalate (text.splitOn '-') = text := List.intercalate_splitOn '-'
  rw [← joined, split]
  simp [fields, List.intercalate]

private theorem count_fields (version traceId parentId flags : List Char) :
    (fields version traceId parentId flags).count '-' =
      version.count '-' + traceId.count '-' + parentId.count '-' + flags.count '-' + 3 := by
  simp only [fields, List.count_append, List.count_cons_self]
  omega

private theorem solid_fields {version traceId parentId flags : List Char} {a b c d : Nat} (first : LowerHex a version)
    (second : LowerHex b traceId) (third : LowerHex c parentId) (fourth : LowerHex d flags) :
    ∀ c ∈ fields version traceId parentId flags, isBlank c = false := by
  intro c member
  simp only [fields, List.mem_append, List.mem_cons] at member
  rcases member with own | rfl | own | rfl | own | rfl | own
  · exact (first.solid c own).1
  · rfl
  · exact (second.solid c own).1
  · rfl
  · exact (third.solid c own).1
  · rfl
  · exact (fourth.solid c own).1

private theorem toList_fields (version traceId parentId flags : String) :
    (s!"{version}-{traceId}-{parentId}-{flags}").toList =
      fields version.toList traceId.toList parentId.toList flags.toList := by
  simp [fields, toString]

theorem toList_formatParent (traceId parentId : String) :
    (formatParent traceId parentId).toList = fields ['0', '0'] traceId.toList parentId.toList ['0', '1'] := by
  simp [formatParent, fields, toString]

/-! ### Headers -/

/-- A header with blanks around it that names a trace and the span in it that calls. -/
def Names (header traceId parentId : String) : Prop :=
  ∃ version flags : String, LowerHex 2 version.toList ∧ LowerHex 2 flags.toList ∧
    Identifies 32 traceId ∧ Identifies 16 parentId ∧
    Padded (s!"{version}-{traceId}-{parentId}-{flags}").toList header.toList

private theorem parseParent?_iff {header traceId parentId : String} :
    parseParent? header = some (traceId, parentId) ↔ Names header traceId parentId := by
  constructor
  · intro read
    unfold parseParent? at read
    split at read
    next version trace parent flags split =>
      split at read
      next guard =>
        simp only [Bool.and_eq_true, Bool.not_eq_true'] at guard
        obtain ⟨⟨⟨⟨⟨versions, ends⟩, traces⟩, parents⟩, telling⟩, tellings⟩ := guard
        cases read
        refine ⟨String.ofList version, String.ofList flags, ?_, ?_, identifies_iff.mp ?_, identifies_iff.mp ?_, ?_⟩
        · rw [String.toList_ofList]
          exact isHex_iff.mp versions
        · rw [String.toList_ofList]
          exact isHex_iff.mp ends
        · rw [String.toList_ofList]
          exact ⟨traces, telling⟩
        · rw [String.toList_ofList]
          exact ⟨parents, tellings⟩
        · simp only [toList_fields, String.toList_ofList]
          rw [← eq_fields split]
          exact padded_trimChars _
      next => cases read
    next => cases read
  · rintro ⟨version, flags, versions, ends, trace, parent, padded⟩
    rw [toList_fields] at padded
    have traces := identifies_iff.mpr trace
    have parents := identifies_iff.mpr parent
    rw [parseParent?, trimChars_padded (solid_fields versions trace.hex parent.hex ends) padded,
      splitOn_fields versions.no_dash trace.hex.no_dash parent.hex.no_dash ends.no_dash]
    simp [isHex_iff.mpr versions, isHex_iff.mpr ends, traces, parents]

private theorem trimChars_fields (traceId parentId : List Char) :
    trimChars (fields ['0', '0'] traceId parentId ['0', '1']) = fields ['0', '0'] traceId parentId ['0', '1'] := by
  have shape : fields ['0', '0'] traceId parentId ['0', '1'] =
      '0' :: ('0' :: '-' :: (traceId ++ '-' :: (parentId ++ ['-', '0'])) ++ ['1']) := by
    simp [fields]
  have around := trimChars_around (show isBlank '0' = false from rfl) []
    ('0' :: '-' :: (traceId ++ '-' :: (parentId ++ ['-', '0'])) ++ ['1'])
  rw [List.nil_append, rdropWhile_around (show isBlank '1' = false from rfl)] at around
  rw [shape]
  exact around

private theorem identifies_of_read {traceId parentId trace parent : String}
    (read : parseParent? (formatParent traceId parentId) = some (trace, parent)) :
    Identifies 32 traceId ∧ Identifies 16 parentId := by
  obtain ⟨version, flags, versions, ends, traces, parents, padded⟩ := parseParent?_iff.mp read
  rw [toList_fields, toList_formatParent] at padded
  have same := trimChars_padded (solid_fields versions traces.hex parents.hex ends) padded
  rw [trimChars_fields] at same
  have dashes := congrArg (List.count '-') same
  simp only [count_fields, List.count_eq_zero.mpr versions.no_dash, List.count_eq_zero.mpr ends.no_dash,
    List.count_eq_zero.mpr traces.hex.no_dash, List.count_eq_zero.mpr parents.hex.no_dash] at dashes
  have first : '-' ∉ traceId.toList := List.count_eq_zero.mp (by omega)
  have second : '-' ∉ parentId.toList := List.count_eq_zero.mp (by omega)
  have pieces := congrArg (splitOn '-') same
  rw [splitOn_fields (by decide) first second (by decide),
    splitOn_fields versions.no_dash traces.hex.no_dash parents.hex.no_dash ends.no_dash] at pieces
  simp only [List.cons.injEq] at pieces
  obtain ⟨-, traceSame, parentSame, -⟩ := pieces
  rw [String.toList_inj.mp traceSame, String.toList_inj.mp parentSame]
  exact ⟨traces, parents⟩

theorem parseParent?_formatParent {traceId parentId : String} (trace : Identifies 32 traceId)
    (parent : Identifies 16 parentId) :
    parseParent? (formatParent traceId parentId) = some (traceId, parentId) := by
  refine parseParent?_iff.mpr ⟨"00", "01", by decide, by decide, trace, parent, ?_⟩
  rw [toList_fields, toList_formatParent]
  exact padded_self _

/-- A span continues the trace of a good header, and otherwise starts one. -/
theorem ofHeader_cases (fresh : Fresh) (header : Option String) (operation : String) :
    (∃ traceId parentId, Identifies 32 traceId ∧
      Span.ofHeader fresh header operation = Span.started fresh traceId (some parentId) operation) ∨
    Span.ofHeader fresh header operation = Span.root fresh operation := by
  rw [Span.ofHeader]
  cases read : header.bind parseParent? with
  | none => exact .inr rfl
  | some found =>
    obtain ⟨traceId, parentId⟩ := found
    obtain ⟨text, -, read⟩ := Option.bind_eq_some_iff.mp read
    obtain ⟨-, -, -, -, trace, -⟩ := parseParent?_iff.mp read
    exact .inl ⟨traceId, parentId, trace, rfl⟩

/-- A header is read exactly if blanks aside it has four fields of hexadecimal digits, of which the middle two are
not all zeros; so one that is written for two texts is read back exactly if they can be such fields. -/
theorem reads_written_headers :
    (∀ header traceId parentId,
      parseParent? header = some (traceId, parentId) ↔ Names header traceId parentId) ∧
    ∀ traceId parentId,
      (Identifies 32 traceId ∧ Identifies 16 parentId →
        parseParent? (formatParent traceId parentId) = some (traceId, parentId)) ∧
      (¬(Identifies 32 traceId ∧ Identifies 16 parentId) →
        parseParent? (formatParent traceId parentId) = none) := by
  refine ⟨fun header traceId parentId => parseParent?_iff, fun traceId parentId => ⟨?_, ?_⟩⟩
  · rintro ⟨trace, parent⟩
    exact parseParent?_formatParent trace parent
  · intro other
    cases read : parseParent? (formatParent traceId parentId) with
    | none => rfl
    | some found => exact absurd (identifies_of_read read) other

/-- Identifiers that dashes and blanks spoil, and good ones between blanks. -/
theorem reads_written_headers_blanks :
    parseParent? (formatParent " 4bf92f3577b34da6a3ce929d0e0e473" "00f067aa-a902b7") = none ∧
    parseParent? "\t cc-4bf92f3577b34da6a3ce929d0e0e4736-00f067aa0ba902b7-0f \n" =
      some ("4bf92f3577b34da6a3ce929d0e0e4736", "00f067aa0ba902b7") := by
  obtain ⟨reads, writes⟩ := reads_written_headers
  refine ⟨(writes _ _).2 ?_, (reads _ _ _).mpr ⟨"cc", "0f", by decide, by decide, by decide, by decide, ?_⟩⟩
  · rintro ⟨trace, -⟩
    exact absurd (trace.hex.digits ' ') (by decide)
  · exact ⟨['\t', ' '], [' ', '\n'], List.all_eq_true.mp rfl, List.all_eq_true.mp rfl, by decide +kernel⟩

end Courier.Proofs.TraceHeaders
