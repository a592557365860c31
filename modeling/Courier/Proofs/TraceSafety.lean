import Courier.Proofs.TraceHeaders
import Courier.Proofs.Utf8Decoding
import Mathlib.Data.List.DropRight
import Mathlib.Data.String.Basic

/-! The headers of a span can always be written, and they are safe to send. Every way to make a span leaves it with
identifiers of printable ASCII alone, so that they can be cut at any byte, and a header has always the same length. -/

namespace Courier.Proofs.TraceSafety
open Trace TraceHeaders Utf8Decoding

/-! ### Printable texts -/

def Printable (text : String) : Prop := ∀ c ∈ text.toList, 32 ≤ c.toNat ∧ c.toNat ≤ 126

instance (text : String) : Decidable (Printable text) := List.decidableBAll _ text.toList

section
variable {text other id : String}

private theorem Printable.append (printable : Printable text) (others : Printable other) : Printable (text ++ other) := by
  intro c member
  rw [String.toList_append] at member
  rcases List.mem_append.mp member with early | late
  · exact printable c early
  · exact others c late

theorem printable_hex {length : Nat} (hex : LowerHex length text.toList) : Printable text :=
  hex.each (by decide)

private theorem Printable.bytes_eq (printable : Printable text) :
    Utf8.ofString text = text.toList.map fun c => UInt8.ofNat c.toNat := by
  have chars : ∀ c ∈ text.toList, Utf8.encodeChar c = [UInt8.ofNat c.toNat] := by
    intro c member
    have bounds := printable c member
    exact encodeChar_ascii (by omega)
  rw [Utf8.ofString, Utf8.encode, List.flatMap_congr chars, List.map_eq_flatMap]

private theorem Printable.length_bytes (printable : Printable text) : (Utf8.ofString text).length = text.toList.length := by
  rw [printable.bytes_eq, List.length_map]

private theorem Printable.bytes (printable : Printable text) :
    ∀ b ∈ Utf8.ofString text, 0x20 ≤ b ∧ b ≤ 0x7E := by
  intro b member
  rw [printable.bytes_eq] at member
  obtain ⟨c, inside, rfl⟩ := List.mem_map.mp member
  have bounds := printable c inside
  simp only [UInt8.le_iff_toNat_le, UInt8.toNat_ofNat_of_lt' (show c.toNat < UInt8.size by simp [UInt8.size]; omega)]
  exact bounds

theorem Printable.utf8ByteSize_eq (printable : Printable text) : text.utf8ByteSize = text.toList.length := by
  rw [← String.ofList_toList (s := text), String.utf8ByteSize_ofList, String.toList_ofList]
  unfold Printable at printable
  generalize text.toList = chars at printable ⊢
  induction chars with
  | nil => rfl
  | cons c rest ih =>
    obtain ⟨own, others⟩ := List.forall_mem_cons.mp printable
    have one : c.utf8Size = 1 := Char.utf8Size_eq_one_iff.mpr (UInt32.le_iff_toNat_le.mpr (by
      show c.toNat ≤ 127
      omega))
    rw [String.utf8Len_cons, ih others, one, List.length_cons]

/-! ### Cutting identifiers -/

/-- A printable text can be cut at any byte. -/
theorem sliceFrom?_printable (printable : Printable id) {start : Nat} (inside : start ≤ id.toList.length) :
    Utf8.sliceFrom? id start = some (String.ofList (id.toList.drop start)) := by
  refine sliceFrom?_iff.mpr ⟨String.ofList (id.toList.take start), ?_, ?_⟩
  · rw [← String.ofList_append, List.take_append_drop, String.ofList_toList]
  · have front : Printable (String.ofList (id.toList.take start)) := by
      intro c member
      rw [String.toList_ofList] at member
      exact printable c (List.mem_of_mem_take member)
    rw [front.length_bytes, String.toList_ofList, List.length_take, Nat.min_eq_left inside]

theorem lastDigits?_printable (printable : Printable id) (length : Nat) :
    lastDigits? length id =
      some (String.ofList (List.replicate (length - id.toList.length) '0' ++ id.toList.rtake length)) := by
  simp only [lastDigits?, printable.length_bytes]
  split
  next enough =>
    rw [sliceFrom?_printable printable (Nat.sub_le _ _), Nat.sub_eq_zero_of_le enough]
    rfl
  next short =>
    rw [List.rtake, Nat.sub_eq_zero_of_le (Nat.le_of_not_le short), List.drop_zero, String.ofList_append,
      String.ofList_toList]

private theorem lastDigits?_fits (printable : Printable id) (length : Nat) :
    ∃ digits, lastDigits? length id = some digits ∧ digits.toList.length = length ∧ Printable digits := by
  refine ⟨_, lastDigits?_printable printable length, ?_, ?_⟩
  · rw [String.toList_ofList, List.length_append, List.length_replicate, List.rtake, List.length_drop]
    omega
  · intro c member
    rw [String.toList_ofList] at member
    rcases List.mem_append.mp member with zero | own
    · rw [List.eq_of_mem_replicate zero]
      decide
    · exact printable c (List.mem_of_mem_drop own)

private theorem formatParent_fits {traceId parentId : String} (trace : Printable traceId) (parent : Printable parentId) :
    Printable (formatParent traceId parentId) ∧
      (formatParent traceId parentId).toList.length = traceId.toList.length + parentId.toList.length + 7 := by
  constructor
  · intro c member
    rw [toList_formatParent] at member
    simp only [fields, List.mem_append, List.mem_cons, List.not_mem_nil, or_false] at member
    rcases member with (rfl | rfl) | rfl | own | rfl | own | rfl | rfl | rfl
    all_goals first | decide | exact trace c own | exact parent c own
  · rw [toList_formatParent]
    simp only [fields, List.length_append, List.length_cons, List.length_nil]
    omega

end

/-! ### Spans -/

/-- Random identifiers are 32 hexadecimal digits each. -/
structure Drawn (fresh : Fresh) : Prop where
  trace : LowerHex 32 fresh.traceId.toList
  span : LowerHex 32 fresh.spanId.toList

/-- The spans that there can be, whatever texts the identifiers and headers come in as. -/
inductive Made : Span → Prop where
  | root {fresh} (drawn : Drawn fresh) (operation : String) : Made (Span.root fresh operation)
  | child {fresh parent} (drawn : Drawn fresh) (made : Made parent) (operation : String) :
      Made (Span.child fresh parent operation)
  | withTraceId {fresh} (drawn : Drawn fresh) (traceId operation : String) :
      Made (Span.withTraceId fresh traceId operation)
  | ofHeader {fresh} (drawn : Drawn fresh) (header : Option String) (operation : String) :
      Made (Span.ofHeader fresh header operation)
  | setAttribute {s} (made : Made s) (key : String) (value : Json.Value) : Made (s.setAttribute key value)
  | close {s} (made : Made s) (now : Int) (status : String) : Made (s.close now status)

private theorem printable_valid {id : String} (valid : isValidId id = true) : Printable id := by
  simp only [isValidId, Bool.and_eq_true, List.all_eq_true, decide_eq_true_eq] at valid
  exact valid.2

structure Sound (s : Span) : Prop where
  trace : Printable s.traceId
  span : Printable s.spanId

private theorem Made.sound {s : Span} (made : Made s) : Sound s := by
  induction made with
  | root drawn => exact ⟨printable_hex drawn.trace, printable_hex drawn.span⟩
  | child drawn _ _ ih => exact ⟨ih.trace, printable_hex drawn.span⟩
  | withTraceId drawn traceId =>
    refine ⟨?_, printable_hex drawn.span⟩
    simp only [Span.withTraceId, Span.started]
    split
    next valid => exact printable_valid valid
    next => exact printable_hex drawn.trace
  | ofHeader drawn header operation =>
    rcases ofHeader_cases _ header operation with ⟨traceId, parentId, trace, shape⟩ | shape
    · rw [shape]
      exact ⟨printable_hex trace.hex, printable_hex drawn.span⟩
    · rw [shape]
      exact ⟨printable_hex drawn.trace, printable_hex drawn.span⟩
  | setAttribute _ _ _ ih => exact ⟨ih.trace, ih.span⟩
  | close _ _ _ ih => exact ⟨ih.trace, ih.span⟩

/-- Whatever a span was made from, both of its identifiers can be cut for the header, which is 55 bytes of printable
ASCII then; and so is the header that keeps the identifier whole, at its own length. -/
theorem headers_are_safe {s : Span} (made : Made s) :
    (∃ header, s.parentHeader? = some header ∧ s.parentHeader = header ∧ (Utf8.ofString header).length = 55 ∧
      ∀ b ∈ Utf8.ofString header, 0x20 ≤ b ∧ b ≤ 0x7E) ∧
    ∀ b ∈ Utf8.ofString s.stateHeader, 0x20 ≤ b ∧ b ≤ 0x7E := by
  obtain ⟨trace, span⟩ := made.sound
  obtain ⟨traceId, cut, whole, printable⟩ := lastDigits?_fits trace 32
  obtain ⟨parentId, cutParent, wholeParent, printableParent⟩ := lastDigits?_fits span 16
  obtain ⟨safe, length⟩ := formatParent_fits printable printableParent
  have written : s.parentHeader? = some (formatParent traceId parentId) := by
    rw [Span.parentHeader?, cut, cutParent]
    rfl
  refine ⟨⟨_, written, by rw [Span.parentHeader, written, Option.getD_some], ?_, safe.bytes⟩, ?_⟩
  · rw [safe.length_bytes, length, whole, wholeParent]
  · have name : Printable "mist=" := by decide
    have state : Printable s.stateHeader := name.append span
    exact state.bytes

def sample : Fresh := ⟨"00f067aa0ba902b74bf92f3577b34da6", "a3ce929d0e0e47364bf92f3577b34da6", 1⟩

private theorem sample_drawn : Drawn sample := ⟨by decide, by decide⟩

/-- A short name with a blank in it is kept, and one with line ends and letters beyond ASCII is not. -/
theorem headers_are_safe_hostile :
    (∃ header, (Span.withTraceId sample "~ 7" "op").parentHeader? = some header ∧
      (Utf8.ofString header).length = 55) ∧
    ∃ header, (Span.child sample (Span.withTraceId sample "tr\u00e4ger\r\n" "op") "op").parentHeader? = some header ∧
      (Utf8.ofString header).length = 55 := by
  have kept := Made.withTraceId sample_drawn "~ 7" "op"
  have replaced := Made.child sample_drawn (Made.withTraceId sample_drawn "tr\u00e4ger\r\n" "op") "op"
  obtain ⟨⟨header, written, -, length, -⟩, -⟩ := headers_are_safe kept
  obtain ⟨⟨other, writtenOther, -, lengthOther, -⟩, -⟩ := headers_are_safe replaced
  exact ⟨⟨header, written, length⟩, other, writtenOther, lengthOther⟩

end Courier.Proofs.TraceSafety
