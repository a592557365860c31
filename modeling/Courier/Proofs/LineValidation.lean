import Courier.Proofs.JsonOrigins
import Courier.Proofs.LineSplitting
import Courier.Proofs.MessageRoundTrip
import Courier.Proofs.TextTrimming
import Courier.Transport.Stream
import Courier.Validation
import Mathlib.Data.List.Forall2
import Mathlib.Data.List.TakeWhile

/-! What a check makes of a text, and what a reader of lines does. The check cuts the text into the same lines,
but it measures none of them, and any white space is blank to it, where only ASCII blanks are to the reader. -/

namespace Courier.Proofs.LineValidation
open LineReader LineSplitting TextTrimming Utf8Decoding
open Validation (linesOf checkLines check)

/-! ### The lines of a text -/

/-- The lines of a text, each as it counts and as it is handed on. -/
def lines (text : Bytes) : List (Bytes × Bytes) :=
  let parts := text.splitOn 0x0A
  let last := parts.getLastD []
  parts.dropLast.map (fun line => (line, withoutReturn line)) ++ [(last, last)]

section
variable {line text : Bytes}

private theorem lines_unbroken (unbroken : 0x0A ∉ line) : lines line = [(line, line)] := by
  simp [lines, List.splitOn_eq_singleton unbroken]

private theorem lines_line (unbroken : 0x0A ∉ line) (rest : Bytes) :
    lines (line ++ 0x0A :: rest) = (line, withoutReturn line) :: lines rest := by
  obtain ⟨first, others, parts⟩ := List.exists_cons_of_ne_nil (List.splitOn_ne_nil 0x0A rest)
  simp only [lines, List.splitOn_append_cons_self_of_not_mem unbroken, parts, List.dropLast_cons_cons,
    List.map_cons, List.getLastD_cons, List.cons_append]

private theorem counted_lines (text : Bytes) : (lines text).map Prod.fst = text.splitOn 0x0A := by
  have some := List.splitOn_ne_nil 0x0A text
  have last : (text.splitOn 0x0A).getLastD [] = (text.splitOn 0x0A).getLast some := by
    rw [List.getLastD_eq_getLast?, List.getLast?_eq_some_getLast some, Option.getD_some]
  simp only [lines, List.map_append, List.map_map, List.map_cons, List.map_nil]
  rw [last]
  exact (congrArg (· ++ _) (List.map_id _)).trans (List.dropLast_concat_getLast some)

private theorem split_eq (limit : Nat) (text : Bytes) :
    split limit text = (lines text).filterMap fun line => outcome limit line.1 line.2 := by
  simp only [split, lines, List.filterMap_append, List.filterMap_map, Function.comp_def, List.filterMap_cons,
    List.filterMap_nil]
  cases outcome limit ((text.splitOn 0x0A).getLastD []) ((text.splitOn 0x0A).getLastD []) <;> rfl

private theorem linesOf_go (rest : Bytes) (line : Bytes) (done : List Bytes) (unbroken : 0x0A ∉ line) :
    ∃ tail, (∀ line ∈ tail, line = []) ∧
      done.reverse ++ (lines (line.reverse ++ rest)).map Prod.snd = linesOf.go rest line done ++ tail := by
  induction rest generalizing line done with
  | nil =>
    have whole : 0x0A ∉ line.reverse := by simpa using unbroken
    rw [List.append_nil, lines_unbroken whole]
    cases line with
    | nil => exact ⟨[[]], by simp, rfl⟩
    | cons b line => exact ⟨[], by simp, by simp [linesOf.go]⟩
  | cons b rest ih =>
    by_cases ends : b = 0x0A
    · subst b
      have whole : 0x0A ∉ line.reverse := by simpa using unbroken
      have goesOn : linesOf.go (0x0A :: rest) line done = linesOf.go rest [] (lineOf line :: done) := by
        rcases line with _ | ⟨c, line⟩
        · rfl
        · by_cases isReturn : c = 0x0D
          · subst c
            rfl
          · simp [linesOf.go, lineOf, isReturn]
      obtain ⟨tail, empty, same⟩ := ih [] (lineOf line :: done) List.not_mem_nil
      refine ⟨tail, empty, ?_⟩
      rw [goesOn, ← same, lines_line whole, lineOf_eq]
      simp
    · have goesOn : linesOf.go (b :: rest) line done = linesOf.go rest (b :: line) done := by
        simp only [linesOf.go.eq_def (b :: rest), if_neg ends]
      have other : 0x0A ≠ b := Ne.symm ends
      obtain ⟨tail, empty, same⟩ := ih (b :: line) done (by simp [other, unbroken])
      refine ⟨tail, empty, ?_⟩
      rw [goesOn, ← same]
      simp

private theorem handed_lines (text : Bytes) :
    ∃ tail, (∀ line ∈ tail, line = []) ∧ (lines text).map Prod.snd = linesOf text ++ tail :=
  linesOf_go text [] [] List.not_mem_nil

end

/-! ### Blank lines -/

def isBlankLine (line : Bytes) : Bool := (Utf8.toString? line).any fun text => (Text.trim text).isEmpty

theorem isBlankLine_ofString (s : String) :
    isBlankLine (Utf8.ofString s) = true ↔ ∀ c ∈ s.toList, Text.isBlank c = true := by
  rw [isBlankLine, toString?_ofString, Option.any_some, Text.trim, String.isEmpty_iff, ← trimChars_eq_nil,
    String.ofList_eq_empty_iff]

theorem isBlankLine_of_ascii {line : Bytes} (blank : line.all isAsciiBlank = true) : isBlankLine line = true := by
  obtain ⟨s, rfl, white⟩ : ∃ s, line = Utf8.ofString s ∧ ∀ c ∈ s.toList, Text.isBlank c = true := by
    induction line with
    | nil => exact ⟨"", rfl, nofun⟩
    | cons b rest ih =>
      obtain ⟨own, others⟩ := Bool.and_eq_true_iff.mp blank
      obtain ⟨s, rfl, white⟩ := ih others
      obtain ⟨c, same, space⟩ : ∃ c : Char, Utf8.encodeChar c = [b] ∧ Text.isBlank c = true := by
        simp only [isAsciiBlank, Bool.or_eq_true, decide_eq_true_eq] at own
        rcases own with (((rfl | rfl) | rfl) | rfl) | rfl
        · exact ⟨' ', by decide, by decide⟩
        · exact ⟨'\t', by decide, by decide⟩
        · exact ⟨'\n', by decide, by decide⟩
        · exact ⟨Char.ofNat 0x0C, by decide, by decide⟩
        · exact ⟨'\r', by decide, by decide⟩
      refine ⟨String.ofList (c :: s.toList), ?_, ?_⟩
      · have cons : Utf8.encode (c :: s.toList) = Utf8.encodeChar c ++ Utf8.encode s.toList := rfl
        rw [Utf8.ofString, Utf8.ofString, String.toList_ofList, cons, same, List.singleton_append]
      · rw [String.toList_ofList]
        exact List.forall_mem_cons.mpr ⟨space, white⟩
  exact (isBlankLine_ofString s).mpr white

private theorem bracket_mem {line : Bytes} {m : Message} (received : Message.unmarshal line = .ok m) :
    0x5B ∈ line ∨ 0x7B ∈ line := by
  obtain ⟨⟨m, rest⟩, read, -⟩ := JsonOrigins.ok_of_bind (MessageRoundTrip.unmarshal_iff.mp received).2.1
  obtain ⟨tuple, read, -⟩ := JsonOrigins.convert_read read
  simp only [Json.Codec.record, Json.atValue] at read
  split at read
  next => cases read
  next b rest start =>
    have member : b ∈ line := by
      refine (List.dropWhile_suffix Json.isBlank).subset ?_
      rw [← Json.skipBlanks, start]
      exact List.mem_cons_self
    split at read
    next list => exact .inl (list ▸ member)
    next =>
      split at read
      next object => exact .inr (object ▸ member)
      next => cases read

/-- No byte of white space is a bracket. -/
theorem unmarshal_blank {line : Bytes} (blank : isBlankLine line = true) (m : Message) :
    Message.unmarshal line ≠ .ok m := by
  intro received
  have text : Utf8.isText line = true := by
    rw [← Utf8.isSome_decode?]
    rw [isBlankLine, Utf8.toString?] at blank
    cases decoded : Utf8.decode? line with
    | none => rw [decoded] at blank; cases blank
    | some _ => rfl
  obtain ⟨s, rfl⟩ := ofString_of_isText text
  have white := (isBlankLine_ofString s).mp blank
  have other (b : UInt8) (ascii : b.toNat < 0x80) (solid : Text.isBlank (Char.ofNat b.toNat) = false) :
      b ∉ Utf8.ofString s := by
    intro member
    obtain ⟨c, inside, own⟩ := List.mem_flatMap.mp member
    rcases Nat.lt_or_ge c.toNat 0x80 with small | above
    · rw [encodeChar_ascii small, List.mem_singleton] at own
      have same : b.toNat = c.toNat := by
        have size : c.toNat < UInt8.size := Nat.lt_trans small (by decide)
        rw [own, UInt8.toNat_ofNat_of_lt' size]
      rw [same, Char.ofNat_toNat, white c inside] at solid
      cases solid
    · exact Nat.not_le_of_lt ascii (encodeChar_above above own)
  rcases bracket_mem received with list | object
  · exact other 0x5B (by decide) (by decide) list
  · exact other 0x7B (by decide) (by decide) object

/-! ### Checks -/

def message? (line : Bytes) : Option Message :=
  if isBlankLine line then none else (Message.unmarshal line).toOption

def messages (text : Bytes) : List Message := (linesOf text).filterMap message?

def Passes (line : Bytes) : Prop := isBlankLine line = true ∨ ∃ m, Message.unmarshal line = .ok m

/-- A check without faults has passed over every line or counted its message. -/
theorem checkLines_clean {v found : Validation} {number : Nat} {parts : List Bytes}
    (checked : checkLines v number parts = (found, true)) (clean : found.faults = []) :
    v.faults = [] ∧ (∀ line ∈ parts, Passes line) ∧
      found.valid = v.valid + (parts.filterMap message?).length := by
  induction parts generalizing v number with
  | nil =>
    cases checked
    exact ⟨clean, nofun, rfl⟩
  | cons line rest ih =>
    rw [checkLines] at checked
    cases text : Utf8.toString? line with
    | none =>
      rw [text] at checked
      cases checked
    | some text' =>
      rw [text] at checked
      obtain ⟨faults, passes, valid⟩ := ih checked
      have same : isBlankLine line = (Text.trim text').isEmpty := by rw [isBlankLine, text, Option.any_some]
      rw [Validation.add] at faults valid
      by_cases blank : (Text.trim text').isEmpty = true
      · rw [if_pos blank] at faults valid
        have none : message? line = none := if_pos (same.trans blank)
        rw [List.filterMap_cons_none none]
        exact ⟨faults, List.forall_mem_cons.mpr ⟨.inl (same.trans blank), passes⟩, valid⟩
      · rw [if_neg blank] at faults valid
        cases read : Message.unmarshal line with
        | error why =>
          rw [read] at faults
          cases faults
        | ok m =>
          rw [read] at faults valid
          have some : message? line = some m := by
            rw [message?, same, if_neg blank, read]
            rfl
          rw [List.filterMap_cons_some some]
          refine ⟨faults, List.forall_mem_cons.mpr ⟨.inr ⟨m, read⟩, passes⟩, ?_⟩
          exact valid.trans (by rw [List.length_cons, Nat.add_assoc, Nat.add_comm 1])

theorem check_clean {text : Bytes} {n : Nat} (checked : check text = ({ valid := n }, true)) :
    (∀ line ∈ linesOf text, Passes line) ∧ (messages text).length = n := by
  rw [check] at checked
  rcases found : checkLines {} 1 (linesOf text) with ⟨v, readable⟩
  rw [found] at checked
  simp only [Prod.mk.injEq, Validation.mk.injEq, List.reverse_eq_nil_iff] at checked
  obtain ⟨⟨rfl, clean⟩, rfl⟩ := checked
  obtain ⟨-, passes, valid⟩ := checkLines_clean found clean
  exact ⟨passes, by rw [valid, messages, Nat.zero_add]⟩

/-! ### What a reader makes of the same text -/

/-- A reader takes the lines of a text as a check does: it finds none too long, even with the carriage return
before its end, and those that are blank to the check are blank to it. -/
structure Plain (text : Bytes) : Prop where
  fits : ∀ line ∈ text.splitOn 0x0A, line.length ≤ maxLineBytes
  blank : ∀ line ∈ linesOf text, isBlankLine line = true → line.all isAsciiBlank = true

section
variable {text : Bytes}

private theorem handed_iff {property : Bytes → Prop} (empty : property []) :
    (∀ line ∈ lines text, property line.2) ↔ ∀ line ∈ linesOf text, property line := by
  obtain ⟨tail, nothing, same⟩ := handed_lines text
  rw [← List.forall_mem_map (f := Prod.snd), same, List.forall_mem_append]
  exact and_iff_left fun line member => nothing line member ▸ empty

private theorem messages_eq (text : Bytes) : messages text = (lines text).filterMap fun line => message? line.2 := by
  obtain ⟨tail, nothing, same⟩ := handed_lines text
  have none : tail.filterMap message? = [] := by
    refine List.filterMap_eq_nil_iff.mpr fun line member => ?_
    rw [nothing line member]
    exact if_pos (isBlankLine_of_ascii rfl)
  rw [messages, ← List.append_nil (List.filterMap _ _), ← none, ← List.filterMap_append, ← same,
    List.filterMap_map]
  rfl

private theorem plain_iff : Plain text ↔ ∀ line ∈ lines text,
    line.1.length ≤ maxLineBytes ∧ (isBlankLine line.2 = true → line.2.all isAsciiBlank = true) := by
  have counted : (∀ line ∈ lines text, line.1.length ≤ maxLineBytes) ↔
      ∀ line ∈ text.splitOn 0x0A, line.length ≤ maxLineBytes := by
    rw [← counted_lines, List.forall_mem_map]
  have handed := @handed_iff text (fun line => isBlankLine line = true → line.all isAsciiBlank = true) fun _ => rfl
  refine ⟨fun plain line member => ⟨counted.mpr plain.fits line member, handed.mpr plain.blank line member⟩, ?_⟩
  intro every
  exact ⟨counted.mp fun line member => (every line member).1, handed.mp fun line member => (every line member).2⟩

/-- Where a reader takes the lines as a check does, and the check finds no fault, it reads the messages that the
check has found. -/
theorem split_messages (plain : Plain text) (passes : ∀ line ∈ linesOf text, Passes line) :
    List.Forall₂ (fun line m => StreamTransport.ofLine line = .ok m) (split maxLineBytes text) (messages text) := by
  have passes := (handed_iff (.inl (isBlankLine_of_ascii rfl))).mpr passes
  have plain := plain_iff.mp plain
  rw [split_eq, messages_eq]
  generalize lines text = parts at passes plain
  induction parts with
  | nil => exact .nil
  | cons line rest ih =>
    obtain ⟨counted, handed⟩ := line
    obtain ⟨⟨fits, blank⟩, plain⟩ := List.forall_mem_cons.mp plain
    obtain ⟨own, passes⟩ := List.forall_mem_cons.mp passes
    have next := ih passes plain
    by_cases white : handed.all isAsciiBlank = true
    · have skipped : outcome maxLineBytes counted handed = none := by
        rw [outcome, if_neg (Nat.not_lt.mpr fits), if_pos white]
      have none : message? handed = none := if_pos (isBlankLine_of_ascii white)
      simp only [List.filterMap_cons, skipped, none]
      exact next
    · have solid : ¬ isBlankLine handed = true := fun white' => white (blank white')
      obtain ⟨m, read⟩ := own.resolve_left solid
      have given : outcome maxLineBytes counted handed = some (.data handed) := by
        rw [outcome, if_neg (Nat.not_lt.mpr fits), if_neg white]
      have some : message? handed = some m := by
        rw [message?, if_neg solid, read]
        rfl
      simp only [List.filterMap_cons, given, some]
      refine .cons ?_ next
      rw [StreamTransport.ofLine, Message.ofLine, read]
      rfl

/-- Where a reader gives nothing but messages, it takes the lines as a check does. -/
theorem plain_of_messages (all : ∀ line ∈ split maxLineBytes text, ∃ m, StreamTransport.ofLine line = .ok m) :
    Plain text := by
  rw [split_eq] at all
  refine plain_iff.mpr fun (counted, handed) member => ?_
  have read (line : Line) (given : outcome maxLineBytes counted handed = some line) :
      ∃ m, StreamTransport.ofLine line = .ok m :=
    all line (List.mem_filterMap.mpr ⟨_, member, given⟩)
  have fits : ¬ maxLineBytes < counted.length := by
    intro long
    obtain ⟨m, refused⟩ := read .tooLong (if_pos long)
    cases refused
  refine ⟨Nat.not_lt.mp fits, ?_⟩
  intro white
  by_contra solid
  obtain ⟨m, given⟩ := read (.data handed) (by rw [outcome, if_neg fits, if_neg solid])
  cases found : Message.unmarshal handed with
  | ok m => exact unmarshal_blank white m found
  | error why =>
    rw [StreamTransport.ofLine, Message.ofLine, found] at given
    cases given

end

end Courier.Proofs.LineValidation
