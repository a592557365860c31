import Courier.Proofs.JsonScanning

/-! What may still come in a state of the scanner, to the end of the outermost value: the rest of the item
under way, and then what closes the open brackets. It is said in the words of the grammar, and so is what
a byte of a lexeme or an opening bracket adds in front of it. -/

namespace Courier.Proofs.JsonRemainders
open Json JsonGrammar JsonScanning

def closing : Bracket → UInt8
  | .list => 0x5D
  | .object => 0x7D

def opening : Bracket → UInt8
  | .list => 0x5B
  | .object => 0x7B

def single : Bracket → Symbol
  | .list => .element
  | .object => .member

def contents : Bracket → Symbol
  | .list => .elements
  | .object => .members

def opened : Bracket → Expect
  | .list => .itemOrEnd
  | .object => .nameOrEnd

/-- The state before an item that has to come. -/
def item : Bracket → Expect
  | .list => .value
  | .object => .name

/-- What may follow a value inside the given brackets, to the end of the outermost one. -/
inductive Closes : List Bracket → Bytes → Prop where
  | none : Closes [] []
  | close {bracket : Bracket} {outer : List Bracket} {blanks rest : Bytes} : Blank blanks → Closes outer rest →
      Closes (bracket :: outer) (blanks ++ closing bracket :: rest)
  | more {bracket : Bracket} {outer : List Bracket} {blanks items rest : Bytes} : Blank blanks →
      Derives (contents bracket) items → Closes outer rest →
      Closes (bracket :: outer) (blanks ++ 0x2C :: (items ++ closing bracket :: rest))

inductive Finishes : Expect → Bytes → Prop where
  | value {blanks value : Bytes} : Blank blanks → Derives .value value → Finishes .value (blanks ++ value)
  | firstItem {bytes : Bytes} : Finishes .value bytes → Finishes .itemOrEnd bytes
  | colon {blanks bytes : Bytes} : Blank blanks → Finishes .value bytes →
      Finishes .colon (blanks ++ 0x3A :: bytes)
  | name {blanks body bytes : Bytes} : Blank blanks → Body body → Finishes .colon bytes →
      Finishes .name (blanks ++ 0x22 :: (body ++ 0x22 :: bytes))
  | firstName {bytes : Bytes} : Finishes .name bytes → Finishes .nameOrEnd bytes
  | string {body : Bytes} : Body body → Finishes (.string false) (body ++ [0x22])
  | nameString {body bytes : Bytes} : Body body → Finishes .colon bytes →
      Finishes (.string true) (body ++ 0x22 :: bytes)
  | word {letters : Bytes} : Finishes (.word letters) letters
  | wholePart {whole fraction exponent : Bytes} : Whole whole → Fraction fraction → Exponent exponent →
      Finishes .wholePart (whole ++ (fraction ++ exponent))
  | moreDigits {digits fraction exponent : Bytes} : Digits digits → Fraction fraction → Exponent exponent →
      Finishes .moreDigits (digits ++ (fraction ++ exponent))
  | afterWhole {fraction exponent : Bytes} : Fraction fraction → Exponent exponent →
      Finishes .afterWhole (fraction ++ exponent)
  | fraction {digits exponent : Bytes} : digits ≠ [] → Digits digits → Exponent exponent →
      Finishes .fraction (digits ++ exponent)
  | moreFraction {digits exponent : Bytes} : Digits digits → Exponent exponent →
      Finishes .moreFraction (digits ++ exponent)
  | exponentSign {sign digits : Bytes} : sign ∈ [[], ascii "+", ascii "-"] → digits ≠ [] → Digits digits →
      Finishes .exponentSign (sign ++ digits)
  | exponent {digits : Bytes} : digits ≠ [] → Digits digits → Finishes .exponent digits
  | moreExponent {digits : Bytes} : Digits digits → Finishes .moreExponent digits

/-- All that may come in a state of the scanner, to the end of the outermost value. -/
inductive Completes : List Bracket → Expect → Bytes → Prop where
  | item {stack : List Bracket} {expect : Expect} {part rest : Bytes} : Finishes expect part →
      Closes stack rest → Completes stack expect (part ++ rest)
  | empty {bracket : Bracket} {outer : List Bracket} {expect : Expect} {blanks rest : Bytes} :
      expect = opened bracket → Blank blanks → Closes outer rest →
      Completes (bracket :: outer) expect (blanks ++ closing bracket :: rest)
  | past {bracket : Bracket} {outer : List Bracket} {expect : Expect} {rest : Bytes} :
      expect = .commaOrEnd → Closes (bracket :: outer) rest → Completes (bracket :: outer) expect rest

/-! Items and brackets. -/

theorem blank_cons {b : UInt8} {blanks : Bytes} (first : isBlank b = true) (blank : Blank blanks) :
    Blank (b :: blanks) := by
  intro c member
  rcases List.mem_cons.mp member with rfl | later
  · simp only [isBlank, Bool.or_eq_true, decide_eq_true_eq] at first
    rcases first with ((rfl | rfl) | rfl) | rfl <;> decide
  · exact blank c later

private theorem digits_nil : Digits [] := fun _ member => by cases member

private theorem digits_cons {b : UInt8} {digits : Bytes} (first : isDigit b = true) (all : Digits digits) :
    Digits (b :: digits) := by
  intro c member
  rcases List.mem_cons.mp member with rfl | later
  · exact (isDigit_iff c).mp first
  · exact all c later

theorem nonzero_digit {b : UInt8} (digit : isDigit b = true) (nonzero : b ≠ 0x30) :
    b ∈ ascii "123456789" := by
  have known : ascii "0123456789" = 0x30 :: ascii "123456789" := rfl
  have member := (isDigit_iff b).mp digit
  rw [known] at member
  exact (List.mem_cons.mp member).resolve_left nonzero

/-- A blank before an item, before the colon of a member or before the end of a value changes nothing. -/
theorem Finishes.blank {expect : Expect} {b : UInt8} {part : Bytes} (finishes : Finishes expect part)
    (between : Between expect) (first : isBlank b = true) : Finishes expect (b :: part) := by
  induction finishes with
  | value blank derived => exact .value (blank_cons first blank) derived
  | firstItem _ ih => exact .firstItem (ih (.inl (.inl rfl)))
  | colon blank value _ => exact .colon (blank_cons first blank) value
  | name blank body colon _ => exact .name (blank_cons first blank) body colon
  | firstName _ ih => exact .firstName (ih (.inr (.inl (.inl rfl))))
  | _ => simp [Between, Starts, StartsMember] at between

private theorem single_derives {bracket : Bracket} {part blanks : Bytes} (finishes : Finishes (item bracket) part)
    (blank : Blank blanks) : Derives (single bracket) (part ++ blanks) := by
  cases bracket with
  | list =>
    cases finishes with
    | value before derived =>
      rw [List.append_assoc]
      exact .element before derived blank
  | object =>
    cases finishes with
    | name before body finishes =>
      cases finishes with
      | colon after finishes =>
        cases finishes with
        | value between derived =>
          have colon : ascii ":" = [0x3A] := rfl
          have member := Derives.member before body after (.element between derived blank)
          show Derives .member _
          simpa [quoted_append, colon] using member

theorem contents_last {bracket : Bracket} {text : Bytes} (derived : Derives (single bracket) text) :
    Derives (contents bracket) text := by
  cases bracket with
  | list => exact .lastElement derived
  | object => exact .lastMember derived

theorem contents_more {bracket : Bracket} {text items : Bytes} (first : Derives (single bracket) text)
    (others : Derives (contents bracket) items) : Derives (contents bracket) (text ++ 0x2C :: items) := by
  cases bracket with
  | list => exact .elements first others
  | object => exact .members first others

theorem value_empty {blanks : Bytes} (bracket : Bracket) (blank : Blank blanks) :
    Derives .value (opening bracket :: (blanks ++ [closing bracket])) := by
  cases bracket with
  | list => exact .emptyList blank
  | object => exact .emptyObject blank

theorem value_contents {bracket : Bracket} {items : Bytes} (derived : Derives (contents bracket) items) :
    Derives .value (opening bracket :: (items ++ [closing bracket])) := by
  cases bracket with
  | list => exact .list derived
  | object => exact .object derived

/-- An item and what may follow it are the rest of what stands in the brackets, and what may follow them. -/
theorem contents_of_closes {bracket : Bracket} {outer : List Bracket} {part rest : Bytes}
    (finishes : Finishes (item bracket) part) (closes : Closes (bracket :: outer) rest) :
    ∃ items after, part ++ rest = items ++ closing bracket :: after ∧ Derives (contents bracket) items ∧
      Closes outer after := by
  cases closes with
  | @close _ _ blanks after blank closes =>
    refine ⟨part ++ blanks, after, by simp, ?_, closes⟩
    exact contents_last (single_derives finishes blank)
  | @more _ _ blanks items after blank derived closes =>
    refine ⟨part ++ blanks ++ 0x2C :: items, after, by simp, ?_, closes⟩
    exact contents_more (single_derives finishes blank) derived

/-- Whether an item has to come or is under way. -/
def inItem : Expect → Bool
  | .itemOrEnd => false
  | .nameOrEnd => false
  | .commaOrEnd => false
  | _ => true

theorem finishes_of_completes {stack : List Bracket} {expect : Expect} {bytes : Bytes}
    (inside : inItem expect = true) (completes : Completes stack expect bytes) :
    ∃ part rest, bytes = part ++ rest ∧ Finishes expect part ∧ Closes stack rest := by
  cases completes with
  | item finishes closes => exact ⟨_, _, rfl, finishes, closes⟩
  | @empty bracket _ _ _ _ same =>
    subst same
    cases bracket <;> cases inside
  | past same =>
    subst same
    cases inside

theorem value_of_opened {bracket : Bracket} {stack : List Bracket} {bytes : Bytes}
    (completes : Completes (bracket :: stack) (opened bracket) bytes) :
    ∃ more rest, bytes = more ++ rest ∧ Derives .value (opening bracket :: more) ∧ Closes stack rest := by
  cases completes with
  | empty _ blank closes =>
    exact ⟨_ ++ [closing bracket], _, by simp, value_empty bracket blank, closes⟩
  | past same _ => cases bracket <;> cases same
  | @item _ _ part rest finishes closes =>
    have finishes : Finishes (item bracket) part := by
      cases bracket with
      | list => cases finishes with | firstItem finishes => exact finishes
      | object => cases finishes with | firstName finishes => exact finishes
    obtain ⟨items, after, same, derived, closes⟩ := contents_of_closes finishes closes
    exact ⟨items ++ [closing bracket], after, by simp [same], value_contents derived, closes⟩

/-! Lexemes. -/

private theorem mem_of_hexValue {b : UInt8} (read : (hexValue? b).isSome = true) :
    b ∈ ascii "0123456789abcdefABCDEF" := by
  have known : ascii "0123456789abcdefABCDEF" = [0x30, 0x31, 0x32, 0x33, 0x34, 0x35, 0x36, 0x37, 0x38, 0x39,
    0x61, 0x62, 0x63, 0x64, 0x65, 0x66, 0x41, 0x42, 0x43, 0x44, 0x45, 0x46] := rfl
  have ranges : isDigit b = true ∨ 0x61 ≤ b ∧ b ≤ 0x66 ∨ 0x41 ≤ b ∧ b ≤ 0x46 := by
    unfold hexValue? at read
    split at read
    next digit => exact .inl digit
    split at read
    next small => exact .inr (.inl (by simpa using small))
    split at read
    next large => exact .inr (.inr (by simpa using large))
    next => cases read
  simp only [isDigit, Bool.and_eq_true, decide_eq_true_eq, UInt8.le_iff_toNat_le] at ranges
  simp only [known, List.mem_cons, List.not_mem_nil, or_false, ← UInt8.toNat_inj]
  simp at ranges ⊢
  omega

theorem mem_of_hex4 {e f g h : UInt8} (read : (hex4? e f g h).isSome = true) :
    ∀ b ∈ [e, f, g, h], b ∈ ascii "0123456789abcdefABCDEF" := by
  obtain ⟨n, read⟩ := Option.isSome_iff_exists.mp read
  simp only [hex4?, bind, Option.bind_eq_some_iff] at read
  obtain ⟨_, first, _, second, _, third, _, fourth, _⟩ := read
  intro b member
  simp only [List.mem_cons, List.not_mem_nil, or_false] at member
  apply mem_of_hexValue
  rcases member with rfl | rfl | rfl | rfl <;> simp [*]

theorem mem_of_escaped {b : UInt8} (read : (escaped? b).isSome = true) : b ∈ ascii "\"\\/bfnrt" := by
  unfold escaped? at read
  repeat' split at read
  all_goals first
    | (subst b; decide)
    | cases read

/-- Inside a string, what may stand before its body may stand before all that completes it. -/
theorem string_goes {stack : List Bracket} {isName : Bool} (taken : Bytes) {bytes : Bytes}
    (grows : ∀ body, Body body → Body (taken ++ body)) (completes : Completes stack (.string isName) bytes) :
    Completes stack (.string isName) (taken ++ bytes) := by
  obtain ⟨part, rest, rfl, finishes, closes⟩ := finishes_of_completes rfl completes
  have longer : Finishes (.string isName) (taken ++ part) := by
    cases finishes with
    | string body =>
      rw [← List.append_assoc]
      exact .string (grows _ body)
    | nameString body colon =>
      rw [← List.append_assoc]
      exact .nameString (grows _ body) colon
  rw [← List.append_assoc]
  exact .item longer closes

theorem name_ends {stack : List Bracket} {bytes : Bytes} (completes : Completes stack .colon bytes) :
    Completes stack (.string true) (0x22 :: bytes) := by
  obtain ⟨part, rest, rfl, finishes, closes⟩ := finishes_of_completes rfl completes
  exact .item (.nameString .nil finishes) closes

theorem word_goes {stack : List Bracket} {b : UInt8} {letters bytes : Bytes}
    (completes : Completes stack (.word letters) bytes) :
    Completes stack (.word (b :: letters)) (b :: bytes) := by
  obtain ⟨part, rest, rfl, finishes, closes⟩ := finishes_of_completes rfl completes
  cases finishes
  exact .item .word closes

private theorem exponent_of_sign {b : UInt8} {part : Bytes} (mark : (b = 0x65 || b = 0x45) = true)
    (finishes : Finishes .exponentSign part) : Exponent (b :: part) := by
  have marks : b ∈ ascii "eE" := by
    simp only [Bool.or_eq_true, decide_eq_true_eq] at mark
    rcases mark with rfl | rfl <;> decide
  cases finishes with
  | exponentSign sign some digits => exact .some marks sign some digits

private theorem fraction_goes {next : Expect} {b : UInt8} {part : Bytes}
    (goes : (if b = 0x2E then .ok (some .fraction)
      else if b = 0x65 || b = 0x45 then .ok (some .exponentSign)
      else .ok none : Except Error (Option Expect)) = .ok (some next))
    (finishes : Finishes next part) :
    ∃ fraction exponent, b :: part = fraction ++ exponent ∧ Fraction fraction ∧ Exponent exponent := by
  split at goes
  next point =>
    cases goes
    subst point
    cases finishes with
    | fraction some digits exponent => exact ⟨_, _, rfl, .some some digits, exponent⟩
  split at goes
  next mark =>
    cases goes
    exact ⟨[], b :: part, rfl, .none, exponent_of_sign mark finishes⟩
  next => cases goes

private theorem number_goes {expect next : Expect} {b : UInt8} {part : Bytes} (inside : expect.isNumber = true)
    (goes : insideNumber expect b = .ok (some next)) (finishes : Finishes next part) :
    Finishes expect (b :: part) := by
  cases expect <;> cases inside <;> simp only [insideNumber] at goes
  case wholePart =>
    split at goes
    next zero =>
      cases goes
      subst zero
      cases finishes with
      | afterWhole fraction exponent => exact .wholePart .zero fraction exponent
    split at goes
    next nonzero digit =>
      cases goes
      cases finishes with
      | moreDigits digits fraction exponent =>
        exact .wholePart (.positive (nonzero_digit digit nonzero) digits) fraction exponent
    next => cases goes
  case moreDigits =>
    split at goes
    next digit =>
      cases goes
      cases finishes with
      | moreDigits digits fraction exponent => exact .moreDigits (digits_cons digit digits) fraction exponent
    next =>
      obtain ⟨fraction, exponent, same, fractional, raised⟩ := fraction_goes goes finishes
      rw [same]
      exact .moreDigits digits_nil fractional raised
  case afterWhole =>
    split at goes
    next => cases goes
    next =>
      obtain ⟨fraction, exponent, same, fractional, raised⟩ := fraction_goes goes finishes
      rw [same]
      exact .afterWhole fractional raised
  case fraction =>
    split at goes
    next digit =>
      cases goes
      cases finishes with
      | moreFraction digits exponent =>
        exact .fraction (List.cons_ne_nil _ _) (digits_cons digit digits) exponent
    next => cases goes
  case moreFraction =>
    split at goes
    next digit =>
      cases goes
      cases finishes with
      | moreFraction digits exponent => exact .moreFraction (digits_cons digit digits) exponent
    split at goes
    next mark =>
      cases goes
      exact .moreFraction digits_nil (exponent_of_sign mark finishes)
    next => cases goes
  case exponentSign =>
    split at goes
    next sign =>
      cases goes
      cases finishes with
      | exponent some digits =>
        simp only [Bool.or_eq_true, decide_eq_true_eq] at sign
        rcases sign with rfl | rfl
        · exact @Finishes.exponentSign (ascii "+") _ (by simp) some digits
        · exact @Finishes.exponentSign (ascii "-") _ (by simp) some digits
    split at goes
    next digit =>
      cases goes
      cases finishes with
      | moreExponent digits =>
        exact @Finishes.exponentSign [] _ (by simp) (List.cons_ne_nil _ _) (digits_cons digit digits)
    next => cases goes
  case exponent =>
    split at goes
    next digit =>
      cases goes
      cases finishes with
      | moreExponent digits => exact .exponent (List.cons_ne_nil _ _) (digits_cons digit digits)
    next => cases goes
  case moreExponent =>
    split at goes
    next digit =>
      cases goes
      cases finishes with
      | moreExponent digits => exact .moreExponent (digits_cons digit digits)
    next => cases goes

theorem finishes_number {expect : Expect} (may : expect.endsNumber = true) : Finishes expect [] := by
  cases expect <;> cases may
  · exact .moreDigits digits_nil .none .none
  · exact .afterWhole .none .none
  · exact .moreFraction digits_nil .none
  · exact .moreExponent digits_nil

theorem number_ends {expect : Expect} {b : UInt8} (inside : expect.isNumber = true)
    (ends : insideNumber expect b = .ok none) : expect.endsNumber = true := by
  cases expect <;> cases inside
  case moreDigits => rfl
  case afterWhole => rfl
  case moreFraction => rfl
  case moreExponent => rfl
  all_goals
    simp only [insideNumber] at ends
    repeat' split at ends
    all_goals cases ends

theorem number_goes_on {stack : List Bracket} {expect next : Expect} {b : UInt8} {bytes : Bytes}
    (inside : expect.isNumber = true) (goes : insideNumber expect b = .ok (some next))
    (completes : Completes stack next bytes) : Completes stack expect (b :: bytes) := by
  have item : inItem next = true := by
    cases expect <;> cases inside <;> simp only [insideNumber] at goes
    all_goals
      repeat' split at goes
      all_goals first
        | (cases goes; rfl)
        | cases goes
  obtain ⟨part, rest, rfl, finishes, closes⟩ := finishes_of_completes item completes
  exact .item (number_goes inside goes finishes) closes

end Courier.Proofs.JsonRemainders
