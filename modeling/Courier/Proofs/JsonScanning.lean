import Courier.Json.Reader
import Courier.Proofs.JsonGrammar

/-! The scanner passes over every value of the grammar, in any brackets and whatever follows, up to the
value's last byte. -/

namespace Courier.Proofs.JsonScanning
open Json JsonGrammar

theorem isBlank_of_mem {b : UInt8} (member : b ∈ ascii " \t\n\x0d") : isBlank b = true := by
  have all : ∀ b ∈ ascii " \t\n\x0d", isBlank b = true := each (by decide)
  exact all b member

theorem isDigit_iff (b : UInt8) : isDigit b = true ↔ b ∈ ascii "0123456789" := by
  have digits : ascii "0123456789" = [0x30, 0x31, 0x32, 0x33, 0x34, 0x35, 0x36, 0x37, 0x38, 0x39] := rfl
  simp only [digits, isDigit, List.mem_cons, List.not_mem_nil, or_false, Bool.and_eq_true,
    decide_eq_true_eq, UInt8.le_iff_toNat_le, ← UInt8.toNat_inj]
  simp
  omega

theorem not_digit_of_stops {rest : Bytes} (stops : Stops rest) {b : UInt8} (next : rest.head? = some b) :
    isDigit b = false := by
  rw [← Bool.not_eq_true, isDigit_iff]
  intro member
  exact stops b next (List.mem_append_left (ascii ".eE") member)

/-- What the scanner does after a value. -/
def proceed (stack : List Bracket) (rest : Bytes) : Except Error Bytes :=
  match afterValue stack with
  | none => .ok rest
  | some next => scan stack next rest

private theorem proceed_cons (bracket : Bracket) (outer : List Bracket) (rest : Bytes) :
    proceed (bracket :: outer) rest = scan (bracket :: outer) .commaOrEnd rest := rfl

abbrev Starts (expect : Expect) : Prop := expect = .value ∨ expect = .itemOrEnd

abbrev StartsMember (expect : Expect) : Prop := expect = .name ∨ expect = .nameOrEnd

abbrev Between (expect : Expect) : Prop :=
  Starts expect ∨ StartsMember expect ∨ expect = .colon ∨ expect = .commaOrEnd

section
variable (stack : List Bracket) (rest : Bytes)

private theorem scan_between {expect : Expect} (between : Between expect) (b : UInt8) :
    scan stack expect (b :: rest) =
      match betweenLexemes stack expect b with
      | .error e => .error e
      | .ok (_, none) => .ok rest
      | .ok (inner, some next) => scan inner next rest := by
  rw [scan.eq_def]
  rcases between with (rfl | rfl) | (rfl | rfl) | rfl | rfl <;> rfl

theorem scan_blanks {expect : Expect} (between : Between expect) {blanks : Bytes} (blank : Blank blanks) :
    scan stack expect (blanks ++ rest) = scan stack expect rest := by
  induction blanks with
  | nil => rfl
  | cons b more ih =>
    have passed : betweenLexemes stack expect b = .ok (stack, some expect) := by
      unfold betweenLexemes
      rw [if_pos (isBlank_of_mem (blank b List.mem_cons_self))]
    rw [List.cons_append, scan_between stack _ between, passed]
    exact ih fun c member => blank c (List.mem_cons_of_mem _ member)

private theorem openValue_starts {b : UInt8} {opened : List Bracket × Expect}
    (ok : openValue stack b = .ok opened) : isBlank b = false ∧ b ≠ 0x5D := by
  constructor
  · cases blank : isBlank b with
    | false => rfl
    | true =>
      simp only [isBlank, Bool.or_eq_true, decide_eq_true_eq] at blank
      rcases blank with ((rfl | rfl) | rfl) | rfl <;> cases ok
  · rintro rfl
    cases ok

theorem scan_open {expect next : Expect} (starts : Starts expect) {b : UInt8} {inner : List Bracket}
    (ok : openValue stack b = .ok (inner, next)) :
    scan stack expect (b :: rest) = scan inner next rest := by
  obtain ⟨solid, other⟩ := openValue_starts stack ok
  rw [scan_between stack rest (.inl starts)]
  rcases starts with rfl | rfl <;> simp [betweenLexemes, solid, other, ok, Except.map]

private theorem scan_word {word : Bytes} (some : word ≠ []) :
    scan stack (.word word) (word ++ rest) = proceed stack rest := by
  induction word with
  | nil => exact absurd rfl some
  | cons w more ih =>
    cases more with
    | nil =>
      rw [List.cons_append, scan.eq_def]
      simp only [bne_self_eq_false, Bool.false_eq_true, if_false, List.isEmpty_nil, Bool.not_true, proceed]
      rfl
    | cons x more =>
      rw [← ih (List.cons_ne_nil x more), List.cons_append, scan.eq_def]
      simp only [bne_self_eq_false, Bool.false_eq_true, if_false, List.isEmpty_cons, Bool.not_false, if_true]

private theorem scan_close {expect : Expect} {bracket : Bracket} {b : UInt8} (between : Between expect)
    (closes : betweenLexemes (bracket :: stack) expect b = .ok (stack, afterValue stack)) :
    scan (bracket :: stack) expect (b :: rest) = proceed stack rest := by
  rw [scan_between _ rest between, closes, proceed]
  cases afterValue stack <;> rfl

/-- The rest of a string. The string is a name if the flag is set. -/
theorem scan_body (isName : Bool) {body : Bytes} (derived : Body body) :
    scan stack (.string isName) (body ++ 0x22 :: rest) =
      if isName then scan stack .colon rest else proceed stack rest := by
  induction derived with
  | nil =>
    rw [List.nil_append, scan.eq_def]
    cases isName with
    | true => rfl
    | false =>
      simp only [proceed]
      cases afterValue stack <;> rfl
  | @plain b more printable free _ ih =>
    have escapes : ascii "\"\\" = [0x22, 0x5C] := rfl
    simp only [escapes, List.mem_cons, List.not_mem_nil, or_false, not_or] at free
    rw [List.cons_append, scan.eq_def]
    simp only [free.1, free.2, if_false, UInt8.not_lt.mpr printable]
    exact ih
  | @escape b more known _ ih =>
    have escapes : ascii "\"\\/bfnrt" = [0x22, 0x5C, 0x2F, 0x62, 0x66, 0x6E, 0x72, 0x74] := rfl
    simp only [escapes, List.mem_cons, List.not_mem_nil, or_false] at known
    rw [← ih]
    rcases known with rfl | rfl | rfl | rfl | rfl | rfl | rfl | rfl <;> rfl
  | @unit e f g h more hex _ ih =>
    have value : ∀ b ∈ ascii "0123456789abcdefABCDEF", (hexValue? b).isSome = true := each (by decide)
    have read : (hex4? e f g h).isSome = true := by
      obtain ⟨_, first⟩ := Option.isSome_iff_exists.mp (value e (hex e (by simp)))
      obtain ⟨_, second⟩ := Option.isSome_iff_exists.mp (value f (hex f (by simp)))
      obtain ⟨_, third⟩ := Option.isSome_iff_exists.mp (value g (hex g (by simp)))
      obtain ⟨_, fourth⟩ := Option.isSome_iff_exists.mp (value h (hex h (by simp)))
      simp [hex4?, first, second, third, fourth]
    rw [← ih]
    show scan stack (.string isName) (0x5C :: 0x75 :: e :: f :: g :: h :: (more ++ 0x22 :: rest)) = _
    rw [scan.eq_def]
    simp only [read, if_true]
    rfl

/-! Numbers are passed over digit by digit; where the whole part, the fraction and the exponent may
end, the next part may start or the number is over. -/

private theorem scan_number {expect : Expect} (inside : expect.isNumber = true) (b : UInt8) :
    scan stack expect (b :: rest) =
      match insideNumber expect b with
      | .error e => .error e
      | .ok (some next) => scan stack next rest
      | .ok none =>
        match afterValue stack with
        | none => .ok (b :: rest)
        | some next =>
          match betweenLexemes stack next b with
          | .error e => .error e
          | .ok (_, none) => .ok rest
          | .ok (inner, some next) => scan inner next rest := by
  rw [scan.eq_def]
  cases expect <;> cases inside <;> rfl

private theorem scan_inside {expect next : Expect} (inside : expect.isNumber = true) {b : UInt8}
    (goes : insideNumber expect b = .ok (some next)) :
    scan stack expect (b :: rest) = scan stack next rest := by
  rw [scan_number stack rest inside, goes]

private theorem scan_digits {expect : Expect} (inside : expect ∈ [.moreDigits, .moreFraction, .moreExponent])
    {digits : Bytes} (all : Digits digits) :
    scan stack expect (digits ++ rest) = scan stack expect rest := by
  induction digits with
  | nil => rfl
  | cons b more ih =>
    have digit : isDigit b = true := (isDigit_iff b).mpr (all b List.mem_cons_self)
    rw [List.cons_append, ← ih fun c member => all c (List.mem_cons_of_mem _ member)]
    simp only [List.mem_cons, List.not_mem_nil, or_false] at inside
    rcases inside with rfl | rfl | rfl <;>
      exact scan_inside stack _ rfl (by simp [insideNumber, digit])

private theorem scan_stops {expect : Expect} (may : expect.endsNumber = true) (stops : Stops rest) :
    scan stack expect rest = proceed stack rest := by
  cases rest with
  | nil =>
    rw [scan, if_pos may]
    cases stack <;> rfl
  | cons b more =>
    have outside := stops b rfl
    have digit : isDigit b = false := not_digit_of_stops stops rfl
    have marks : ascii "0123456789.eE" = ascii "0123456789" ++ [0x2E, 0x65, 0x45] := rfl
    simp only [marks, List.mem_append, List.mem_cons, List.not_mem_nil, or_false, not_or] at outside
    obtain ⟨_, point, small, large⟩ := outside
    have ended : insideNumber expect b = .ok none := by
      cases expect <;> cases may <;> simp [insideNumber, digit, point, small, large]
    have inside : expect.isNumber = true := by cases expect <;> cases may <;> rfl
    rw [scan_number stack more inside, ended]
    cases stack with
    | nil => rfl
    | cons bracket outer => rw [proceed_cons, scan_between _ more (.inr (.inr (.inr rfl)))]; rfl

private theorem scan_exponent {expect : Expect} (after : expect ∈ [.moreDigits, .afterWhole, .moreFraction])
    {exponent : Bytes} (derived : Exponent exponent) (stops : Stops rest) :
    scan stack expect (exponent ++ rest) = proceed stack rest := by
  simp only [List.mem_cons, List.not_mem_nil, or_false] at after
  cases derived with
  | none => exact scan_stops stack rest (by rcases after with rfl | rfl | rfl <;> rfl) stops
  | @some mark sign digits marks signs some all =>
    have begins : scan stack expect (mark :: (sign ++ digits) ++ rest) =
        scan stack .exponentSign (sign ++ (digits ++ rest)) := by
      rw [List.cons_append, List.append_assoc]
      have known : ascii "eE" = [0x65, 0x45] := rfl
      simp only [known, List.mem_cons, List.not_mem_nil, or_false] at marks
      rcases after with rfl | rfl | rfl <;> rcases marks with rfl | rfl <;>
        exact scan_inside stack _ rfl rfl
    rw [begins]
    obtain ⟨first, more, rfl⟩ := List.exists_cons_of_ne_nil some
    have digit : isDigit first = true := (isDigit_iff first).mpr (all first List.mem_cons_self)
    have finish : scan stack .moreExponent (more ++ rest) = proceed stack rest := by
      rw [scan_digits stack rest (by simp) fun b member => all b (List.mem_cons_of_mem _ member)]
      exact scan_stops stack rest rfl stops
    have unsigned : scan stack .exponent (first :: more ++ rest) = proceed stack rest := by
      rw [← finish]
      exact scan_inside stack _ rfl (by simp [insideNumber, digit])
    simp only [List.mem_cons, List.not_mem_nil, or_false] at signs
    rcases signs with rfl | rfl | rfl
    · have plain : ∀ b ∈ ascii "0123456789", b ≠ 0x2B ∧ b ≠ 0x2D := each (by decide)
      obtain ⟨up, down⟩ := plain first (all first List.mem_cons_self)
      rw [← finish]
      exact scan_inside stack _ rfl (by simp [insideNumber, digit, up, down])
    · rw [← unsigned]
      exact scan_inside stack _ rfl rfl
    · rw [← unsigned]
      exact scan_inside stack _ rfl rfl

private theorem scan_fraction {expect : Expect} (after : expect ∈ [.moreDigits, .afterWhole])
    {fraction exponent : Bytes} (derived : Fraction fraction) (raised : Exponent exponent)
    (stops : Stops rest) :
    scan stack expect (fraction ++ (exponent ++ rest)) = proceed stack rest := by
  simp only [List.mem_cons, List.not_mem_nil, or_false] at after
  cases derived with
  | none => exact scan_exponent stack rest (by rcases after with rfl | rfl <;> simp) raised stops
  | @some digits some all =>
    obtain ⟨first, more, rfl⟩ := List.exists_cons_of_ne_nil some
    have digit : isDigit first = true := (isDigit_iff first).mpr (all first List.mem_cons_self)
    calc scan stack expect (ascii "." ++ (first :: more) ++ (exponent ++ rest))
      _ = scan stack .fraction (first :: (more ++ (exponent ++ rest))) := by
        rcases after with rfl | rfl <;> exact scan_inside stack _ rfl rfl
      _ = scan stack .moreFraction (more ++ (exponent ++ rest)) :=
        scan_inside stack _ rfl (by simp [insideNumber, digit])
      _ = scan stack .moreFraction (exponent ++ rest) :=
        scan_digits stack _ (by simp) fun b member => all b (List.mem_cons_of_mem _ member)
      _ = proceed stack rest := scan_exponent stack rest (by simp) raised stops

private theorem scan_whole {whole : Bytes} (derived : Whole whole) :
    ∃ next : Expect, next ∈ [.moreDigits, .afterWhole] ∧
      scan stack .wholePart (whole ++ rest) = scan stack next rest ∧
      ∀ expect, Starts expect → scan stack expect (whole ++ rest) = scan stack next rest := by
  cases derived with
  | zero =>
    exact ⟨.afterWhole, by simp, scan_inside stack _ rfl rfl, fun _ starts => scan_open stack _ starts rfl⟩
  | @positive first more positive all =>
    have known : ascii "123456789" = [0x31, 0x32, 0x33, 0x34, 0x35, 0x36, 0x37, 0x38, 0x39] := rfl
    simp only [known, List.mem_cons, List.not_mem_nil, or_false] at positive
    have inside : insideNumber .wholePart first = .ok (some .moreDigits) := by
      rcases positive with rfl | rfl | rfl | rfl | rfl | rfl | rfl | rfl | rfl <;> rfl
    have opens : openValue stack first = .ok (stack, .moreDigits) := by
      rcases positive with rfl | rfl | rfl | rfl | rfl | rfl | rfl | rfl | rfl <;> rfl
    refine ⟨.moreDigits, by simp, ?_, ?_⟩
    · rw [← scan_digits stack rest (by simp) all]
      exact scan_inside stack _ rfl inside
    · intro expect starts
      rw [← scan_digits stack rest (by simp) all]
      exact scan_open stack _ starts opens

theorem scan_numeral {expect : Expect} (starts : Starts expect) {numeral : Bytes}
    (derived : Numeral numeral) (stops : Stops rest) :
    scan stack expect (numeral ++ rest) = proceed stack rest := by
  cases derived with
  | @of sign whole fraction exponent signs integral fractional raised =>
    obtain ⟨next, after, inside, first⟩ := scan_whole stack (fraction ++ (exponent ++ rest)) integral
    have finish := scan_fraction stack rest after fractional raised stops
    simp only [List.mem_cons, List.not_mem_nil, or_false] at signs
    simp only [List.append_assoc]
    rcases signs with rfl | rfl
    · exact (first expect starts).trans finish
    · exact (scan_open stack _ starts rfl).trans (inside.trans finish)

end

/-- How the scanner passes over the texts of a symbol. -/
def Passes : Symbol → Bytes → Prop
  | .value, bytes => ∀ stack expect rest, Starts expect → Stops rest →
      scan stack expect (bytes ++ rest) = proceed stack rest
  | .element, bytes => ∀ bracket outer expect rest, Starts expect → Stops rest →
      scan (bracket :: outer) expect (bytes ++ rest) = scan (bracket :: outer) .commaOrEnd rest
  | .elements, bytes => ∀ outer expect rest, Starts expect →
      scan (.list :: outer) expect (bytes ++ 0x5D :: rest) = proceed outer rest
  | .member, bytes => ∀ outer expect rest, StartsMember expect → Stops rest →
      scan (.object :: outer) expect (bytes ++ rest) = scan (.object :: outer) .commaOrEnd rest
  | .members, bytes => ∀ outer expect rest, StartsMember expect →
      scan (.object :: outer) expect (bytes ++ 0x7D :: rest) = proceed outer rest

private theorem between_commaOrEnd : Between .commaOrEnd := .inr (.inr (.inr rfl))

private theorem comma_stops (rest : Bytes) : Stops (0x2C :: rest) := stops_cons (by decide) rest

private theorem scan_name (outer : List Bracket) (rest : Bytes) {expect : Expect} (starts : StartsMember expect)
    {before name : Bytes} (blank : Blank before) (body : Body name) :
    scan (.object :: outer) expect (before ++ (quoted name ++ rest)) =
      scan (.object :: outer) .colon rest := by
  have named := scan_body (.object :: outer) rest true body
  rw [if_pos rfl] at named
  rw [scan_blanks _ _ (.inr (.inl starts)) blank, quoted_append, scan_between _ _ (.inr (.inl starts))]
  rcases starts with rfl | rfl <;> exact named

/-- Every text of the grammar is passed over. -/
theorem derives_passes {symbol : Symbol} {bytes : Bytes} (derived : Derives symbol bytes) :
    Passes symbol bytes := by
  induction derived with
  | word known =>
    intro stack expect rest starts stops
    simp only [List.mem_cons, List.not_mem_nil, or_false] at known
    rcases known with rfl | rfl | rfl <;>
      exact (scan_open stack _ starts rfl).trans (scan_word stack rest (List.cons_ne_nil _ _))
  | number numeral =>
    intro stack expect rest starts stops
    exact scan_numeral stack rest starts numeral stops
  | @string name body =>
    intro stack expect rest starts stops
    rw [quoted_append, scan_open stack _ starts rfl]
    exact scan_body stack rest false body
  | @emptyList blanks blank =>
    intro stack expect rest starts stops
    calc scan stack expect (ascii "[" ++ (blanks ++ ascii "]") ++ rest)
      _ = scan (.list :: stack) .itemOrEnd (blanks ++ 0x5D :: rest) := by
        rw [List.append_assoc, List.append_assoc]
        exact scan_open stack _ starts rfl
      _ = scan (.list :: stack) .itemOrEnd (0x5D :: rest) := scan_blanks _ _ (.inl (.inr rfl)) blank
      _ = proceed stack rest := scan_close stack rest (.inl (.inr rfl)) rfl
  | @list items _ ih =>
    intro stack expect rest starts stops
    calc scan stack expect (ascii "[" ++ (items ++ ascii "]") ++ rest)
      _ = scan (.list :: stack) .itemOrEnd (items ++ 0x5D :: rest) := by
        rw [List.append_assoc, List.append_assoc]
        exact scan_open stack _ starts rfl
      _ = proceed stack rest := ih stack .itemOrEnd rest (.inr rfl)
  | @emptyObject blanks blank =>
    intro stack expect rest starts stops
    calc scan stack expect (ascii "\x7b" ++ (blanks ++ ascii "\x7d") ++ rest)
      _ = scan (.object :: stack) .nameOrEnd (blanks ++ 0x7D :: rest) := by
        rw [List.append_assoc, List.append_assoc]
        exact scan_open stack _ starts rfl
      _ = scan (.object :: stack) .nameOrEnd (0x7D :: rest) :=
        scan_blanks _ _ (.inr (.inl (.inr rfl))) blank
      _ = proceed stack rest := scan_close stack rest (.inr (.inl (.inr rfl))) rfl
  | @object members _ ih =>
    intro stack expect rest starts stops
    calc scan stack expect (ascii "\x7b" ++ (members ++ ascii "\x7d") ++ rest)
      _ = scan (.object :: stack) .nameOrEnd (members ++ 0x7D :: rest) := by
        rw [List.append_assoc, List.append_assoc]
        exact scan_open stack _ starts rfl
      _ = proceed stack rest := ih stack .nameOrEnd rest (.inr rfl)
  | @element before value after before_blank _ after_blank ih =>
    intro bracket outer expect rest starts stops
    rw [List.append_assoc, List.append_assoc, scan_blanks _ _ (.inl starts) before_blank,
      ih (bracket :: outer) expect (after ++ rest) starts (stops.blank after_blank), proceed_cons,
      scan_blanks _ _ between_commaOrEnd after_blank]
  | lastElement _ ih =>
    intro outer expect rest starts
    rw [ih .list outer expect _ starts (stops_cons (by decide) _)]
    exact scan_close outer rest between_commaOrEnd rfl
  | @elements item more _ _ first_ih rest_ih =>
    intro outer expect rest starts
    have spelled : item ++ (ascii "," ++ more) ++ 0x5D :: rest = item ++ 0x2C :: (more ++ 0x5D :: rest) := by
      rw [List.append_assoc, List.append_assoc]
      rfl
    rw [spelled, first_ih .list outer expect _ starts (comma_stops _), scan_between _ _ between_commaOrEnd]
    exact rest_ih outer .value rest (.inl rfl)
  | @member before name after item before_blank body after_blank _ ih =>
    intro outer expect rest starts stops
    have spelled : before ++ (quoted name ++ (after ++ (ascii ":" ++ item))) ++ rest =
        before ++ (quoted name ++ (after ++ 0x3A :: (item ++ rest))) := by
      simp only [List.append_assoc]
      rfl
    rw [spelled, scan_name outer _ starts before_blank body,
      scan_blanks _ _ (.inr (.inr (.inl rfl))) after_blank, scan_between _ _ (.inr (.inr (.inl rfl)))]
    exact ih .object outer .value rest (.inl rfl) stops
  | lastMember _ ih =>
    intro outer expect rest starts
    rw [ih outer expect _ starts (stops_cons (by decide) _)]
    exact scan_close outer rest between_commaOrEnd rfl
  | @members item more _ _ first_ih rest_ih =>
    intro outer expect rest starts
    have spelled : item ++ (ascii "," ++ more) ++ 0x7D :: rest = item ++ 0x2C :: (more ++ 0x7D :: rest) := by
      rw [List.append_assoc, List.append_assoc]
      rfl
    rw [spelled, first_ih outer expect _ starts (comma_stops _), scan_between _ _ between_commaOrEnd]
    exact rest_ih outer .name rest (.inl rfl)

/-! A value can be cut out of a text. -/

theorem skipBlanks_append {blanks : Bytes} (blank : Blank blanks) (rest : Bytes) :
    skipBlanks (blanks ++ rest) = skipBlanks rest := by
  induction blanks with
  | nil => rfl
  | cons b more ih =>
    rw [List.cons_append, skipBlanks, List.dropWhile_cons_of_pos (isBlank_of_mem (blank b List.mem_cons_self))]
    exact ih fun c member => blank c (List.mem_cons_of_mem _ member)

theorem skipBlanks_cons {b : UInt8} (solid : isBlank b = false) (rest : Bytes) :
    skipBlanks (b :: rest) = b :: rest :=
  List.dropWhile_cons_of_neg (by simp [solid])

theorem skipBlanks_bracketed {first : UInt8} (solid : isBlank first = false) {before : Bytes} (blank : Blank before)
    (text rest : Bytes) (last : UInt8) :
    skipBlanks (before ++ ([first] ++ (text ++ [last]) ++ rest)) = first :: (text ++ last :: rest) := by
  rw [skipBlanks_append blank, List.append_assoc, List.append_assoc]
  exact skipBlanks_cons solid _

theorem skipBlanks_blank {blanks : Bytes} (blank : Blank blanks) : skipBlanks blanks = [] := by
  rw [← List.append_nil blanks, skipBlanks_append blank]
  rfl

/-- A value starts with a byte that is no blank. -/
theorem value_solid {value : Bytes} (derived : Derives .value value) :
    ∃ b more, value = b :: more ∧ isBlank b = false := by
  cases derived with
  | word known =>
    simp only [List.mem_cons, List.not_mem_nil, or_false] at known
    rcases known with rfl | rfl | rfl <;> exact ⟨_, _, rfl, rfl⟩
  | number numeral =>
    obtain ⟨signs, whole, _, _⟩ := numeral
    simp only [List.mem_cons, List.not_mem_nil, or_false] at signs
    rcases signs with rfl | rfl
    · cases whole with
      | zero => exact ⟨_, _, rfl, rfl⟩
      | positive first _ =>
        have solid : ∀ b ∈ ascii "123456789", isBlank b = false := each (by decide)
        exact ⟨_, _, rfl, solid _ first⟩
    · exact ⟨_, _, rfl, rfl⟩
  | string _ => exact ⟨_, _, rfl, rfl⟩
  | emptyList _ => exact ⟨_, _, rfl, rfl⟩
  | list _ => exact ⟨_, _, rfl, rfl⟩
  | emptyObject _ => exact ⟨_, _, rfl, rfl⟩
  | object _ => exact ⟨_, _, rfl, rfl⟩

/-- A reader finds a value in a text, whatever stands around the text. -/
def Reads {α : Type} (read : Bytes → Except Error (α × Bytes)) (text : Bytes) (a : α) : Prop :=
  ∀ before rest, Blank before → Stops rest → read (before ++ (text ++ rest)) = .ok (a, rest)

/-- A text holds one value, with blanks around it. -/
theorem readText_reads {α : Type} {read : Nat → Bytes → Except Error (α × Bytes)} {before text after : Bytes}
    {a : α} (reads : Reads (read depthLimit) text a) (before_blank : Blank before)
    (after_blank : Blank after) : readText read (before ++ (text ++ after)) = .ok a := by
  have stops : Stops after := by
    rw [← List.append_nil after]
    exact stops_nil.blank after_blank
  simp only [readText, reads before after before_blank stops, bind, Except.bind, expectEnd,
    skipBlanks_blank after_blank]
  rfl

theorem skipValue_value {value before rest : Bytes} (derived : Derives .value value) (blank : Blank before)
    (stops : Stops rest) : skipValue (before ++ (value ++ rest)) = .ok rest := by
  rw [skipValue, scan_blanks _ _ (.inl (.inl rfl)) blank]
  exact derives_passes derived [] .value rest (.inl rfl) stops

/-- A value is read as it is spelled. -/
theorem readRaw_value {value : Bytes} (derived : Derives .value value) (text : Utf8.isText value = true) :
    Reads readRaw value value := by
  intro before rest blank stops
  obtain ⟨b, more, rfl, solid⟩ := value_solid derived
  have passed : scan [] .value (b :: more ++ rest) = .ok rest :=
    derives_passes derived [] .value rest (.inl rfl) stops
  have start : skipBlanks (before ++ (b :: more ++ rest)) = b :: more ++ rest := by
    rw [skipBlanks_append blank]
    exact skipBlanks_cons solid _
  have raw : (b :: more ++ rest).take ((b :: more ++ rest).length - rest.length) = b :: more := by
    rw [List.length_append, Nat.add_sub_cancel]
    exact List.take_left
  simp only [readRaw, start, passed, bind, Except.bind, raw, text, if_true]

theorem readRawText_value {value : Bytes} (derived : Derives .value value)
    (text : Utf8.isText value = true) : readRawText value = .ok value := by
  have read := readRaw_value derived text [] [] blank_nil stops_nil
  rw [List.nil_append, List.append_nil] at read
  rw [readRawText, read]
  rfl

end Courier.Proofs.JsonScanning
