import Courier.Proofs.TextTrimming
import Courier.Version
import Mathlib.Order.Interval.Set.LinearOrder
import Mathlib.Order.Bounds.Basic

/-! Negotiation agrees on the greatest version that both sides understand. What a side understands is read off its
text by a grammar of its own, with blanks, signs and leading zeros where the reader allows them. -/

namespace Courier.Proofs.VersionNegotiation
open Version TextTrimming Text

/-! ### The grammar -/

/-- A number of 32 bits in decimal digits, after zeros and an optional sign. -/
def Numeral (n : Nat) (text : List Char) : Prop :=
  n ≤ 4294967295 ∧ ∃ sign zeros, (sign = [] ∨ sign = ['+']) ∧
    text = sign ++ (List.replicate zeros '0' ++ Nat.toDigits 10 n)

def Numbered (n : Nat) (text : List Char) : Prop := ∃ core, Padded core text ∧ Numeral n core

/-- The lowest and the highest version that a text names. The dash is the first one, since no numeral has one. -/
inductive Spans (text : String) : Nat → Nat → Prop where
  | one {n} (version : Numbered n text.toList) : Spans text n n
  | two {left right low high} (shape : text.toList = left ++ '-' :: right) (lowest : Numbered low left)
      (highest : Numbered high right) (ordered : low ≤ high) : Spans text low high

def Readable (text : String) : Prop := ∃ low high, Spans text low high

def versions (text : String) : Set Nat := {n | ∃ low high, Spans text low high ∧ n ∈ Set.Icc low high}

/-! ### Numerals -/

private theorem digitsValue_eq (digits : List Char) : digitsValue digits = Nat.ofDigitChars 10 digits 0 := by
  simp only [digitsValue, Nat.ofDigitChars, Nat.mul_comm]

private theorem digitsValue_append (front : List Char) (c : Char) :
    digitsValue (front ++ [c]) = 10 * digitsValue front + (c.toNat - '0'.toNat) := by
  simp only [digitsValue_eq, Nat.ofDigitChars_append, Nat.ofDigitChars_cons, Nat.ofDigitChars_nil]

private theorem digitsValue_numeral (zeros n : Nat) :
    digitsValue (List.replicate zeros '0' ++ Nat.toDigits 10 n) = n := by
  have nothing : Nat.ofDigitChars 10 (List.replicate zeros '0') 0 = 0 := by
    induction zeros with
    | zero => rfl
    | succ zeros ih => rw [List.replicate_succ, Nat.ofDigitChars_cons]; exact ih
  rw [digitsValue_eq, Nat.ofDigitChars_append, nothing, Nat.ofDigitChars_ten_toDigits]

private theorem toDigits_digit {c : Char} (digit : c.isDigit = true) :
    c.toNat - '0'.toNat < 10 ∧ Nat.toDigits 10 (c.toNat - '0'.toNat) = [c] := by
  have bounds := digit_bounds digit
  have zero : '0'.toNat = 48 := rfl
  have small : c.toNat - '0'.toNat < 10 := by omega
  refine ⟨small, ?_⟩
  rw [Nat.toDigits_of_lt_base small]
  congr 1
  apply Char.toNat_inj.mp
  rw [Nat.toNat_digitChar_of_lt_ten small]
  omega

private theorem exists_zeros {digits : List Char} (some : digits ≠ []) (all : ∀ c ∈ digits, c.isDigit = true) :
    ∃ zeros, digits = List.replicate zeros '0' ++ Nat.toDigits 10 (digitsValue digits) := by
  -- The induction is on the last digit, as the value is read from the left.
  induction digits using List.reverseRecOn with
  | nil => exact absurd rfl some
  | append_singleton front c ih =>
    obtain ⟨small, last⟩ := toDigits_digit (all c (by simp))
    rw [digitsValue_append]
    by_cases only : front = []
    · have nothing : digitsValue front = 0 := only ▸ rfl
      exact ⟨0, by rw [nothing, Nat.mul_zero, Nat.zero_add, last, only, List.replicate_zero]⟩
    · obtain ⟨zeros, shape⟩ := ih only fun c member => all c (List.mem_append_left _ member)
      rcases Nat.eq_zero_or_pos (digitsValue front) with nothing | positive
      · refine ⟨zeros + 1, ?_⟩
        rw [nothing, Nat.toDigits_zero] at shape
        rw [nothing, Nat.mul_zero, Nat.zero_add, last, List.replicate_succ', ← shape]
      · refine ⟨zeros, ?_⟩
        have longer := Nat.toDigits_append_toDigits (b := 10) (by decide) positive small
        rw [← longer, last, ← List.append_assoc, ← shape]

private theorem isDigit_numeral {zeros n : Nat} {c : Char}
    (member : c ∈ List.replicate zeros '0' ++ Nat.toDigits 10 n) : c.isDigit = true := by
  rcases List.mem_append.mp member with zero | digit
  · rw [List.eq_of_mem_replicate zero]
    rfl
  · exact Nat.isDigit_of_mem_toDigits (by decide) (by decide) digit

private theorem solid_digit {c : Char} (digit : c.isDigit = true) : isBlank c = false ∧ c ≠ '-' ∧ c ≠ '+' := by
  refine ⟨isBlank_digit digit, ?_, ?_⟩
  · rintro rfl
    cases digit
  · rintro rfl
    cases digit

section
variable {n : Nat} {text : List Char}

theorem Numeral.solid (numeral : Numeral n text) : ∀ c ∈ text, isBlank c = false ∧ c ≠ '-' := by
  obtain ⟨-, sign, zeros, signs, rfl⟩ := numeral
  intro c member
  rcases List.mem_append.mp member with plus | digits
  · rcases signs with rfl | rfl
    · cases plus
    · rw [List.mem_singleton.mp plus]
      decide
  · obtain ⟨solid, dash, -⟩ := solid_digit (isDigit_numeral digits)
    exact ⟨solid, dash⟩

/-- A text without the sign that a number may have. -/
def unsigned : List Char → List Char
  | '+' :: rest => rest
  | text => text

private theorem digits_ok (digits : List Char) :
    ((if digits.all Char.isDigit then
        if digitsValue digits ≤ 4294967295 then .ok (digitsValue digits) else .error .tooLarge
      else if digitsValue (digits.takeWhile Char.isDigit) ≤ 4294967295 then .error .invalidDigit
      else .error .tooLarge : Except NumberError Nat) = .ok n) ↔
    (∀ c ∈ digits, c.isDigit = true) ∧ digitsValue digits = n ∧ n ≤ 4294967295 := by
  rw [← List.all_eq_true]
  split
  next all =>
    split
    next small => simp only [Except.ok.injEq, all, true_and, iff_self_and]; rintro rfl; exact small
    next large =>
      refine ⟨nofun, ?_⟩
      rintro ⟨-, rfl, small⟩
      exact absurd small large
  next other =>
    refine ⟨?_, fun all => absurd all.1 other⟩
    split <;> nofun

private theorem readNumber_ok : readNumber text = .ok n ↔
    unsigned text ≠ [] ∧ (∀ c ∈ unsigned text, c.isDigit = true) ∧ digitsValue (unsigned text) = n ∧
      n ≤ 4294967295 := by
  rcases text with _ | ⟨c, rest⟩
  · exact ⟨nofun, fun found => absurd rfl found.1⟩
  by_cases plus : c = '+'
  · subst c
    rcases rest with _ | ⟨d, rest⟩
    · exact ⟨nofun, fun found => absurd rfl found.1⟩
    · exact (digits_ok (d :: rest)).trans (iff_and_self.mpr fun _ => List.cons_ne_nil d rest)
  · have bare : unsigned (c :: rest) = c :: rest := by simp [unsigned, plus]
    have read := digits_ok (n := n) (c :: rest)
    rw [bare, ← read]
    simp [readNumber, plus]

private theorem readNumber_iff : readNumber text = .ok n ↔ Numeral n text := by
  rw [readNumber_ok]
  constructor
  · rintro ⟨some, digits, value, small⟩
    obtain ⟨zeros, shape⟩ := exists_zeros some digits
    rw [value] at shape
    refine ⟨small, ?_⟩
    rcases text with _ | ⟨c, rest⟩
    · exact absurd rfl some
    · by_cases plus : c = '+'
      · subst c
        exact ⟨['+'], zeros, .inr rfl, congrArg _ shape⟩
      · have same : unsigned (c :: rest) = c :: rest := by simp [unsigned, plus]
        exact ⟨[], zeros, .inl rfl, same.symm.trans shape⟩
  · rintro ⟨small, sign, zeros, signs, rfl⟩
    have some : List.replicate zeros '0' ++ Nat.toDigits 10 n ≠ [] := by simp
    have bare : unsigned (sign ++ (List.replicate zeros '0' ++ Nat.toDigits 10 n)) =
        List.replicate zeros '0' ++ Nat.toDigits 10 n := by
      rcases signs with rfl | rfl
      · obtain ⟨c, rest, shape⟩ := List.exists_cons_of_ne_nil some
        have other := (solid_digit (isDigit_numeral (shape ▸ List.mem_cons_self))).2.2
        rw [List.nil_append, shape]
        simp [unsigned, other]
      · rfl
    rw [bare]
    exact ⟨some, fun c member => isDigit_numeral member, digitsValue_numeral zeros n, small⟩

private theorem readVersion_iff : readVersion text = .ok n ↔ Numbered n text := by
  rw [readVersion, readNumber_iff]
  constructor
  · intro numeral
    exact ⟨_, padded_trimChars text, numeral⟩
  · rintro ⟨core, padded, numeral⟩
    rwa [trimChars_padded (fun c member => (numeral.solid c member).1) padded]

private theorem Numbered.no_dash (numbered : Numbered n text) : '-' ∉ text := by
  obtain ⟨core, ⟨before, after, front, back, rfl⟩, numeral⟩ := numbered
  intro member
  have solid : isBlank '-' = false := rfl
  simp only [List.mem_append] at member
  rcases member with early | inside | late
  · exact absurd (front _ early) (by simp [solid])
  · exact (numeral.solid _ inside).2 rfl
  · exact absurd (back _ late) (by simp [solid])

end

/-! ### Ranges -/

def readPart (text : List Char) : Except RangeError Nat :=
  match readVersion text with
  | .ok n => .ok n
  | .error why => .error (.number why)

section
variable {text : String} {low high : Nat}

private theorem readPart_iff {n : Nat} {part : List Char} : readPart part = .ok n ↔ Numbered n part := by
  rw [← readVersion_iff, readPart]
  cases readVersion part with
  | ok m => simp only [Except.ok.injEq]
  | error why => exact ⟨nofun, nofun⟩

private theorem splitOnce_around {left : List Char} {c : Char} (first : c ∉ left) (right : List Char) :
    splitOnce c (left ++ c :: right) = some (left, right) := by
  have other : ∀ d ∈ left, (d != c) = true := fun d member => bne_iff_ne.mpr fun same => first (same ▸ member)
  simp [splitOnce, List.dropWhile_append_of_pos other, List.takeWhile_append_of_pos other]

private theorem splitOnce_absent {part : List Char} {c : Char} (absent : c ∉ part) : splitOnce c part = none := by
  have gone : part.dropWhile (· != c) = [] :=
    List.dropWhile_eq_nil_iff.mpr fun d member => bne_iff_ne.mpr fun same => absent (same ▸ member)
  rw [splitOnce, gone]

private theorem readRange_one (absent : '-' ∉ text.toList) :
    readRange text = (readPart text.toList).map fun n => (n, n) := by
  have inside : '-' ∉ trimChars text.toList := by
    intro member
    obtain ⟨before, after, -, -, shape⟩ := padded_trimChars text.toList
    exact absent (shape ▸ List.mem_append_right _ (List.mem_append_left _ member))
  have same : readPart (trimChars text.toList) = readPart text.toList := by
    rw [readPart, readVersion, trimChars_trimChars]
    rfl
  simp only [readRange, splitOnce_absent inside]
  exact congrArg _ same

private theorem readRange_two {left right : List Char} (first : '-' ∉ left) (shape : text.toList = left ++ '-' :: right) :
    readRange text = (do
      let low ← readPart left
      let high ← readPart right
      if high < low then .error (.reversed low high) else .ok (low, high)) := by
  have solid : isBlank '-' = false := rfl
  have inside : '-' ∉ left.dropWhile isBlank := fun member => first ((List.dropWhile_suffix _).subset member)
  have lower : readPart (left.dropWhile isBlank) = readPart left := by
    rw [readPart, readVersion, trimChars_dropWhile]
    rfl
  have upper : readPart (right.rdropWhile isBlank) = readPart right := by
    rw [readPart, readVersion, trimChars_rdropWhile]
    rfl
  rw [← lower, ← upper]
  simp only [readRange, shape, trimChars_around solid, splitOnce_around inside]
  rfl

private theorem spans_iff : readRange text = .ok (low, high) ↔ Spans text low high := by
  by_cases dash : '-' ∈ text.toList
  · obtain ⟨left, right, shape, first⟩ := List.eq_append_cons_of_mem dash
    rw [readRange_two first shape]
    constructor
    · intro read
      cases lower : readPart left with
      | error why =>
        rw [lower] at read
        cases read
      | ok a =>
        cases upper : readPart right with
        | error why =>
          rw [lower, upper] at read
          cases read
        | ok b =>
          simp only [lower, upper, bind, Except.bind] at read
          split at read
          next => cases read
          next ordered =>
            cases read
            exact .two shape (readPart_iff.mp lower) (readPart_iff.mp upper) (Nat.not_lt.mp ordered)
    · intro spans
      cases spans with
      | one version => exact absurd dash version.no_dash
      | two other lowest highest ordered =>
        have same := splitOnce_around first right
        rw [← shape, other, splitOnce_around lowest.no_dash] at same
        cases same
        simp only [readPart_iff.mpr lowest, readPart_iff.mpr highest, bind, Except.bind,
          if_neg (Nat.not_lt.mpr ordered)]
  · rw [readRange_one dash]
    constructor
    · intro read
      cases found : readPart text.toList with
      | error why =>
        rw [found] at read
        cases read
      | ok n =>
        rw [found] at read
        cases read
        exact .one (readPart_iff.mp found)
    · intro spans
      cases spans with
      | one version =>
        rw [readPart_iff.mpr version]
        rfl
      | two shape => exact absurd (shape ▸ List.mem_append_right _ List.mem_cons_self) dash

private theorem Spans.bounds_eq {low' high' : Nat} (spans : Spans text low high) (others : Spans text low' high') :
    low' = low ∧ high' = high := by
  have same := (spans_iff.mpr others).symm.trans (spans_iff.mpr spans)
  cases same
  exact ⟨rfl, rfl⟩

private theorem Spans.ordered (spans : Spans text low high) : low ≤ high := by
  cases spans with
  | one => exact Nat.le_refl _
  | two _ _ _ ordered => exact ordered

private theorem Numbered.small {n : Nat} {part : List Char} (numbered : Numbered n part) : n ≤ 4294967295 := by
  obtain ⟨core, -, small, -⟩ := numbered
  exact small

private theorem Spans.small (spans : Spans text low high) : high ≤ 4294967295 := by
  cases spans with
  | one version => exact version.small
  | two _ _ highest => exact highest.small

private theorem Spans.versions_eq (spans : Spans text low high) : versions text = Set.Icc low high := by
  ext n
  constructor
  · rintro ⟨low', high', others, inside⟩
    obtain ⟨rfl, rfl⟩ := spans.bounds_eq others
    exact inside
  · intro inside
    exact ⟨low, high, spans, inside⟩

private theorem spans_toString {n : Nat} (small : n ≤ 4294967295) : Spans (toString n) n n := by
  refine .one ⟨_, padded_self _, small, [], 0, .inl rfl, ?_⟩
  rw [Nat.toString_eq_repr, Nat.toList_repr]
  rfl

end

/-! ### Agreement -/

/-- All that can come of a negotiation. -/
theorem negotiate_eq (first second : String) : negotiate first second =
    match readRange first, readRange second with
    | .error why, _ => .error (.invalidRange .local first why)
    | .ok _, .error why => .error (.invalidRange .remote second why)
    | .ok (low, high), .ok (low', high') =>
      if min high high' < max low low' then .error (.noCompatibleVersion first second)
      else .ok (toString (min high high')) := by
  simp only [negotiate, bind, Except.bind]
  cases readRange first with
  | error why => rfl
  | ok bounds =>
    cases readRange second with
    | error why => rfl
    | ok others => rfl

/-- What a negotiation may say, by what the two sides understand. -/
inductive Outcome (first second : String) : Except ProtocolError String → Prop where
  | agreed {n} (readable : Readable first) (others : Readable second)
      (greatest : IsGreatest (versions first ∩ versions second) n) : Outcome first second (.ok (toString n))
  | apart (readable : Readable first) (others : Readable second)
      (disjoint : versions first ∩ versions second = ∅) :
      Outcome first second (.error (.noCompatibleVersion first second))
  | unreadable (never : ¬Readable first) (why : RangeError) :
      Outcome first second (.error (.invalidRange .local first why))
  | otherUnreadable (readable : Readable first) (never : ¬Readable second) (why : RangeError) :
      Outcome first second (.error (.invalidRange .remote second why))

private theorem not_readable {text : String} {why : RangeError} (refused : readRange text = .error why) :
    ¬Readable text := by
  rintro ⟨low, high, spans⟩
  rw [spans_iff.mpr spans] at refused
  cases refused

section
variable {first second version : String}

private theorem negotiate_outcome (first second : String) : Outcome first second (negotiate first second) := by
  rw [negotiate_eq]
  cases ours : readRange first with
  | error why => exact .unreadable (not_readable ours) why
  | ok bounds =>
    have spans := spans_iff.mp ours
    cases theirs : readRange second with
    | error why => exact .otherUnreadable ⟨_, _, spans⟩ (not_readable theirs) why
    | ok bounds' =>
      have others := spans_iff.mp theirs
      have common : versions first ∩ versions second =
          Set.Icc (max bounds.1 bounds'.1) (min bounds.2 bounds'.2) := by
        rw [spans.versions_eq, others.versions_eq]
        exact Set.Icc_inter_Icc
      dsimp only
      split
      next apart =>
        refine .apart ⟨_, _, spans⟩ ⟨_, _, others⟩ ?_
        rw [common]
        exact Set.Icc_eq_empty (Nat.not_le.mpr apart)
      next meet =>
        refine .agreed ⟨_, _, spans⟩ ⟨_, _, others⟩ ?_
        rw [common]
        exact isGreatest_Icc (Nat.not_lt.mp meet)

private theorem negotiate_ok_iff : negotiate first second = .ok version ↔
    Readable first ∧ Readable second ∧
      ∃ n, IsGreatest (versions first ∩ versions second) n ∧ version = toString n := by
  have outcome := negotiate_outcome first second
  generalize negotiate first second = result at outcome
  cases outcome with
  | @agreed n readable others greatest =>
    constructor
    · intro same
      cases same
      exact ⟨readable, others, n, greatest, rfl⟩
    · rintro ⟨-, -, m, found, rfl⟩
      rw [greatest.unique found]
  | apart readable others disjoint =>
    refine ⟨nofun, ?_⟩
    rintro ⟨-, -, n, greatest, -⟩
    exact absurd greatest.1 (Set.eq_empty_iff_forall_notMem.mp disjoint n)
  | unreadable never => exact ⟨nofun, fun agreed => absurd agreed.1 never⟩
  | otherUnreadable readable never => exact ⟨nofun, fun agreed => absurd agreed.2.1 never⟩

private theorem negotiate_comm (agreed : negotiate first second = .ok version) : negotiate second first = .ok version := by
  obtain ⟨readable, others, n, greatest, same⟩ := negotiate_ok_iff.mp agreed
  rw [Set.inter_comm] at greatest
  exact negotiate_ok_iff.mpr ⟨others, readable, n, greatest, same⟩

private theorem versions_small {text : String} {n : Nat} (member : n ∈ versions text) : n ≤ 4294967295 := by
  obtain ⟨low, high, spans, inside⟩ := member
  exact Nat.le_trans inside.2 spans.small

private theorem negotiate_again {text : String} {n : Nat} (member : n ∈ versions text) :
    negotiate (toString n) text = .ok (toString n) := by
  have alone := spans_toString (versions_small member)
  obtain ⟨low, high, spans, -⟩ := id member
  refine negotiate_ok_iff.mpr ⟨⟨n, n, alone⟩, ⟨low, high, spans⟩, n, ?_, rfl⟩
  rw [alone.versions_eq, Set.Icc_self]
  exact ⟨⟨rfl, member⟩, fun m found => Nat.le_of_eq found.1⟩

private theorem negotiate_apart_iff {a b : String} :
    negotiate first second = .error (.noCompatibleVersion a b) ↔ (a = first ∧ b = second) ∧
      Readable first ∧ Readable second ∧ versions first ∩ versions second = ∅ := by
  have outcome := negotiate_outcome first second
  generalize negotiate first second = result at outcome
  cases outcome with
  | agreed readable others greatest =>
    refine ⟨nofun, ?_⟩
    rintro ⟨-, -, -, disjoint⟩
    exact absurd greatest.1 (Set.eq_empty_iff_forall_notMem.mp disjoint _)
  | apart readable others disjoint =>
    constructor
    · intro same
      cases same
      exact ⟨⟨rfl, rfl⟩, readable, others, disjoint⟩
    · rintro ⟨⟨rfl, rfl⟩, -⟩
      rfl
  | unreadable never => exact ⟨nofun, fun told => absurd told.2.1 never⟩
  | otherUnreadable readable never => exact ⟨nofun, fun told => absurd told.2.2.1 never⟩

private theorem negotiate_refused_iff {side : Side} {text : String} :
    (∃ why, negotiate first second = .error (.invalidRange side text why)) ↔
      (side = .local ∧ text = first ∧ ¬Readable first) ∨
      (side = .remote ∧ text = second ∧ Readable first ∧ ¬Readable second) := by
  have outcome := negotiate_outcome first second
  generalize negotiate first second = result at outcome
  cases outcome with
  | agreed readable others => simp [readable, others]
  | apart readable others => simp [readable, others]
  | unreadable never => simp [never, eq_comm]
  | otherUnreadable readable never => simp [readable, never, eq_comm]

/-- Two sides agree on the greatest version that both understand, whoever asks, and what they have agreed on stands
against either of them. Otherwise it is told which text is no range, or that no version is in both. -/
theorem agrees_on_greatest (first second : String) :
    (∀ version, negotiate first second = .ok version ↔ Readable first ∧ Readable second ∧
      ∃ n, IsGreatest (versions first ∩ versions second) n ∧ version = toString n) ∧
    ((∃ version, negotiate first second = .ok version) ↔ Readable first ∧ Readable second ∧
      (versions first ∩ versions second).Nonempty) ∧
    (∀ version, negotiate first second = .ok version → negotiate second first = .ok version ∧
      ∀ text ∈ [first, second], negotiate version text = .ok version ∧ negotiate text version = .ok version) ∧
    (∀ a b, negotiate first second = .error (.noCompatibleVersion a b) ↔ (a = first ∧ b = second) ∧
      Readable first ∧ Readable second ∧ versions first ∩ versions second = ∅) ∧
    ∀ side text, (∃ why, negotiate first second = .error (.invalidRange side text why)) ↔
      (side = .local ∧ text = first ∧ ¬Readable first) ∨
      (side = .remote ∧ text = second ∧ Readable first ∧ ¬Readable second) := by
  refine ⟨fun version => negotiate_ok_iff, ⟨?_, ?_⟩, ?_, fun a b => negotiate_apart_iff,
    fun side text => negotiate_refused_iff⟩
  · rintro ⟨version, agreed⟩
    obtain ⟨readable, others, n, greatest, -⟩ := negotiate_ok_iff.mp agreed
    exact ⟨readable, others, n, greatest.1⟩
  · rintro ⟨readable, others, n, common⟩
    have outcome := negotiate_outcome first second
    generalize negotiate first second = result at outcome
    cases outcome with
    | agreed => exact ⟨_, rfl⟩
    | apart _ _ disjoint => exact absurd common (Set.eq_empty_iff_forall_notMem.mp disjoint n)
    | unreadable never => exact absurd readable never
    | otherUnreadable _ never => exact absurd others never
  · intro version agreed
    obtain ⟨-, -, n, greatest, rfl⟩ := negotiate_ok_iff.mp agreed
    refine ⟨negotiate_comm agreed, ?_⟩
    intro text either
    have member : n ∈ versions text := by
      rcases List.mem_pair.mp either with rfl | rfl
      · exact greatest.1.1
      · exact greatest.1.2
    have again := negotiate_again member
    exact ⟨again, negotiate_comm again⟩

/-- Blanks, signs and zeros are no part of what is agreed on. -/
theorem agrees_on_greatest_ornate : negotiate " +01 - 3\n" "002-+5" = .ok "3" ∧
    negotiate "002-+5" " +01 - 3\n" = .ok "3" ∧ negotiate "3" " +01 - 3\n" = .ok "3" := by
  have agreed : negotiate " +01 - 3\n" "002-+5" = .ok "3" := by decide +kernel
  obtain ⟨-, -, settled, -⟩ := agrees_on_greatest " +01 - 3\n" "002-+5"
  obtain ⟨swapped, against⟩ := settled "3" agreed
  exact ⟨agreed, swapped, (against _ List.mem_cons_self).1⟩

end

end Courier.Proofs.VersionNegotiation
