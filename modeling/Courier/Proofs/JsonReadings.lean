import Courier.Proofs.JsonDuplicates
import Courier.Proofs.JsonObjects
import Mathlib.Data.List.Induction

/-! What readers accept. A string, an integer or a raw value is read from nothing but its spellings in the
grammar, and a record from nothing but an object or a list of its members. Together with the completeness of
the readers this tells exactly which texts are read. -/

namespace Courier.Proofs.JsonReadings
open Json JsonGrammar JsonScanning JsonRemainders JsonAcceptance JsonStrings JsonIntegers JsonRecords JsonObjects
  JsonOrigins JsonDuplicates
open Utf8Decoding (encodeChar_cons)

/-! ### Strings -/

/-- A string is taken byte by byte where it stands for itself, and otherwise escape by escape. -/
inductive Pieces : Bytes → Bytes → Prop where
  | nil : Pieces [] []
  | byte {b : UInt8} {body spelled : Bytes} : 0x20 ≤ b → b ≠ 0x22 → b ≠ 0x5C → Pieces body spelled →
      Pieces (b :: body) (b :: spelled)
  | escape {source body spelled : Bytes} {c : Char} :
      (∀ body text, Spells body text → Spells (source ++ body) (c :: text)) → Pieces body spelled →
      Pieces (source ++ body) (Utf8.encodeChar c ++ spelled)

/-- Only bytes that stand for themselves go on with a character. -/
theorem Pieces.tails {tails rest body : Bytes} (pieces : Pieces body (tails ++ rest))
    (all : ∀ b ∈ tails, Utf8.isTail b = true) : ∃ after, body = tails ++ after ∧ Pieces after rest := by
  induction tails generalizing body with
  | nil => exact ⟨body, rfl, pieces⟩
  | cons t tails ih =>
    obtain ⟨first, all⟩ := List.forall_mem_cons.mp all
    generalize whole : t :: tails ++ rest = spelled at pieces
    cases pieces with
    | nil => cases whole
    | byte _ _ _ others =>
      cases whole
      obtain ⟨after, rfl, left⟩ := ih others all
      exact ⟨after, rfl, left⟩
    | @escape source body spelled c _ _ =>
      obtain ⟨lead, more, shape, starts, _⟩ := encodeChar_cons c
      rw [shape] at whole
      rw [← (List.cons.inj whole).1, first] at starts
      cases starts

/-- Pieces that together are the encoding of a text spell it. -/
theorem Pieces.spells {body : Bytes} {text : List Char} (pieces : Pieces body (Utf8.encode text)) :
    Spells body text := by
  induction text generalizing body with
  | nil =>
    generalize none : Utf8.encode [] = spelled at pieces
    cases pieces with
    | nil => exact .nil
    | byte _ _ _ _ => cases none
    | @escape _ _ _ c _ _ =>
      obtain ⟨lead, more, shape, _⟩ := encodeChar_cons c
      rw [shape] at none
      cases none
  | cons c text ih =>
    have encoded : Utf8.encode (c :: text) = Utf8.encodeChar c ++ Utf8.encode text := List.flatMap_cons
    rw [encoded] at pieces
    generalize whole : Utf8.encodeChar c ++ Utf8.encode text = spelled at pieces
    cases pieces with
    | nil =>
      obtain ⟨lead, more, shape, _⟩ := encodeChar_cons c
      rw [shape] at whole
      cases whole
    | @byte b body spelled printable quote backslash others =>
      obtain ⟨lead, more, shape, _, all⟩ := encodeChar_cons c
      rw [shape] at whole
      cases whole
      obtain ⟨after, rfl, left⟩ := others.tails all
      have plain : 0x20 ≤ c.toNat ∧ c ≠ '"' ∧ c ≠ '\\' := by
        by_cases ascii : c.toNat < 0x80
        · rw [Utf8Decoding.encodeChar_ascii ascii] at shape
          cases shape
          rw [UInt8.le_iff_toNat_le, UInt8.toNat_ofNat_of_lt' (Nat.lt_trans ascii (by decide))] at printable
          refine ⟨printable, ?_, ?_⟩
          · rintro rfl
            exact quote rfl
          · rintro rfl
            exact backslash rfl
        · refine ⟨by omega, ?_, ?_⟩
          · rintro rfl
            exact ascii (by decide)
          · rintro rfl
            exact ascii (by decide)
      have spelled := Spells.plain plain.1 plain.2.1 plain.2.2 (ih left)
      rwa [shape] at spelled
    | @escape source body spelled other extends_ pieces =>
      have first := congrArg Utf8.decodeChar? whole
      rw [Utf8Decoding.decodeChar?_encodeChar, Utf8Decoding.decodeChar?_encodeChar] at first
      cases first
      exact extends_ _ _ (ih pieces)

private theorem escape_of_escaped {e b : UInt8} (known : escaped? e = some b) :
    ∃ c, (e, c) ∈ escapes ∧ Utf8.encodeChar c = [b] := by
  have all : ∀ entry ∈ escapes, ∃ b, escaped? entry.1 = some b ∧ Utf8.encodeChar entry.2 = [b] := by decide
  have listed : e ∈ escapes.map Prod.fst := mem_of_escaped (by rw [known]; rfl)
  obtain ⟨⟨letter, c⟩, member, rfl⟩ := List.mem_map.mp listed
  obtain ⟨other, same, encoded⟩ := all _ member
  rw [known] at same
  cases same
  exact ⟨c, member, encoded⟩

private theorem whole_of_unit {n : Nat} (kind : Unit16.of n = .whole) : n < 0xD800 ∨ 0xE000 ≤ n := by
  unfold Unit16.of at kind
  split at kind
  next => cases kind
  next notLead =>
    split at kind
    next => cases kind
    next notTrail =>
      simp only [Bool.and_eq_true, decide_eq_true_eq] at notLead notTrail
      omega

private theorem lead_of_unit {n : Nat} (kind : Unit16.of n = .lead) : 0xD800 ≤ n ∧ n < 0xDC00 := by
  unfold Unit16.of at kind
  split at kind
  next lead => simpa using lead
  next => split at kind <;> cases kind

private theorem trail_of_unit {n : Nat} (kind : Unit16.of n = .trail) : 0xDC00 ≤ n ∧ n < 0xE000 := by
  unfold Unit16.of at kind
  split at kind
  next => cases kind
  next =>
    split at kind
    next trail => simpa using trail
    next => cases kind

/-- A string is read up to the quote that ends it, piece by piece. -/
theorem stringBytes_pieces {bytes done result rest : Bytes} (read : stringBytes bytes done = .ok (result, rest)) :
    ∃ body spelled, bytes = body ++ 0x22 :: rest ∧ Pieces body spelled ∧ result = done.reverse ++ spelled := by
  have grown (c : Char) (done spelled : Bytes) :
      ((Utf8.encodeChar c).reverse ++ done).reverse ++ spelled =
        done.reverse ++ (Utf8.encodeChar c ++ spelled) := by
    simp
  fun_induction stringBytes bytes done
  all_goals try cases read
  case case2 => exact ⟨[], [], rfl, .nil, (List.append_nil _).symm⟩
  case case5 a b c d more done n unit kind ih =>
    obtain ⟨body, spelled, rfl, pieces, same⟩ := ih read
    refine ⟨ascii "\\u" ++ [a, b, c, d] ++ body, _, rfl, .escape ?_ pieces, same.trans (grown _ _ _)⟩
    intro body text spelled
    exact @Spells.unit [a, b, c, d] body n text unit (whole_of_unit kind) spelled
  case case8 a b c d done high lead isLead e f g h more low trail isTrail n ih =>
    obtain ⟨body, spelled, rfl, pieces, same⟩ := ih read
    obtain ⟨above, below⟩ := lead_of_unit isLead
    obtain ⟨least, most⟩ := trail_of_unit isTrail
    refine ⟨ascii "\\u" ++ [a, b, c, d] ++ (ascii "\\u" ++ [e, f, g, h]) ++ body, _, rfl, .escape ?_ pieces,
      same.trans (grown _ _ _)⟩
    intro body text spelled
    have first : unit? [a, b, c, d] = some (0xD800 + (high - 0xD800)) := by
      rw [Nat.add_sub_cancel' above]
      exact lead
    have second : unit? [e, f, g, h] = some (0xDC00 + (low - 0xDC00)) := by
      rw [Nat.add_sub_cancel' least]
      exact trail
    exact .pair first second (by omega) (by omega) spelled
  case case15 e more done _ _ b known ih =>
    obtain ⟨body, spelled, rfl, pieces, same⟩ := ih read
    obtain ⟨c, member, encoded⟩ := escape_of_escaped known
    refine ⟨ascii "\\" ++ [e] ++ body, Utf8.encodeChar c ++ spelled, rfl, .escape ?_ pieces, ?_⟩
    · intro body text spelled
      exact .escape member spelled
    · rw [same, encoded, List.reverse_cons, List.append_assoc]
  case case18 b more done quote last _ _ escape printable ih =>
    obtain ⟨body, spelled, rfl, pieces, same⟩ := ih read
    have other : b ≠ 0x5C := by
      intro backslash
      generalize shape : body ++ 0x22 :: rest = left at last escape
      cases left with
      | nil => exact last backslash rfl
      | cons e left => exact escape e left backslash rfl
    refine ⟨b :: body, b :: spelled, rfl, .byte (UInt8.not_lt.mp printable) quote other pieces, ?_⟩
    rw [same, List.reverse_cons, List.append_assoc]
    rfl

/-- A string is read from nothing but its spellings. -/
theorem readString_spelled {bytes rest : Bytes} {s : String} (read : readString bytes = .ok (s, rest)) :
    ∃ body, bytes = body ++ 0x22 :: rest ∧ Spells body s.toList := by
  obtain ⟨⟨spelled, left⟩, found, decoded⟩ := ok_of_bind read
  obtain ⟨body, pieced, rfl, pieces, same⟩ := stringBytes_pieces found
  rw [List.reverse_nil, List.nil_append] at same
  subst same
  dsimp only at decoded
  split at decoded
  next text known =>
    cases decoded
    refine ⟨body, rfl, ?_⟩
    obtain ⟨chars, decoded, rfl⟩ := Option.map_eq_some_iff.mp known
    have wellFormed : Utf8.isText spelled = true := by
      rw [← Utf8.isSome_decode?, decoded]
      rfl
    obtain ⟨s, rfl⟩ := Utf8Decoding.ofString_of_isText wellFormed
    rw [Utf8.ofString, Utf8Decoding.decode?_encode] at decoded
    cases decoded
    rw [String.toList_ofList]
    exact pieces.spells
  next => cases decoded

/-! ### Integers -/

private theorem digit_byte {b : UInt8} (digit : isDigit b = true) : ∃ d < 10, b = UInt8.ofNat (0x30 + d) := by
  have all : ∀ b ∈ ascii "0123456789", ∃ d < 10, b = UInt8.ofNat (0x30 + d) := each (by decide)
  exact all b ((isDigit_iff b).mp digit)

private theorem writeNat_digit {n d : Nat} (positive : 0 < n) (digit : d < 10) :
    writeNat (n * 10 + d) = writeNat n ++ [UInt8.ofNat (0x30 + d)] := by
  have last : ∀ d < 10, Utf8.encode [Nat.digitChar d] = [UInt8.ofNat (0x30 + d)] := by decide
  have whole : (n * 10 + d) / 10 = n := by omega
  have rest : (n * 10 + d) % 10 = d := by omega
  rw [writeNat, Nat.toDigits_of_base_le (by decide) (by omega), whole, rest, Utf8Decoding.encode_append,
    last d digit]
  rfl

private theorem whole_written {whole : Bytes} (derived : Whole whole) : whole = writeNat (digitsValue whole) := by
  cases derived with
  | zero => decide
  | @positive first more leading digits =>
    have large : ∀ b ∈ ascii "123456789", 0 < digitsValue [b] ∧ [b] = writeNat (digitsValue [b]) :=
      each (by decide)
    -- The induction adds the digits after the first one at the end.
    have written : 0 < digitsValue (first :: more) ∧ first :: more = writeNat (digitsValue (first :: more)) := by
      induction more using List.reverseRecOn with
      | nil => exact large first leading
      | append_singleton more last ih =>
        obtain ⟨positive, same⟩ := ih fun b member => digits b (List.mem_append_left _ member)
        obtain ⟨d, small, rfl⟩ := digit_byte ((isDigit_iff last).mpr (digits last (by simp)))
        have value :
            digitsValue (first :: (more ++ [UInt8.ofNat (0x30 + d)])) = digitsValue (first :: more) * 10 + d := by
          have byte : ∀ d < 10, (UInt8.ofNat (0x30 + d)).toNat - 0x30 = d := by decide
          rw [← List.cons_append, digitsValue, List.foldl_append, List.foldl_cons, List.foldl_nil, byte d small]
          rfl
        rw [value, writeNat_digit positive small, ← same]
        exact ⟨by omega, rfl⟩
    exact written.2

private theorem takeDigits_all {digits : List UInt8} {start taken : Nat} (none : (takeDigits start taken digits).2.2 = 0) :
    (takeDigits start taken digits).1 = digits.foldl (fun n b => n * 10 + (b.toNat - 0x30)) start := by
  induction digits generalizing start taken with
  | nil => rfl
  | cons b digits ih =>
    rw [takeDigits] at none ⊢
    split
    next fits =>
      rw [if_pos fits] at none
      rw [ih none, List.foldl_cons]
    next large =>
      rw [if_neg large] at none
      cases none

private theorem readTail_value {negative : Bool} {n extra : Nat} {bytes rest : Bytes} {i : Int}
    (read : readTail negative n extra bytes = .ok (.integer i, rest)) :
    extra = 0 ∧ if negative then 0 < n ∧ i = -n else i = n := by
  obtain ⟨-, outside⟩ := readTail_integer read
  unfold readTail at read
  split at read
  next => exact absurd (by decide) (outside 0x2E rfl)
  next => exact absurd (by decide) (outside 0x65 rfl)
  next => exact absurd (by decide) (outside 0x45 rfl)
  next =>
    split at read
    next =>
      dsimp only at read
      split at read
      next => exact (readExponent_double read).elim
      next => exact (readExponent_double read).elim
      next => split at read <;> cases read
    next none =>
      have none : extra = 0 := by simpa using none
      split at read
      next plus =>
        obtain rfl : negative = false := by simpa using plus
        cases read
        exact ⟨none, rfl⟩
      next minus =>
        obtain rfl : negative = true := by simpa using minus
        split at read
        next => cases read
        next nonzero =>
          simp only [Bool.or_eq_true, decide_eq_true_eq, not_or] at nonzero
          cases read
          exact ⟨none, Nat.pos_of_ne_zero nonzero.1, rfl⟩

/-- An integer is read from nothing but the digits that it is written in, after a minus sign if it is below
zero. -/
theorem readNumber_written {negative : Bool} {bytes rest : Bytes} {i : Int}
    (read : readNumber negative bytes = .ok (.integer i, rest)) :
    ∃ n, bytes = writeNat n ++ rest ∧ if negative then 0 < n ∧ i = -n else i = n := by
  obtain ⟨whole, derived, rfl, stops⟩ := readNumber_integer read
  refine ⟨digitsValue whole, by rw [← whole_written derived], ?_⟩
  cases derived with
  | zero =>
    have tail := readNumber_writeNat stops negative (Nat.zero_le maxWord64)
    exact (readTail_value (tail.symm.trans read)).2
  | @positive first more leading digits =>
    have some : ∀ b ∈ ascii "123456789", b ≠ 0x30 ∧ isDigit b = true := each (by decide)
    obtain ⟨nonzero, digit⟩ := some first leading
    obtain ⟨taken, dropped⟩ := span_writeNat stops (digitsValue (first :: more))
    rw [← whole_written (.positive leading digits), List.cons_append] at taken dropped
    simp only [List.cons_append, readNumber, nonzero, if_false, digit, if_true, taken, dropped] at read
    obtain ⟨none, value⟩ := readTail_value read
    rw [takeDigits_all none] at value
    exact value

/-! ### Values -/

/-- What is read is one of the spellings of what it is read as, after blanks. -/
def Yields {α : Type} (read : Bytes → Except Error (α × Bytes)) (spelled : Bytes → α → Prop) : Prop :=
  ∀ bytes a rest, read bytes = .ok (a, rest) →
    ∃ blanks text, Blank blanks ∧ spelled text a ∧ bytes = blanks ++ (text ++ rest)

theorem text_yields (depth : Nat) :
    Yields (Codec.text.read depth) fun text s => ∃ body, Spells body s.toList ∧ text = quoted body := by
  intro bytes s rest read
  obtain ⟨blanks, blank, same, -⟩ := skipBlanks_cases bytes
  simp only [Codec.text, atValue] at read
  split at read
  next => cases read
  next b left start =>
    split at read
    next quote =>
      obtain ⟨body, rfl, spelled⟩ := readString_spelled read
      refine ⟨blanks, quoted body, blank, ⟨body, spelled, rfl⟩, ?_⟩
      rw [same, start, quoted_append, quote]
    next => cases read

theorem integer_yields (depth : Nat) (low high : Int) (expected : String) :
    Yields ((Codec.integer low high expected).read depth) fun text i =>
      text = writeInt i ∧ low ≤ i ∧ i ≤ high := by
  intro bytes i rest read
  obtain ⟨⟨n, left⟩, found, read⟩ := ok_of_bind read
  obtain ⟨rfl, rfl, bounds⟩ : n = .integer i ∧ left = rest ∧ low ≤ i ∧ i ≤ high := by
    cases n with
    | integer j =>
      dsimp only at read
      split at read
      next bounds =>
        cases read
        exact ⟨rfl, rfl, by simpa using bounds⟩
      next => cases read
    | double x => cases read
  obtain ⟨blanks, blank, same, -⟩ := skipBlanks_cases bytes
  refine ⟨blanks, writeInt i, blank, ⟨rfl, bounds⟩, ?_⟩
  rw [same]
  simp only [Codec.readNumeric, atValue] at found
  split at found
  next => cases found
  next b more start =>
    rw [start]
    congr 1
    split at found
    next minus =>
      obtain ⟨n, rfl, positive, rfl⟩ := readNumber_written found
      rw [writeInt, if_pos (by omega), Int.natAbs_neg, Int.natAbs_natCast, minus]
      rfl
    next =>
      split at found
      next =>
        obtain ⟨n, same, value⟩ := readNumber_written found
        obtain rfl : i = n := value
        rw [same, writeInt, if_neg (by omega), Int.toNat_natCast]
      next => cases found

theorem raw_yields : Yields readRaw fun text raw => text = raw ∧ Derives .value raw ∧ Utf8.isText raw = true := by
  intro bytes raw rest read
  obtain ⟨derived, text, blanks, blank, same⟩ := readRaw_derives read
  exact ⟨blanks, raw, blank, ⟨rfl, derived, text⟩, same⟩

/-- Nothing but a value is passed over. -/
theorem skipValue_derives {bytes rest : Bytes} (passed : skipValue bytes = .ok rest) :
    ∃ blanks value, Blank blanks ∧ Derives .value value ∧ bytes = blanks ++ (value ++ rest) := by
  obtain ⟨blanks, blank, same, solid⟩ := skipBlanks_cases bytes
  rw [skipValue_skipBlanks] at passed
  obtain ⟨value, shape, completes⟩ := scan_completes passed
  rw [shape] at solid same
  exact ⟨blanks, value, blank, value_of_completes solid completes, same⟩

end Courier.Proofs.JsonReadings
