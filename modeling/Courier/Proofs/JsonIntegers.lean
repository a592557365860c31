import Courier.Json.Codec
import Courier.Proofs.JsonScanning
import Courier.Proofs.TextTrimming
import Courier.Proofs.Utf8Decoding

/-! Integers are written in decimal digits, and read back from them as long as they fit into 64 bits. -/

namespace Courier.Proofs.JsonIntegers
open Json JsonGrammar JsonScanning Utf8Decoding
open TextTrimming (digit_bounds)

private theorem encode_cons {c : Char} (digit : c.isDigit = true) (text : List Char) :
    Utf8.encode (c :: text) = UInt8.ofNat c.toNat :: Utf8.encode text := by
  have bounds := digit_bounds digit
  have one : Utf8.encodeChar c = [UInt8.ofNat c.toNat] := encodeChar_ascii (by omega)
  simp [Utf8.encode, one]

private theorem byte_toNat {c : Char} (digit : c.isDigit = true) :
    (UInt8.ofNat c.toNat).toNat = c.toNat := by
  have bounds := digit_bounds digit
  exact UInt8.toNat_ofNat_of_lt' (Nat.lt_of_le_of_lt bounds.2 (by decide))

private theorem isDigit_byte {c : Char} (digit : c.isDigit = true) :
    isDigit (UInt8.ofNat c.toNat) = true := by
  have bounds := digit_bounds digit
  simp only [isDigit, Bool.and_eq_true, decide_eq_true_eq, UInt8.le_iff_toNat_le, byte_toNat digit]
  exact bounds

theorem writeNat_isDigit (n : Nat) : ∀ b ∈ writeNat n, isDigit b = true := by
  have all : ∀ c ∈ Nat.toDigits 10 n, c.isDigit = true := fun c member =>
    Nat.isDigit_of_mem_toDigits (by decide) (by decide) member
  intro b member
  rw [writeNat] at member
  generalize Nat.toDigits 10 n = text at all member
  induction text with
  | nil => cases member
  | cons c text ih =>
    rw [encode_cons (all c List.mem_cons_self)] at member
    rcases List.mem_cons.mp member with rfl | later
    · exact isDigit_byte (all c List.mem_cons_self)
    · exact ih (fun c member => all c (List.mem_cons_of_mem _ member)) later

private theorem le_ofDigitChars (text : List Char) (start : Nat) :
    start ≤ Nat.ofDigitChars 10 text start := by
  induction text generalizing start with
  | nil => simp
  | cons c text ih =>
    rw [Nat.ofDigitChars_cons]
    have := ih (10 * start + (c.toNat - '0'.toNat))
    omega

private theorem takeDigits_encode {text : List Char} (all : ∀ c ∈ text, c.isDigit = true)
    (start taken : Nat) (fits : Nat.ofDigitChars 10 text start ≤ maxWord64) :
    takeDigits start taken (Utf8.encode text) =
      (Nat.ofDigitChars 10 text start, taken + text.length, 0) := by
  induction text generalizing start taken with
  | nil => simp [Utf8.encode, takeDigits]
  | cons c text ih =>
    have digit := all c List.mem_cons_self
    have next : start * 10 + ((UInt8.ofNat c.toNat).toNat - 0x30) = 10 * start + (c.toNat - '0'.toNat) := by
      rw [byte_toNat digit, Nat.mul_comm]
      rfl
    rw [Nat.ofDigitChars_cons] at fits ⊢
    have small := Nat.le_trans (le_ofDigitChars text _) fits
    rw [encode_cons digit, takeDigits]
    simp only [next]
    rw [if_pos small, ih (fun c member => all c (List.mem_cons_of_mem _ member)) _ _ fits]
    simp only [List.length_cons, Prod.mk.injEq, true_and, and_true]
    omega

private theorem takeDigits_writeNat {n : Nat} (fits : n ≤ maxWord64) :
    takeDigits 0 0 (writeNat n) = (n, (Nat.toDigits 10 n).length, 0) := by
  have all : ∀ c ∈ Nat.toDigits 10 n, c.isDigit = true := fun c member =>
    Nat.isDigit_of_mem_toDigits (by decide) (by decide) member
  have value : Nat.ofDigitChars 10 (Nat.toDigits 10 n) 0 = n := Nat.ofDigitChars_ten_toDigits
  have taken := takeDigits_encode all 0 0 (by rw [value]; exact fits)
  rw [value, Nat.zero_add] at taken
  exact taken

private theorem writeNat_small : ∀ n < 10, writeNat n = [UInt8.ofNat (0x30 + n)] := by decide

private theorem writeNat_large {n : Nat} (large : 10 ≤ n) :
    ∃ last, writeNat n = writeNat (n / 10) ++ last := by
  rw [writeNat, Nat.toDigits_of_base_le (by decide) large, encode_append]
  exact ⟨_, rfl⟩

/-- The first digit is no zero, unless it is the only one. -/
theorem writeNat_cons (n : Nat) :
    ∃ first more, writeNat n = first :: more ∧ (first = 0x30 → n = 0 ∧ more = []) := by
  induction n using Nat.strongRecOn with
  | _ n ih =>
    by_cases small : n < 10
    · refine ⟨_, _, writeNat_small n small, ?_⟩
      have zero : ∀ n < 10, UInt8.ofNat (0x30 + n) = 0x30 → n = 0 := by decide
      exact fun same => ⟨zero n small same, rfl⟩
    · obtain ⟨last, longer⟩ := writeNat_large (Nat.le_of_not_lt small)
      obtain ⟨first, more, shape, leading⟩ := ih (n / 10) (by omega)
      refine ⟨first, more ++ last, by rw [longer, shape, List.cons_append], ?_⟩
      intro same
      have := (leading same).1
      omega

section
variable {rest : Bytes} (stops : Stops rest)
include stops

theorem span_writeNat (n : Nat) :
    (writeNat n ++ rest).takeWhile isDigit = writeNat n ∧ (writeNat n ++ rest).dropWhile isDigit = rest := by
  have ended : rest.takeWhile isDigit = [] ∧ rest.dropWhile isDigit = rest := by
    cases rest with
    | nil => exact ⟨rfl, rfl⟩
    | cons b more =>
      have other := not_digit_of_stops stops rfl
      exact ⟨List.takeWhile_cons_of_neg (by simp [other]), List.dropWhile_cons_of_neg (by simp [other])⟩
  constructor
  · rw [List.takeWhile_append_of_pos (writeNat_isDigit n), ended.1, List.append_nil]
  · rw [List.dropWhile_append_of_pos (writeNat_isDigit n), ended.2]

private theorem readTail_stops (negative : Bool) {n : Nat}
    (fits : negative = true → 0 < n ∧ n ≤ 9223372036854775808) :
    readTail negative n 0 rest = .ok (.integer (if negative then -n else n), rest) := by
  have plain (bytes : Bytes) (tail : bytes = rest) : readTail negative n 0 bytes =
      if !negative then .ok (.integer n, bytes)
      else if n = 0 || 9223372036854775808 < n then
        .ok (.double { Binary64.ofNat n with negative := true }, bytes)
      else .ok (.integer (-(n : Int)), bytes) := by
    unfold readTail
    split
    next => exact absurd (by decide) (stops 0x2E (by rw [← tail]; rfl))
    next => exact absurd (by decide) (stops 0x65 (by rw [← tail]; rfl))
    next => exact absurd (by decide) (stops 0x45 (by rw [← tail]; rfl))
    next => rfl
  rw [plain rest rfl]
  cases negative with
  | false => rfl
  | true =>
    obtain ⟨positive, small⟩ := fits rfl
    rw [if_neg (by simp), if_neg (by simp; omega)]
    rfl

theorem readNumber_writeNat (negative : Bool) {n : Nat} (fits : n ≤ maxWord64) :
    readNumber negative (writeNat n ++ rest) = readTail negative n 0 rest := by
  obtain ⟨taken, dropped⟩ := span_writeNat stops n
  obtain ⟨first, more, shape, leading⟩ := writeNat_cons n
  have digit : isDigit first = true := writeNat_isDigit n first (by simp [shape])
  by_cases zero : first = 0x30
  · obtain ⟨rfl, rfl⟩ := leading zero
    rw [shape, zero]
    cases rest with
    | nil => rfl
    | cons b tail =>
      have other := not_digit_of_stops stops rfl
      simp [readNumber, other]
  · rw [shape, List.cons_append] at taken dropped ⊢
    simp only [readNumber, zero, if_false, digit, if_true, taken, dropped]
    rw [← shape, takeDigits_writeNat fits]

end

/-- Reading a number gives back an integer that was written, if it has at most 64 bits. -/
theorem readNumeric_writeInt (expected : String) {before rest : Bytes} (blank : Blank before)
    (stops : Stops rest) {i : Int} (low : -9223372036854775808 ≤ i) (high : i ≤ maxWord64) :
    Codec.readNumeric expected (before ++ (writeInt i ++ rest)) = .ok (.integer i, rest) := by
  rw [Codec.readNumeric, atValue, skipBlanks_append blank]
  by_cases negative : i < 0
  · have tail := readTail_stops stops true (n := i.natAbs) (fun _ => ⟨by omega, by omega⟩)
    rw [← readNumber_writeNat stops true (by simp only [maxWord64]; omega)] at tail
    have back : -(i.natAbs : Int) = i := by omega
    rw [writeInt, if_pos negative, List.cons_append, skipBlanks_cons rfl]
    simp only [if_true, tail, back]
  · have tail := readTail_stops stops false (n := i.toNat) (fun never => by cases never)
    rw [← readNumber_writeNat stops false (by omega)] at tail
    have back : (i.toNat : Int) = i := by omega
    obtain ⟨first, more, shape, _⟩ := writeNat_cons i.toNat
    have digit : isDigit first = true := writeNat_isDigit i.toNat first (by simp [shape])
    have solid : ∀ b ∈ ascii "0123456789", isBlank b = false ∧ b ≠ 0x2D := each (by decide)
    obtain ⟨solid, plus⟩ := solid first ((isDigit_iff first).mp digit)
    rw [writeInt, if_neg negative]
    rw [shape, List.cons_append] at tail ⊢
    rw [skipBlanks_cons solid]
    simp only [plus, if_false, digit, if_true, tail, back, Bool.false_eq_true]

theorem integer_read_write (expected : String) (depth : Nat) {low high i : Int} (above : low ≤ i)
    (below : i ≤ high) (signed : -9223372036854775808 ≤ low) (word : high ≤ maxWord64) :
    Reads ((Codec.integer low high expected).read depth) (writeInt i) i := by
  intro before rest blank stops
  simp only [Codec.integer, readNumeric_writeInt expected blank stops (Int.le_trans signed above)
    (Int.le_trans below word), bind, Except.bind, above, below, decide_true, Bool.and_self, if_true]

theorem int64_read_write (depth : Nat) {i : Int} (above : -9223372036854775808 ≤ i)
    (below : i ≤ 9223372036854775807) : Reads (Codec.int64.read depth) (Codec.int64.write i) i :=
  integer_read_write "i64" depth above below (by decide) (by decide)

theorem word32_read_write (depth : Nat) {n : Nat} (below : n ≤ 4294967295) :
    Reads (Codec.word32.read depth) (Codec.word32.write n) n :=
  integer_read_write "u32" depth (Int.natCast_nonneg n) (Int.ofNat_le.mpr below) (by decide) (by decide)

end Courier.Proofs.JsonIntegers
