import Courier.Message
import Mathlib.Data.Nat.Digits.Defs
import Mathlib.Data.Nat.Digits.Lemmas

/-! What a checksum notices. The register of the cyclic redundancy check is shifted by a map that is linear in
exclusive or and loses nothing. Up to four bytes fit into the register, and feeding them is one map of the
register and the number that they spell; so two different texts of four bytes lead to different registers,
and these stay different whatever equal bytes come after them. -/

namespace Courier.Proofs.ChecksumBursts
open Checksum

/-! ### The register -/

private theorem shift_eq (r : UInt32) : shift r = (r >>> 1) ^^^ if r.toNat.testBit 0 then polynomial else 0 := by
  have low : r &&& 1 = 1 ↔ r.toNat.testBit 0 = true := by
    rw [← UInt32.toNat_inj, UInt32.toNat_and, Nat.testBit_zero, decide_eq_true_eq]
    exact Eq.congr_left (Nat.and_one_is_mod _)
  simp only [shift, low]
  split
  · rfl
  · rw [UInt32.xor_zero]

private theorem shift_xor (r s : UInt32) : shift (r ^^^ s) = shift r ^^^ shift s := by
  have swap (a b c d : UInt32) : a ^^^ b ^^^ (c ^^^ d) = a ^^^ c ^^^ (b ^^^ d) := by ac_rfl
  simp only [shift_eq, UInt32.shiftRight_xor, UInt32.toNat_xor, Nat.testBit_xor]
  rw [swap]
  cases r.toNat.testBit 0 <;> cases s.toNat.testBit 0 <;> simp

private theorem eq_zero_of_shift {r : UInt32} (none : shift r = 0) : r = 0 := by
  have half : (r >>> 1).toNat = r.toNat / 2 := by simp [UInt32.toNat_shiftRight, Nat.shiftRight_eq_div_pow]
  have size := r.toNat_lt
  rw [shift_eq] at none
  apply UInt32.toNat_inj.mp
  rw [UInt32.toNat_zero]
  cases odd : r.toNat.testBit 0 with
  | true =>
    rw [odd, if_pos rfl, UInt32.xor_eq_zero_iff] at none
    have high : polynomial.toNat = 3988292384 := rfl
    rw [none, high] at half
    omega
  | false =>
    rw [odd, if_neg Bool.false_ne_true, UInt32.xor_zero] at none
    rw [none, UInt32.toNat_zero] at half
    simp only [Nat.testBit_zero, decide_eq_false_iff_not] at odd
    omega

private theorem shift_injective : Function.Injective shift := by
  intro r s same
  apply UInt32.xor_eq_zero_iff.mp
  apply eq_zero_of_shift
  rw [shift_xor, same, UInt32.xor_self]

private theorem shifts_xor (n : Nat) (r s : UInt32) : shift^[n] (r ^^^ s) = shift^[n] r ^^^ shift^[n] s := by
  induction n generalizing r s with
  | zero => rfl
  | succ n ih => rw [Function.iterate_succ_apply, shift_xor, ih]; rfl

private theorem shift_even {n : Nat} (small : 2 * n < 4294967296) : shift (UInt32.ofNat (2 * n)) = UInt32.ofNat n := by
  have value : (UInt32.ofNat (2 * n)).toNat = 2 * n := UInt32.toNat_ofNat_of_lt' small
  rw [shift_eq, value, Nat.testBit_zero, if_neg (by simp), UInt32.xor_zero]
  apply UInt32.toNat_inj.mp
  rw [UInt32.toNat_shiftRight, value, UInt32.toNat_ofNat_of_lt' (by simp only [UInt32.size]; omega)]
  simp [Nat.shiftRight_eq_div_pow]

private theorem shifts_down (n k : Nat) (small : 2 ^ n * k < 4294967296) :
    shift^[n] (UInt32.ofNat (2 ^ n * k)) = UInt32.ofNat k := by
  induction n with
  | zero => rw [Nat.pow_zero, Nat.one_mul]; rfl
  | succ n ih =>
    have twice : 2 ^ (n + 1) * k = 2 * (2 ^ n * k) := by rw [Nat.pow_succ, Nat.mul_comm (2 ^ n), Nat.mul_assoc]
    rw [twice] at small ⊢
    rw [Function.iterate_succ_apply, shift_even small, ih (by omega)]

/-! ### Bytes that fit into the register -/

/-- The number that bytes spell, the first one the least significant. -/
def number (bytes : Bytes) : Nat := Nat.ofDigits 256 (bytes.map UInt8.toNat)

private theorem number_cons (b : UInt8) (bytes : Bytes) : number (b :: bytes) = 2 ^ 8 * number bytes + b.toNat := by
  rw [number, List.map_cons, Nat.ofDigits_cons, Nat.add_comm]
  rfl

private theorem digit_lt {bytes : Bytes} {d : Nat} (member : d ∈ bytes.map UInt8.toNat) : d < 256 := by
  obtain ⟨b, _, rfl⟩ := List.mem_map.mp member
  exact b.toNat_lt

private theorem number_lt (bytes : Bytes) : number bytes < 256 ^ bytes.length := by
  have digits : ∀ d ∈ bytes.map UInt8.toNat, d < 256 := fun _ => digit_lt
  have bound := Nat.ofDigits_lt_base_pow_length (by decide) digits
  rwa [List.length_map] at bound

private theorem number_injective {xs ys : Bytes} (length : xs.length = ys.length) (same : number xs = number ys) :
    xs = ys := by
  have lengths : (xs.map UInt8.toNat).length = (ys.map UInt8.toNat).length := by simpa using length
  have digits := Nat.ofDigits_inj_of_len_eq (by decide) lengths (fun _ => digit_lt) (fun _ => digit_lt) same
  exact (List.map_injective_iff.mpr fun _ _ => UInt8.toNat_inj.mp) digits

private theorem ofNat_number_cons (b : UInt8) {bytes : Bytes} (short : bytes.length ≤ 3) :
    UInt32.ofNat (number (b :: bytes)) = b.toUInt32 ^^^ UInt32.ofNat (2 ^ 8 * number bytes) := by
  have small : number bytes < 256 ^ 3 :=
    Nat.lt_of_lt_of_le (number_lt bytes) (Nat.pow_le_pow_right (by decide) short)
  have byte := b.toNat_lt
  rw [number_cons]
  apply UInt32.toNat_inj.mp
  rw [UInt32.toNat_xor, UInt8.toNat_toUInt32, UInt32.toNat_ofNat_of_lt' (by simp only [UInt32.size]; omega),
    UInt32.toNat_ofNat_of_lt' (by simp only [UInt32.size]; omega)]
  apply Nat.eq_of_testBit_eq
  intro i
  rw [Nat.testBit_xor, Nat.testBit_two_pow_mul_add _ (i := 8) byte, Nat.testBit_two_pow_mul]
  by_cases low : i < 8
  · simp [low, Nat.not_le.mpr low]
  · have above : b.toNat.testBit i = false :=
      Nat.testBit_lt_two_pow (Nat.lt_of_lt_of_le byte (Nat.pow_le_pow_right (by decide) (Nat.le_of_not_lt low)))
    simp [low, Nat.le_of_not_lt low, above]

/-- Feeding up to four bytes is to add the number that they spell, and then to shift as often as it has
bits. -/
theorem feed_number {bytes : Bytes} (short : bytes.length ≤ 4) (r : UInt32) :
    bytes.foldl feed r = shift^[8 * bytes.length] (r ^^^ UInt32.ofNat (number bytes)) := by
  induction bytes generalizing r with
  | nil =>
    have none : number [] = 0 := rfl
    rw [none]
    exact UInt32.xor_zero.symm
  | cons b bytes ih =>
    have short : bytes.length ≤ 3 := Nat.le_of_succ_le_succ short
    have small : 2 ^ 8 * number bytes < 4294967296 := by
      have := Nat.lt_of_lt_of_le (number_lt bytes) (Nat.pow_le_pow_right (by decide) short)
      omega
    calc (b :: bytes).foldl feed r
      _ = shift^[8 * bytes.length] (shift^[8] (r ^^^ b.toUInt32) ^^^ UInt32.ofNat (number bytes)) :=
        ih (Nat.le_succ_of_le short) _
      _ = shift^[8 * bytes.length] (shift^[8] (r ^^^ UInt32.ofNat (number (b :: bytes)))) := by
        rw [ofNat_number_cons b short, ← UInt32.xor_assoc, shifts_xor 8 (r ^^^ b.toUInt32), shifts_down 8 _ small]
      _ = shift^[8 * (b :: bytes).length] (r ^^^ UInt32.ofNat (number (b :: bytes))) := by
        rw [← Function.iterate_add_apply]
        rfl

private theorem feed_injective (b : UInt8) : Function.Injective fun r => feed r b := by
  intro r s same
  exact (UInt32.xor_left_inj _).mp (shift_injective.iterate 8 same)

private theorem foldl_feed_injective (bytes : Bytes) : Function.Injective fun r => bytes.foldl feed r := by
  induction bytes with
  | nil => exact Function.injective_id
  | cons b bytes ih => exact ih.comp (feed_injective b)

/-- Texts that differ in four bytes at most have the same check value only if they are the same. -/
theorem crc32_window {front back old new : Bytes} (length : old.length = new.length) (short : old.length ≤ 4) :
    crc32 (front ++ (old ++ back)) = crc32 (front ++ (new ++ back)) ↔ old = new := by
  refine ⟨fun same => ?_, fun same => by rw [same]⟩
  simp only [crc32, UInt32.xor_left_inj, List.foldl_append] at same
  have same := foldl_feed_injective back same
  have fits : new.length ≤ 4 := length ▸ short
  rw [feed_number short, feed_number fits, length] at same
  have same := (UInt32.xor_right_inj _).mp (shift_injective.iterate _ same)
  have word {bytes : Bytes} (fits : bytes.length ≤ 4) : (UInt32.ofNat (number bytes)).toNat = number bytes :=
    UInt32.toNat_ofNat_of_lt' (Nat.lt_of_lt_of_le (number_lt bytes) (Nat.pow_le_pow_right (by decide) fits))
  refine number_injective length ?_
  rw [← word short, ← word fits, same]

/-- The check value of the standard, that of the nine digits. -/
example : crc32 (Json.ascii "123456789") = 0xCBF43926 := by decide +kernel

/-! ### Damaged texts -/

/-- A text of the same length that differs from the first one at most within a window of this width. -/
structure Burst (width : Nat) (before after : Bytes) : Prop where
  length : after.length = before.length
  outside : ∃ start, ∀ i, i < start ∨ start + width ≤ i → after[i]? = before[i]?

private theorem Burst.split {width : Nat} {before after : Bytes} (burst : Burst width before after) :
    ∃ front old new back, before = front ++ (old ++ back) ∧ after = front ++ (new ++ back) ∧
      old.length = new.length ∧ old.length ≤ width := by
  obtain ⟨length, start, same⟩ := burst
  have front : after.take start = before.take start := by
    apply List.ext_getElem?
    intro i
    rw [List.getElem?_take, List.getElem?_take]
    split
    next inside => exact same i (.inl inside)
    next => rfl
  have back : (after.drop start).drop width = (before.drop start).drop width := by
    apply List.ext_getElem?
    intro i
    simp only [List.getElem?_drop]
    exact same _ (.inr (by omega))
  refine ⟨before.take start, (before.drop start).take width, (after.drop start).take width,
    (before.drop start).drop width, ?_, ?_, ?_, List.length_take_le _ _⟩
  · rw [List.take_append_drop, List.take_append_drop]
  · rw [← front, ← back, List.take_append_drop, List.take_append_drop]
  · simp only [List.length_take, List.length_drop, length]

private theorem burst_append {width : Nat} (front back : Bytes) {old new : Bytes} (length : old.length = new.length)
    (short : old.length ≤ width) : Burst width (front ++ (old ++ back)) (front ++ (new ++ back)) := by
  refine ⟨by simp [length], front.length, ?_⟩
  rintro i (before | behind)
  · rw [List.getElem?_append_left before, List.getElem?_append_left before]
  · rw [List.getElem?_append_right (by omega), List.getElem?_append_right (by omega),
      List.getElem?_append_right (by omega), List.getElem?_append_right (by omega), length]

/-- A message passes the check after its checksum was computed. If the checksum says anything at all, a message
with any other payload of the same length fails it, as long as the two differ within four bytes only. -/
theorem detects_bursts (m : Message) :
    m.computeChecksum.verifyChecksum = true ∧
      (m.computeChecksum.checksum ≠ 0 → ∀ damaged, damaged ≠ m.payload → Burst 4 m.payload damaged →
        { m.computeChecksum with payload := damaged }.verifyChecksum = false) := by
  constructor
  · simp [Message.verifyChecksum, Message.computeChecksum]
  · intro some damaged differs burst
    obtain ⟨front, old, new, back, before, rfl, length, short⟩ := burst.split
    have other : crc32 m.payload ≠ crc32 (front ++ (new ++ back)) := by
      rw [before] at differs ⊢
      rw [Ne, crc32_window length short]
      rintro rfl
      exact differs rfl
    simp only [Message.verifyChecksum, Bool.or_eq_false_iff, decide_eq_false_iff_not]
    exact ⟨some, fun same => other (UInt32.toNat_inj.mp same)⟩

def named : Message := ⟨"1", "m", "s", "t", 1, Json.ascii "\x7b\"from\":\"infermux\"\x7d", 0⟩

/-- The payload with another sender, of whose name the fourth and the seventh byte are others. -/
def renamed : Bytes := Json.ascii "\x7b\"from\":\"informix\"\x7d"

theorem detects_bursts_renamed :
    named.computeChecksum.verifyChecksum = true ∧ named.computeChecksum.checksum ≠ 0 ∧
      renamed ≠ named.payload ∧ Burst 4 named.payload renamed ∧
      { named.computeChecksum with payload := renamed }.verifyChecksum = false := by
  have some : named.computeChecksum.checksum ≠ 0 := by decide +kernel
  have differs : renamed ≠ named.payload := by decide +kernel
  have before : named.payload =
      Json.ascii "\x7b\"from\":\"inf" ++ (Json.ascii "ermu" ++ Json.ascii "x\"\x7d") := by decide +kernel
  have after : renamed =
      Json.ascii "\x7b\"from\":\"inf" ++ (Json.ascii "ormi" ++ Json.ascii "x\"\x7d") := by decide +kernel
  have burst : Burst 4 named.payload renamed := by
    rw [before, after]
    exact burst_append _ _ (by decide +kernel) (by decide +kernel)
  obtain ⟨passes, detects⟩ := detects_bursts named
  exact ⟨passes, some, differs, burst, detects some renamed differs burst⟩

end Courier.Proofs.ChecksumBursts
