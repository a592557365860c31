import Courier.Text.Utf8

/-! What is encoded can be decoded, and the bytes of a text can be told from each other by their
ranges: an ASCII character is its own byte, and all bytes of another character are above ASCII. -/

namespace Courier.Proofs.Utf8Decoding
open Utf8

private theorem isTail_tail : ∀ low < 0x40, isTail (UInt8.ofNat (0x80 + low)) = true := by decide

private theorem scalar (c : Char) : c.toNat < 0xD800 ∨ 0xE000 ≤ c.toNat ∧ c.toNat < 0x110000 := by
  have valid := c.valid
  simp only [UInt32.isValidChar, Nat.isValidChar] at valid
  show c.val.toNat < _ ∨ _ ≤ c.val.toNat ∧ c.val.toNat < _
  omega

theorem decodeChar?_encodeChar (c : Char) (rest : Bytes) :
    decodeChar? (encodeChar c ++ rest) = some (c, rest) := by
  have valid := scalar c
  have tail (n : Nat) : isTail (UInt8.ofNat (0x80 + n % 0x40)) = true :=
    isTail_tail _ (Nat.mod_lt _ (by decide))
  have byte (n : Nat) (small : n < 0x100) : (UInt8.ofNat n).toNat = n :=
    UInt8.toNat_ofNat_of_lt' small
  unfold encodeChar
  simp only
  split
  next ascii =>
    simp [decodeChar?, byte _ (Nat.lt_trans ascii (by decide)), ascii, Char.ofNat_toNat]
  split
  next one two =>
    have lead := byte (0xC0 + c.toNat / 0x40) (by omega)
    have low := byte (0x80 + c.toNat % 0x40) (by omega)
    have whole : (0xC0 + c.toNat / 0x40 - 0xC0) * 0x40 + (0x80 + c.toNat % 0x40 - 0x80) = c.toNat := by omega
    simp only [List.cons_append, List.nil_append, decodeChar?, lead, low, tail, whole, Char.ofNat_toNat]
    rw [if_neg (by omega), if_neg (by omega), if_pos (by omega)]
    rfl
  split
  next one two three =>
    have lead := byte (0xE0 + c.toNat / 0x1000) (by omega)
    have middle := byte (0x80 + c.toNat / 0x40 % 0x40) (by omega)
    have low := byte (0x80 + c.toNat % 0x40) (by omega)
    have whole : (0xE0 + c.toNat / 0x1000 - 0xE0) * 0x1000 + (0x80 + c.toNat / 0x40 % 0x40 - 0x80) * 0x40 +
        (0x80 + c.toNat % 0x40 - 0x80) = c.toNat := by omega
    simp only [List.cons_append, List.nil_append, decodeChar?, lead, middle, low, tail, whole,
      Char.ofNat_toNat]
    rw [if_neg (by omega), if_neg (by omega), if_neg (by omega), if_pos (by omega), if_pos]
    simp only [Bool.and_eq_true, Bool.not_eq_true', decide_eq_true_eq, decide_eq_false_iff_not,
      Bool.and_eq_false_iff, true_and]
    omega
  next one two three =>
    have lead := byte (0xF0 + c.toNat / 0x40000) (by omega)
    have high := byte (0x80 + c.toNat / 0x1000 % 0x40) (by omega)
    have middle := byte (0x80 + c.toNat / 0x40 % 0x40) (by omega)
    have low := byte (0x80 + c.toNat % 0x40) (by omega)
    have whole : (0xF0 + c.toNat / 0x40000 - 0xF0) * 0x40000 +
        (0x80 + c.toNat / 0x1000 % 0x40 - 0x80) * 0x1000 + (0x80 + c.toNat / 0x40 % 0x40 - 0x80) * 0x40 +
        (0x80 + c.toNat % 0x40 - 0x80) = c.toNat := by omega
    simp only [List.cons_append, List.nil_append, decodeChar?, lead, high, middle, low, tail, whole,
      Char.ofNat_toNat]
    rw [if_neg (by omega), if_neg (by omega), if_neg (by omega), if_neg (by omega), if_pos (by omega),
      if_pos]
    simp only [Bool.and_eq_true, decide_eq_true_eq, true_and]
    omega

private theorem decodeAux_step {bytes rest : Bytes} {c : Char} (done : List Char)
    (step : decodeChar? bytes = some (c, rest)) : decodeAux bytes done = decodeAux rest (c :: done) := by
  cases bytes with
  | nil => cases step
  | cons b tail =>
    rw [decodeAux]
    split
    next none => rw [step] at none; cases none
    next found =>
      rw [step] at found
      cases found
      rfl

private theorem decodeAux_encode (text done : List Char) :
    decodeAux (encode text) done = some (done.reverse ++ text) := by
  induction text generalizing done with
  | nil => simp [encode, decodeAux]
  | cons c text ih =>
    have step : decodeChar? (encode (c :: text)) = some (c, encode text) :=
      decodeChar?_encodeChar c (encode text)
    rw [decodeAux_step done step, ih]
    simp

theorem decode?_encode (text : List Char) : decode? (encode text) = some text :=
  decodeAux_encode text []

theorem isText_ofString (s : String) : isText (ofString s) = true := by
  rw [← isSome_decode?, ofString, decode?_encode]
  rfl

theorem toString?_ofString (s : String) : toString? (ofString s) = some s := by
  rw [toString?, ofString, decode?_encode, Option.map_some, String.ofList_toList]

theorem encode_append (first second : List Char) :
    encode (first ++ second) = encode first ++ encode second := List.flatMap_append

theorem encodeChar_ascii {c : Char} (ascii : c.toNat < 0x80) : encodeChar c = [UInt8.ofNat c.toNat] := by
  simp [encodeChar, ascii]

/-- No byte of a character beyond ASCII looks like an ASCII character. -/
theorem encodeChar_above {c : Char} (above : 0x80 ≤ c.toNat) {b : UInt8} (member : b ∈ encodeChar c) :
    0x80 ≤ b.toNat := by
  have valid := scalar c
  have byte (n : Nat) (small : n < 0x100) (large : 0x80 ≤ n) : 0x80 ≤ (UInt8.ofNat n).toNat := by
    rw [UInt8.toNat_ofNat_of_lt' small]
    exact large
  simp only [encodeChar, if_neg (Nat.not_lt.mpr above)] at member
  split at member
  · simp only [List.mem_cons, List.not_mem_nil, or_false] at member
    rcases member with rfl | rfl
    all_goals exact byte _ (by omega) (by omega)
  split at member
  · simp only [List.mem_cons, List.not_mem_nil, or_false] at member
    rcases member with rfl | rfl | rfl
    all_goals exact byte _ (by omega) (by omega)
  · simp only [List.mem_cons, List.not_mem_nil, or_false] at member
    rcases member with rfl | rfl | rfl | rfl
    all_goals exact byte _ (by omega) (by omega)

/-! Bytes that can be decoded are the encoding of what they are decoded to. -/

private theorem toNat_tail {b : UInt8} (tail : isTail b = true) : 0x80 ≤ b.toNat ∧ b.toNat < 0xC0 := by
  simp only [isTail, Bool.and_eq_true, decide_eq_true_eq, UInt8.le_iff_toNat_le, UInt8.lt_iff_toNat_lt] at tail
  exact tail

private theorem toNat_char {n : Nat} (valid : n < 0xD800 ∨ 0xE000 ≤ n ∧ n < 0x110000) :
    (Char.ofNat n).toNat = n := by
  have valid : n.isValidChar := by
    simp only [Nat.isValidChar]
    omega
  rw [Char.ofNat, dif_pos valid]
  rfl

private theorem ofNat_eq {b : UInt8} {n : Nat} (same : n = b.toNat) : UInt8.ofNat n = b := by
  rw [same, UInt8.ofNat_toNat]

private theorem encodeChar_decodeChar? {bytes rest : Bytes} {c : Char}
    (decoded : decodeChar? bytes = some (c, rest)) : bytes = encodeChar c ++ rest := by
  cases bytes with
  | nil => cases decoded
  | cons a tail =>
    simp only [decodeChar?] at decoded
    split at decoded
    next ascii =>
      cases decoded
      have n : (Char.ofNat a.toNat).toNat = a.toNat := toNat_char (.inl (by omega))
      simp only [encodeChar, n, ascii, if_true, UInt8.ofNat_toNat]
      rfl
    split at decoded
    next => cases decoded
    split at decoded
    next ascii low two =>
      split at decoded
      next b rest =>
        split at decoded
        next tail =>
          simp only [Option.some.injEq, Prod.mk.injEq] at decoded
          obtain ⟨rfl, rfl⟩ := decoded
          have bounds := toNat_tail tail
          have n := toNat_char (n := (a.toNat - 0xC0) * 0x40 + (b.toNat - 0x80)) (.inl (by omega))
          simp only [encodeChar, n]
          rw [if_neg (by omega), if_pos (by omega), ofNat_eq (b := a) (by omega),
            ofNat_eq (b := b) (by omega)]
          rfl
        next => cases decoded
      next => cases decoded
    split at decoded
    next =>
      split at decoded
      next b c rest =>
        split at decoded
        next fits =>
          simp only [Option.some.injEq, Prod.mk.injEq] at decoded
          obtain ⟨rfl, rfl⟩ := decoded
          simp only [Bool.and_eq_true, Bool.not_eq_true', decide_eq_true_eq, Bool.and_eq_false_iff,
            decide_eq_false_iff_not] at fits
          have second := toNat_tail fits.1.1.1
          have third := toNat_tail fits.1.1.2
          have lower := fits.1.2
          have n := toNat_char
            (n := (a.toNat - 0xE0) * 0x1000 + (b.toNat - 0x80) * 0x40 + (c.toNat - 0x80)) (by omega)
          simp only [encodeChar, n]
          rw [if_neg (by omega), if_neg (by omega), if_pos (by omega), ofNat_eq (b := a) (by omega),
            ofNat_eq (b := b) (by omega), ofNat_eq (b := c) (by omega)]
          rfl
        next => cases decoded
      next => cases decoded
    split at decoded
    next =>
      split at decoded
      next b c d rest =>
        split at decoded
        next fits =>
          simp only [Option.some.injEq, Prod.mk.injEq] at decoded
          obtain ⟨rfl, rfl⟩ := decoded
          simp only [Bool.and_eq_true, decide_eq_true_eq] at fits
          have second := toNat_tail fits.1.1.1.1
          have third := toNat_tail fits.1.1.1.2
          have fourth := toNat_tail fits.1.1.2
          have lower := fits.1.2
          have upper := fits.2
          have n := toNat_char
            (n := (a.toNat - 0xF0) * 0x40000 + (b.toNat - 0x80) * 0x1000 + (c.toNat - 0x80) * 0x40 +
              (d.toNat - 0x80)) (by omega)
          simp only [encodeChar, n]
          rw [if_neg (by omega), if_neg (by omega), if_neg (by omega), ofNat_eq (b := a) (by omega),
            ofNat_eq (b := b) (by omega), ofNat_eq (b := c) (by omega), ofNat_eq (b := d) (by omega)]
          rfl
        next => cases decoded
      next => cases decoded
    next => cases decoded

/-- What is well-formed is the text of a string. -/
theorem ofString_of_isText {bytes : Bytes} (text : isText bytes = true) : ∃ s, bytes = ofString s := by
  fun_induction isText bytes with
  | case1 => exact ⟨"", rfl⟩
  | case2 => cases text
  | case3 b tail c rest step ih =>
    obtain ⟨s, rfl⟩ := ih text
    refine ⟨String.ofList (c :: s.toList), ?_⟩
    rw [encodeChar_decodeChar? step, ofString, ofString, String.toList_ofList]
    rfl

private theorem toString?_iff {bytes : Bytes} {s : String} : toString? bytes = some s ↔ bytes = ofString s := by
  constructor
  · intro spelled
    have text : isText bytes = true := by
      rw [← isSome_decode?]
      obtain ⟨chars, decoded, -⟩ := Option.map_eq_some_iff.mp spelled
      rw [decoded]
      rfl
    obtain ⟨other, rfl⟩ := ofString_of_isText text
    rw [toString?_ofString] at spelled
    cases spelled
    rfl
  · rintro rfl
    exact toString?_ofString s

/-! Where a character begins can be seen from the byte there, so a text can be cut there and nowhere else. -/

private theorem not_tail {n : Nat} (large : n < 0x80 ∨ 0xC0 ≤ n) (small : n < 0x100) :
    isTail (UInt8.ofNat n) = false := by
  simp only [isTail, Bool.and_eq_false_iff, decide_eq_false_iff_not, UInt8.le_iff_toNat_le, UInt8.lt_iff_toNat_lt,
    UInt8.toNat_ofNat_of_lt' small]
  show ¬0x80 ≤ n ∨ ¬n < 0xC0
  omega

/-- A character is encoded by a byte that starts one, and bytes that go on with it. -/
theorem encodeChar_cons (c : Char) :
    ∃ lead tail, encodeChar c = lead :: tail ∧ isTail lead = false ∧ ∀ b ∈ tail, isTail b = true := by
  have valid := scalar c
  have tail (n : Nat) : isTail (UInt8.ofNat (0x80 + n % 0x40)) = true :=
    isTail_tail _ (Nat.mod_lt _ (by decide))
  unfold encodeChar
  simp only
  split
  next ascii => exact ⟨_, _, rfl, not_tail (.inl ascii) (by omega), nofun⟩
  split
  next =>
    refine ⟨_, _, rfl, not_tail (.inr (by omega)) (by omega), ?_⟩
    exact List.forall_mem_cons.mpr ⟨tail _, nofun⟩
  split
  next =>
    refine ⟨_, _, rfl, not_tail (.inr (by omega)) (by omega), ?_⟩
    exact List.forall_mem_cons.mpr ⟨tail _, List.forall_mem_cons.mpr ⟨tail _, nofun⟩⟩
  next =>
    refine ⟨_, _, rfl, not_tail (.inr (by omega)) (by omega), ?_⟩
    exact List.forall_mem_cons.mpr ⟨tail _, List.forall_mem_cons.mpr ⟨tail _, List.forall_mem_cons.mpr ⟨tail _, nofun⟩⟩⟩

private theorem encode_inj {first second : List Char} (same : encode first = encode second) : first = second := by
  have decoded := decode?_encode first
  rw [same, decode?_encode] at decoded
  exact (Option.some.inj decoded).symm

private theorem encode_cut {text rest : List Char} {front : Bytes} (cut : encode text = front ++ encode rest) :
    ∃ before, text = before ++ rest ∧ front = encode before := by
  induction text generalizing front with
  | nil =>
    obtain ⟨rfl, nothing⟩ := List.append_eq_nil_iff.mp cut.symm
    have same : encode rest = encode [] := nothing
    exact ⟨[], (encode_inj same).symm, rfl⟩
  | cons c text ih =>
    have cons (c : Char) (text : List Char) : encode (c :: text) = encodeChar c ++ encode text := rfl
    cases front with
    | nil => exact ⟨[], encode_inj cut, rfl⟩
    | cons b front =>
      rw [cons] at cut
      rcases List.append_eq_append_iff.mp cut with ⟨more, own, others⟩ | ⟨inside, own, others⟩
      · obtain ⟨before, rfl, rfl⟩ := ih others
        exact ⟨c :: before, rfl, own⟩
      · cases inside with
        | nil =>
          rw [List.append_nil] at own
          refine ⟨[c], congrArg _ (encode_inj others).symm, ?_⟩
          rw [← own]
          exact (List.append_nil _).symm
        | cons d inside =>
          -- The rest would begin with a byte that begins no character.
          obtain ⟨lead, tail, shape, -, tails⟩ := encodeChar_cons c
          rw [shape] at own
          obtain ⟨-, rfl⟩ := List.cons.inj own
          have within : isTail d = true := tails d (by simp)
          cases rest with
          | nil => cases others
          | cons e rest =>
            obtain ⟨first, more, begins, outside, -⟩ := encodeChar_cons e
            rw [cons, begins] at others
            obtain ⟨rfl, -⟩ := List.cons.inj others
            rw [outside] at within
            cases within

/-- A text can be cut between its characters and nowhere else. -/
theorem sliceFrom?_iff {s rest : String} {start : Nat} :
    sliceFrom? s start = some rest ↔ ∃ front, s = front ++ rest ∧ (ofString front).length = start := by
  have cut (front : String) : ofString (front ++ rest) = ofString front ++ ofString rest := by
    rw [ofString, String.toList_append, encode_append]
    rfl
  constructor
  · intro slice
    simp only [sliceFrom?] at slice
    split at slice
    next inside =>
      have back := toString?_iff.mp slice
      have whole := List.take_append_drop start (ofString s)
      rw [back] at whole
      obtain ⟨before, shape, front⟩ := encode_cut whole.symm
      refine ⟨String.ofList before, ?_, ?_⟩
      · rw [← String.toList_inj, String.toList_append, String.toList_ofList]
        exact shape
      · rw [ofString, String.toList_ofList, ← front, List.length_take, Nat.min_eq_left inside]
    next => cases slice
  · rintro ⟨front, rfl, rfl⟩
    simp only [sliceFrom?, cut, List.length_append, Nat.le_add_right, if_true, List.drop_left,
      toString?_ofString]

end Courier.Proofs.Utf8Decoding
