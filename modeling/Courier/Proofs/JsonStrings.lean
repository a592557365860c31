import Courier.Json.Codec
import Courier.Proofs.JsonScanning
import Courier.Proofs.Utf8Decoding

/-! What a string spells, in every spelling that the grammar has for its characters, and that the reader
finds it. The printer's spelling is one of them. -/

namespace Courier.Proofs.JsonStrings
open Json JsonGrammar JsonScanning Utf8Decoding

/-- The characters that have an escape of their own, under the letter of it. -/
def escapes : List (UInt8 × Char) :=
  [(0x22, '"'), (0x5C, '\\'), (0x2F, '/'), (0x62, '\x08'), (0x66, '\x0c'), (0x6E, '\n'), (0x72, '\r'),
    (0x74, '\t')]

def unit? : Bytes → Option Nat
  | [a, b, c, d] => hex4? a b c d
  | _ => none

/-- The bodies that spell a text. A character beyond 16 bits is escaped as a pair of surrogates. -/
inductive Spells : Bytes → List Char → Prop where
  | nil : Spells [] []
  | plain {c : Char} {body : Bytes} {text : List Char} : 0x20 ≤ c.toNat → c ≠ '"' → c ≠ '\\' →
      Spells body text → Spells (Utf8.encodeChar c ++ body) (c :: text)
  | escape {letter : UInt8} {c : Char} {body : Bytes} {text : List Char} : (letter, c) ∈ escapes →
      Spells body text → Spells (ascii "\\" ++ letter :: body) (c :: text)
  | unit {digits body : Bytes} {n : Nat} {text : List Char} : unit? digits = some n →
      n < 0xD800 ∨ 0xE000 ≤ n → Spells body text →
      Spells (ascii "\\u" ++ (digits ++ body)) (Char.ofNat n :: text)
  | pair {first second body : Bytes} {high low : Nat} {text : List Char} :
      unit? first = some (0xD800 + high) → unit? second = some (0xDC00 + low) → high < 0x400 →
      low < 0x400 → Spells body text →
      Spells (ascii "\\u" ++ (first ++ (ascii "\\u" ++ (second ++ body))))
        (Char.ofNat (high * 0x400 + low + 0x10000) :: text)

private theorem spells_escapeChar (c : Char) {body : Bytes} {text : List Char} (spelled : Spells body text) :
    Spells (Utf8.encode (escapeChar c) ++ body) (c :: text) := by
  have simple (letter : UInt8) (known : (letter, c) ∈ escapes)
      (same : Utf8.encode (escapeChar c) = [0x5C, letter]) :
      Spells (Utf8.encode (escapeChar c) ++ body) (c :: text) := by
    rw [same]
    exact .escape known spelled
  by_cases quote : c = '"'
  · subst quote; exact simple 0x22 (by decide) (by decide)
  by_cases backslash : c = '\\'
  · subst backslash; exact simple 0x5C (by decide) (by decide)
  by_cases backspace : c = '\x08'
  · subst backspace; exact simple 0x62 (by decide) (by decide)
  by_cases tab : c = '\t'
  · subst tab; exact simple 0x74 (by decide) (by decide)
  by_cases newline : c = '\n'
  · subst newline; exact simple 0x6E (by decide) (by decide)
  by_cases feed : c = '\x0c'
  · subst feed; exact simple 0x66 (by decide) (by decide)
  by_cases ret : c = '\r'
  · subst ret; exact simple 0x72 (by decide) (by decide)
  by_cases control : c.toNat < 0x20
  · have units : ∀ n < 0x20, unit? (Utf8.encode (Text.paddedHex 4 n)) = some n := by decide
    have same : Utf8.encode (escapeChar c) ++ body =
        ascii "\\u" ++ (Utf8.encode (Text.paddedHex 4 c.toNat) ++ body) := by
      simp only [escapeChar, quote, backslash, backspace, tab, newline, feed, ret, control, if_true,
        if_false]
      rfl
    have escaped := Spells.unit (units c.toNat control) (.inl (by omega)) spelled
    rw [Char.ofNat_toNat] at escaped
    rw [same]
    exact escaped
  · have same : Utf8.encode (escapeChar c) = Utf8.encodeChar c := by
      simp [escapeChar, quote, backslash, backspace, tab, newline, feed, ret, control, Utf8.encode]
    rw [same]
    exact .plain (Nat.le_of_not_lt control) quote backslash spelled

/-- The printer's spelling of a text. -/
theorem spells_escaped (text : List Char) : Spells (Utf8.encode (text.flatMap escapeChar)) text := by
  induction text with
  | nil => exact .nil
  | cons c text ih =>
    rw [List.flatMap_cons, encode_append]
    exact spells_escapeChar c ih

/-- A character that needs no escape is encoded in bytes that need none. -/
theorem encodeChar_plain {c : Char} (printable : 0x20 ≤ c.toNat) (quote : c ≠ '"') (backslash : c ≠ '\\') :
    ∀ b ∈ Utf8.encodeChar c, 0x20 ≤ b ∧ b ≠ 0x22 ∧ b ≠ 0x5C := by
  intro b member
  simp only [UInt8.le_iff_toNat_le, ne_eq, ← UInt8.toNat_inj]
  by_cases ascii : c.toNat < 0x80
  · rw [encodeChar_ascii ascii, List.mem_singleton] at member
    subst member
    rw [UInt8.toNat_ofNat_of_lt' (Nat.lt_trans ascii (by decide))]
    refine ⟨printable, ?_, ?_⟩
    · intro same
      exact quote (Char.toNat_inj.mp same)
    · intro same
      exact backslash (Char.toNat_inj.mp same)
  · have above := encodeChar_above (Nat.le_of_not_lt ascii) member
    simp
    omega

section
variable (done rest : Bytes)

private theorem stringBytes_plain {b : UInt8} (printable : 0x20 ≤ b) (quote : b ≠ 0x22) (backslash : b ≠ 0x5C) :
    stringBytes (b :: rest) done = stringBytes rest (b :: done) := by
  rw [stringBytes.eq_def]
  simp [backslash, UInt8.not_lt.mpr printable]

private theorem stringBytes_escape {letter : UInt8} {c : Char} (known : (letter, c) ∈ escapes) :
    stringBytes (0x5C :: letter :: rest) done =
      stringBytes rest ((Utf8.encodeChar c).reverse ++ done) := by
  simp only [escapes, List.mem_cons, List.not_mem_nil, or_false, Prod.mk.injEq] at known
  rcases known with ⟨rfl, rfl⟩ | ⟨rfl, rfl⟩ | ⟨rfl, rfl⟩ | ⟨rfl, rfl⟩ | ⟨rfl, rfl⟩ | ⟨rfl, rfl⟩ |
    ⟨rfl, rfl⟩ | ⟨rfl, rfl⟩ <;> rfl

private theorem stringBytes_unit {digits : Bytes} {n : Nat} (read : unit? digits = some n)
    (whole : n < 0xD800 ∨ 0xE000 ≤ n) :
    stringBytes (ascii "\\u" ++ (digits ++ rest)) done =
      stringBytes rest ((Utf8.encodeChar (Char.ofNat n)).reverse ++ done) := by
  match digits, read with
  | [a, b, c, d], read =>
    have kind : Unit16.of n = .whole := by
      unfold Unit16.of
      rw [if_neg (by simp; omega), if_neg (by simp; omega)]
    show stringBytes (0x5C :: 0x75 :: a :: b :: c :: d :: rest) done = _
    rw [stringBytes.eq_def]
    simp only [show hex4? a b c d = some n from read, kind]

private theorem stringBytes_pair {first second : Bytes} {high low : Nat}
    (lead : unit? first = some (0xD800 + high)) (trail : unit? second = some (0xDC00 + low))
    (upper : high < 0x400) (lower : low < 0x400) :
    stringBytes (ascii "\\u" ++ (first ++ (ascii "\\u" ++ (second ++ rest)))) done =
      stringBytes rest
        ((Utf8.encodeChar (Char.ofNat (high * 0x400 + low + 0x10000))).reverse ++ done) := by
  match first, second, lead, trail with
  | [a, b, c, d], [e, f, g, h], lead, trail =>
    have leads : Unit16.of (0xD800 + high) = .lead := by
      unfold Unit16.of
      rw [if_pos (by simp; omega)]
    have trails : Unit16.of (0xDC00 + low) = .trail := by
      unfold Unit16.of
      rw [if_neg (by simp), if_pos (by simp; omega)]
    show stringBytes (0x5C :: 0x75 :: a :: b :: c :: d :: 0x5C :: 0x75 :: e :: f :: g :: h :: rest) done = _
    rw [stringBytes.eq_def]
    simp only [show hex4? a b c d = _ from lead, show hex4? e f g h = _ from trail, leads, trails,
      Nat.add_sub_cancel_left]

private theorem stringBytes_encodeChar {c : Char} (printable : 0x20 ≤ c.toNat) (quote : c ≠ '"')
    (backslash : c ≠ '\\') :
    stringBytes (Utf8.encodeChar c ++ rest) done =
      stringBytes rest ((Utf8.encodeChar c).reverse ++ done) := by
  have self (bytes : Bytes) (plain : ∀ b ∈ bytes, 0x20 ≤ b ∧ b ≠ 0x22 ∧ b ≠ 0x5C) (done : Bytes) :
      stringBytes (bytes ++ rest) done = stringBytes rest (bytes.reverse ++ done) := by
    induction bytes generalizing done with
    | nil => rfl
    | cons b more ih =>
      obtain ⟨printable, quote, backslash⟩ := plain b List.mem_cons_self
      rw [List.cons_append, stringBytes_plain _ _ printable quote backslash,
        ih (fun c member => plain c (List.mem_cons_of_mem _ member))]
      simp
  exact self _ (encodeChar_plain printable quote backslash) done

end

/-- Every spelling is read, up to the quote after it. -/
theorem stringBytes_spells {body : Bytes} {text : List Char} (spelled : Spells body text)
    (rest done : Bytes) :
    stringBytes (body ++ 0x22 :: rest) done = .ok (done.reverse ++ Utf8.encode text, rest) := by
  have more (c : Char) (text : List Char) (done : Bytes) :
      ((Utf8.encodeChar c).reverse ++ done).reverse ++ Utf8.encode text =
        done.reverse ++ Utf8.encode (c :: text) := by
    simp [Utf8.encode]
  induction spelled generalizing done with
  | nil => simp [stringBytes, Utf8.encode]
  | plain printable quote backslash _ ih =>
    rw [List.append_assoc, stringBytes_encodeChar _ _ printable quote backslash, ih, more]
  | escape known _ ih =>
    rw [← more, ← ih]
    exact stringBytes_escape _ _ known
  | unit read whole _ ih =>
    rw [← more, ← ih, List.append_assoc, List.append_assoc]
    exact stringBytes_unit _ _ read whole
  | pair lead trail upper lower _ ih =>
    rw [← more, ← ih]
    simp only [List.append_assoc]
    exact stringBytes_pair _ _ lead trail upper lower

theorem readString_spells {body : Bytes} {text : List Char} (spelled : Spells body text) (rest : Bytes) :
    readString (body ++ 0x22 :: rest) = .ok (String.ofList text, rest) := by
  rw [readString, stringBytes_spells spelled]
  simp only [bind, Except.bind, List.reverse_nil, List.nil_append, Utf8.toString?, decode?_encode,
    Option.map_some]

/-- A string is read from each of its spellings. -/
theorem text_reads {body : Bytes} {text : List Char} (spelled : Spells body text) (depth : Nat) :
    Reads (Codec.text.read depth) (quoted body) (String.ofList text) := by
  intro before rest blank _
  have start : skipBlanks (before ++ (quoted body ++ rest)) = 0x22 :: (body ++ 0x22 :: rest) := by
    rw [skipBlanks_append blank, quoted_append]
    rfl
  simp only [Codec.text, atValue, start, if_true]
  exact readString_spells spelled rest

theorem text_read_write (s : String) (depth : Nat) :
    Reads (Codec.text.read depth) (writeString s) s := by
  have reads := text_reads (spells_escaped s.toList) depth
  rw [String.ofList_toList] at reads
  exact reads

end Courier.Proofs.JsonStrings
