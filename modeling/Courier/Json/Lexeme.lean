import Courier.Text.Utf8
import Courier.Json.Error

/-! The lexemes of JSON: blanks, literal words, strings and numbers. Every reader takes the bytes
that start with its lexeme and returns what it read with the bytes that follow. -/

namespace Courier.Json

def isBlank (b : UInt8) : Bool := b = 0x20 || b = 0x0A || b = 0x0D || b = 0x09

def skipBlanks (bytes : Bytes) : Bytes := bytes.dropWhile isBlank

def isDigit (b : UInt8) : Bool := 0x30 ≤ b && b ≤ 0x39

def hexValue? (b : UInt8) : Option Nat :=
  if isDigit b then some (b.toNat - 0x30)
  else if 0x61 ≤ b && b ≤ 0x66 then some (b.toNat - 0x61 + 10)
  else if 0x41 ≤ b && b ≤ 0x46 then some (b.toNat - 0x41 + 10)
  else none

def hex4? (a b c d : UInt8) : Option Nat := do
  some ((((← hexValue? a) * 16 + (← hexValue? b)) * 16 + (← hexValue? c)) * 16 + (← hexValue? d))

/-- What a backslash and this byte stand for. -/
def escaped? (b : UInt8) : Option UInt8 :=
  if b = 0x22 then some 0x22
  else if b = 0x5C then some 0x5C
  else if b = 0x2F then some 0x2F
  else if b = 0x62 then some 0x08
  else if b = 0x66 then some 0x0C
  else if b = 0x6E then some 0x0A
  else if b = 0x72 then some 0x0D
  else if b = 0x74 then some 0x09
  else none

def readWord : List UInt8 → Bytes → Except Error Bytes
  | [], bytes => .ok bytes
  | _ :: _, [] => .error .truncated
  | w :: word, b :: rest => if b = w then readWord word rest else .error .malformed

/-- Half of a pair of surrogates, or a character of its own. -/
inductive Unit16 where
  | lead | trail | whole

def Unit16.of (n : Nat) : Unit16 :=
  if 0xD800 ≤ n && n < 0xDC00 then lead else if 0xDC00 ≤ n && n < 0xE000 then trail else whole

/-- The bytes that a string spells, after its opening quote. An escaped surrogate has to be followed
by its partner; a unit escape cut short by the end of the text counts as truncated. -/
def stringBytes : Bytes → Bytes → Except Error (Bytes × Bytes)
  | [], _ => .error .truncated
  | 0x22 :: rest, done => .ok (done.reverse, rest)
  | 0x5C :: [], _ => .error .truncated
  | 0x5C :: 0x75 :: a :: b :: c :: d :: rest, done =>
    match hex4? a b c d with
    | none => .error .malformed
    | some high =>
      match Unit16.of high with
      | .whole => stringBytes rest ((Utf8.encodeChar (Char.ofNat high)).reverse ++ done)
      | .trail => .error .malformed
      | .lead =>
        match rest with
        | 0x5C :: 0x75 :: a :: b :: c :: d :: rest =>
          match hex4? a b c d with
          | none => .error .malformed
          | some low =>
            match Unit16.of low with
            | .trail =>
              let n := (high - 0xD800) * 0x400 + (low - 0xDC00) + 0x10000
              stringBytes rest ((Utf8.encodeChar (Char.ofNat n)).reverse ++ done)
            | _ => .error .malformed
        | 0x5C :: 0x75 :: _ => .error .truncated
        | 0x5C :: [] => .error .truncated
        | [] => .error .truncated
        | _ => .error .malformed
  | 0x5C :: 0x75 :: _, _ => .error .truncated
  | 0x5C :: e :: rest, done =>
    match escaped? e with
    | some b => stringBytes rest (b :: done)
    | none => .error .malformed
  | b :: rest, done => if b < 0x20 then .error .malformed else stringBytes rest (b :: done)

/-- Reads a string after its opening quote. That its bytes are UTF-8 is checked at its end. -/
def readString (bytes : Bytes) : Except Error (String × Bytes) := do
  let (spelled, rest) ← stringBytes bytes []
  match Utf8.toString? spelled with
  | some s => .ok (s, rest)
  | none => .error .malformed

/-- A number as it is read: an integer of 64 bits, or else a double. -/
inductive Number where
  | integer (i : Int)
  | double (x : Binary64)
deriving Repr, DecidableEq

def maxWord64 : Nat := 18446744073709551615

/-- Digits are taken into the significand while it stays within 64 bits; from the first one that does
not fit, digits only count. Gives the significand, how many digits were taken and how many left. -/
def takeDigits : Nat → Nat → List UInt8 → Nat × Nat × Nat
  | significand, taken, [] => (significand, taken, 0)
  | significand, taken, b :: rest =>
    let next := significand * 10 + (b.toNat - 0x30)
    if next ≤ maxWord64 then takeDigits next (taken + 1) rest
    else (significand, taken, rest.length + 1)

/-- Divides by 1e308 until the rest of a negative power of ten is in range. -/
def scaleDown : Nat → Binary64 → Nat → Binary64
  | 0, x, _ => x
  | fuel + 1, x, power =>
    if power ≤ 308 then x.div (.ofDecimal false 1 power)
    else if x.isZero then x
    else scaleDown fuel (x.div (.ofDecimal false 1 308)) (power - 308)

/-- The double `significand * 10 ^ exponent`, by one rounded product or quotient. Numbers beyond the
largest double are refused. -/
def doubleOf? (negative : Bool) (significand : Nat) (exponent : Int) : Option Binary64 :=
  let start := Binary64.ofNat significand
  let signed (x : Binary64) : Binary64 := { x with negative := negative }
  if exponent < 0 then some (signed (scaleDown 8 start exponent.natAbs))
  else if 308 < exponent then if start.isZero then some (signed start) else none
  else
    let x := start.mul (.ofDecimal false 1 exponent)
    if x.isInfinite then none else some (signed x)

def maxExponent : Nat := 2147483647

def digitsValue (digits : List UInt8) : Nat := digits.foldl (fun n b => n * 10 + (b.toNat - 0x30)) 0

/-- Reads the exponent, after its mark, of a number with the given significand. -/
def readExponent (negative : Bool) (significand : Nat) (start : Int) (bytes : Bytes) :
    Except Error (Number × Bytes) :=
  let (down, bytes) :=
    match bytes with
    | 0x2B :: rest => (false, rest)
    | 0x2D :: rest => (true, rest)
    | _ => (false, bytes)
  match bytes with
  | [] => .error .truncated
  | b :: _ =>
    if !isDigit b then .error .malformed
    else
      let digits := bytes.takeWhile isDigit
      let rest := bytes.dropWhile isDigit
      let size := digits.dropWhile (· = 0x30)
      if 10 < size.length || maxExponent < digitsValue size then
        if significand != 0 && !down then .error .malformed
        else .ok (.double ⟨negative, 0⟩, rest)
      else
        let exponent := if down then start - digitsValue size else start + digitsValue size
        let clamped := max (-2147483648) (min 2147483647 exponent)
        match doubleOf? negative significand clamped with
        | some x => .ok (.double x, rest)
        | none => .error .malformed

/-- Reads what follows the whole part of a number: a fraction, an exponent, or nothing. `extra` counts
the digits of the whole part that did not fit into the significand. -/
def readTail (negative : Bool) (significand extra : Nat) (bytes : Bytes) :
    Except Error (Number × Bytes) :=
  let finish (exponent : Int) (significand : Nat) (bytes : Bytes) : Except Error (Number × Bytes) :=
    match bytes with
    | 0x65 :: rest => readExponent negative significand exponent rest
    | 0x45 :: rest => readExponent negative significand exponent rest
    | _ =>
      match doubleOf? negative significand exponent with
      | some x => .ok (.double x, bytes)
      | none => .error .malformed
  match bytes with
  | 0x2E :: rest =>
    let digits := rest.takeWhile isDigit
    let after := rest.dropWhile isDigit
    let (significand, taken, _) := takeDigits significand 0 digits
    match digits, after with
    | [], [] => .error .truncated
    | [], _ :: _ => .error .malformed
    | _ :: _, _ => finish ((extra : Int) - taken) significand after
  | 0x65 :: _ => finish extra significand bytes
  | 0x45 :: _ => finish extra significand bytes
  | _ =>
    if extra != 0 then finish extra significand bytes
    else if !negative then .ok (.integer significand, bytes)
    else if significand = 0 || 9223372036854775808 < significand then
      .ok (.double { Binary64.ofNat significand with negative := true }, bytes)
    else .ok (.integer (-(significand : Int)), bytes)

def readNumber (negative : Bool) (bytes : Bytes) : Except Error (Number × Bytes) :=
  match bytes with
  | [] => .error .truncated
  | b :: rest =>
    if b = 0x30 then
      match rest with
      | c :: _ => if isDigit c then .error .malformed else readTail negative 0 0 rest
      | [] => readTail negative 0 0 rest
    else if isDigit b then
      let (significand, _, extra) := takeDigits 0 0 (bytes.takeWhile isDigit)
      readTail negative significand extra (bytes.dropWhile isDigit)
    else .error .malformed

end Courier.Json
