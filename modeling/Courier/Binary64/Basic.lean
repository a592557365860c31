/-! Double precision numbers as data. A number is a sign and the 63 low bits of its IEEE 754 code, so
codes of non-negative numbers are ordered like the numbers, and every operation is exact arithmetic
on naturals followed by one rounding, `roundRatio`. -/

namespace Courier

/-- A double precision number: `magnitude` is the code without the sign bit. -/
structure Binary64 where
  negative : Bool
  magnitude : Nat
deriving DecidableEq, Repr, Inhabited

namespace Binary64

/-- Two to the power of the stored fraction's width. -/
def fractionUnit : Nat := 0x10000000000000

/-- The code of infinity; larger codes are no numbers. -/
def infinityCode : Nat := 0x7FF0000000000000

def zero : Binary64 := ⟨false, 0⟩
def infinity (negative : Bool) : Binary64 := ⟨negative, infinityCode⟩
def nan : Binary64 := ⟨false, infinityCode + fractionUnit / 2⟩

def isNaN (x : Binary64) : Bool := infinityCode < x.magnitude
def isInfinite (x : Binary64) : Bool := x.magnitude = infinityCode
def isFinite (x : Binary64) : Bool := x.magnitude < infinityCode
def isZero (x : Binary64) : Bool := x.magnitude = 0

/-- The integer `m` of the finite absolute value `m * 2 ^ e`. -/
def significand (x : Binary64) : Nat :=
  let field := x.magnitude / fractionUnit
  let fraction := x.magnitude % fractionUnit
  if field = 0 then fraction else fraction + fractionUnit

/-- The exponent `e` of the finite absolute value `m * 2 ^ e`. -/
def exponent (x : Binary64) : Int :=
  let field := x.magnitude / fractionUnit
  if field = 0 then -1074 else (field : Int) - 1075

def ratio (x : Binary64) : Nat × Nat :=
  if x.exponent < 0 then (x.significand, Nat.pow 2 (-x.exponent).toNat)
  else (x.significand * Nat.pow 2 x.exponent.toNat, 1)

/-- The integer nearest to a fraction; a half goes to the even neighbour. -/
def nearestEven (num den : Nat) : Nat :=
  let low := num / den
  let rest := 2 * (num % den)
  if rest < den then low
  else if den < rest then low + 1
  else if low % 2 = 0 then low else low + 1

/-- The exponent of the largest power of two that is at most a positive fraction. -/
def floorLog2 (num den : Nat) : Int :=
  let guess := (num.log2 : Int) - den.log2
  let reached := if guess < 0 then den ≤ num * Nat.pow 2 (-guess).toNat else den * Nat.pow 2 guess.toNat ≤ num
  if reached then guess else guess - 1

/-- The code of the number nearest to a fraction; a tie goes to the even code. -/
def roundRatio (num den : Nat) : Nat :=
  if num = 0 || den = 0 then 0 else
    let unit := max (floorLog2 num den - 52) (-1074)
    let quotient :=
      if unit < 0 then nearestEven (num * Nat.pow 2 (-unit).toNat) den
      else nearestEven num (den * Nat.pow 2 unit.toNat)
    min ((unit + 1074).toNat * fractionUnit + quotient) infinityCode

def ofRatio (negative : Bool) (num den : Nat) : Binary64 := ⟨negative, roundRatio num den⟩

def ofNat (n : Nat) : Binary64 := ofRatio false n 1

def ofInt (i : Int) : Binary64 := ofRatio (i < 0) i.natAbs 1

/-- The number nearest to `digits * 10 ^ exponent`. Exponents far outside the range of the format are
cut off before any power is computed. -/
def ofDecimal (negative : Bool) (digits : Nat) (exponent : Int) : Binary64 :=
  if digits = 0 then ⟨negative, 0⟩
  else if 400 < exponent then infinity negative
  else if exponent + digits.log2 / 3 + 1 < -400 then ⟨negative, 0⟩
  else if exponent < 0 then ofRatio negative digits (Nat.pow 10 (-exponent).toNat)
  else ofRatio negative (digits * Nat.pow 10 exponent.toNat) 1

def neg (x : Binary64) : Binary64 := { x with negative := !x.negative }

def mul (x y : Binary64) : Binary64 :=
  let negative := x.negative != y.negative
  if x.isNaN || y.isNaN then nan
  else if x.isInfinite || y.isInfinite then
    if x.isZero || y.isZero then nan else infinity negative
  else
    let (a, b) := x.ratio
    let (c, d) := y.ratio
    ofRatio negative (a * c) (b * d)

def div (x y : Binary64) : Binary64 :=
  let negative := x.negative != y.negative
  if x.isNaN || y.isNaN then nan
  else if x.isInfinite then if y.isInfinite then nan else infinity negative
  else if y.isInfinite then ⟨negative, 0⟩
  else if y.isZero then if x.isZero then nan else infinity negative
  else
    let (a, b) := x.ratio
    let (c, d) := y.ratio
    ofRatio negative (a * d) (b * c)

/-- The rounded sum of the absolute values of two finite numbers. -/
def addAbs (x y : Binary64) : Binary64 :=
  let (a, b) := x.ratio
  let (c, d) := y.ratio
  ofRatio false (a * d + c * b) (b * d)

/-- The signed place of a number among all numbers; both zeros stand at zero. -/
def rank (x : Binary64) : Int := if x.negative then -(x.magnitude : Int) else x.magnitude

/-- Whether one number is below another; never where one of them is no number. -/
def lt (x y : Binary64) : Bool := !x.isNaN && !y.isNaN && x.rank < y.rank

/-- Whether one number is at most another; never where one of them is no number. -/
def le (x y : Binary64) : Bool := !x.isNaN && !y.isNaN && x.rank ≤ y.rank

end Binary64
end Courier
