import Courier.Binary64.Basic

/-! The fewest decimal digits that read back as a number. `shortest` searches the decimal grids from
coarse to fine for a point inside the interval of reals that round to the number. -/

namespace Courier.Binary64

/-- A positive decimal `digits * 10 ^ exponent`. -/
structure Decimal where
  digits : Nat
  exponent : Int
deriving DecidableEq, Repr, Inhabited

namespace Decimal

def figures (d : Decimal) : List Char := Nat.toDigits 10 d.digits

/-- How many digits stand before the decimal point when the number is written without exponent. -/
def point (d : Decimal) : Int := d.figures.length + d.exponent

end Decimal

def scaleTwo (num den : Nat) (power : Int) : Nat × Nat :=
  if power < 0 then (num, den * Nat.pow 2 (-power).toNat) else (num * Nat.pow 2 power.toNat, den)

def scaleTen (num den : Nat) (power : Int) : Nat × Nat :=
  if power < 0 then (num, den * Nat.pow 10 (-power).toNat) else (num * Nat.pow 10 power.toNat, den)

/-- The reals that round to a number, as fractions over one denominator. -/
structure Interval where
  low : Nat
  value : Nat
  high : Nat
  den : Nat
  /-- Whether the two ends round to the number as well. -/
  closed : Bool

/-- The interval of a finite positive number: half a unit to each side, and a quarter below a power
of two, where the spacing halves. -/
def interval (x : Binary64) : Interval :=
  let m := x.significand
  let narrow := m = fractionUnit && -1074 < x.exponent
  let (unit, den) := scaleTwo 1 4 x.exponent
  ⟨(4 * m - if narrow then 1 else 2) * unit, 4 * m * unit, (4 * m + 2) * unit, den, m % 2 = 0⟩

/-- Whether the decimal point `n * 10 ^ power` rounds to the number. -/
def Interval.holds (i : Interval) (n : Nat) (power : Int) : Bool :=
  let (num, den) := scaleTen n 1 power
  let point := num * i.den
  if i.closed then i.low * den ≤ point && point ≤ i.high * den
  else i.low * den < point && point < i.high * den

/-- The exponent of the largest power of ten that is at most a positive fraction, found by stepping
from an estimate. -/
def floorLog10 (num den : Nat) : Int :=
  let guess := ((num.log2 : Int) - den.log2) * 30103 / 100000
  let reaches (e : Int) : Bool :=
    let (a, b) := scaleTen 1 1 e
    a * den ≤ num * b
  if reaches (guess + 1) then guess + 1
  else if reaches guess then guess
  else if reaches (guess - 1) then guess - 1
  else guess - 2

/-- The point of the grid `10 ^ power` that rounds to the number and is nearest to it, the even one
of two at the same distance. -/
def Interval.nearest? (i : Interval) (power : Int) : Option Nat :=
  let (num, den) := scaleTen i.value i.den (-power)
  let low := num / den
  let rest := 2 * (num % den)
  match i.holds low power && low != 0, i.holds (low + 1) power with
  | true, true =>
    some (if rest < den then low else if den < rest then low + 1
      else if low % 2 = 0 then low else low + 1)
  | true, false => some low
  | false, true => some (low + 1)
  | false, false => none

def search (i : Interval) (top : Int) : Nat → Int → Decimal
  | 0, power => ⟨(i.nearest? power).getD 0, power⟩
  | tries + 1, power =>
    match i.nearest? power with
    | some n => ⟨n, power⟩
    | none => search i top tries (power - 1)

def stripZeros : Nat → Decimal → Decimal
  | 0, d => d
  | fuel + 1, d =>
    if d.digits % 10 = 0 && d.digits != 0 then stripZeros fuel ⟨d.digits / 10, d.exponent + 1⟩ else d

/-- The shortest decimal that reads back as a finite, non-zero number's absolute value. -/
def shortest (x : Binary64) : Decimal :=
  let i := x.interval
  let top := floorLog10 i.value i.den
  stripZeros 20 (search i top 18 (top + 1))

/-- Which texts a number has: where positional notation ends, and how the rest is spelled. -/
structure Style where
  /-- Positional notation serves when the point stands after more than this many digits, … -/
  lowPoint : Int
  /-- … and at most this many. -/
  highPoint : Int
  keepsPoint : Bool
  signsExponent : Bool
  nanText : String
  infinityText : String

def Decimal.positional (d : Decimal) (keepsPoint : Bool) : List Char :=
  let figures := d.figures
  if 0 ≤ d.exponent then
    figures ++ List.replicate d.exponent.toNat '0' ++ (if keepsPoint then ['.', '0'] else [])
  else if 0 < d.point then
    figures.take d.point.toNat ++ '.' :: figures.drop d.point.toNat
  else
    '0' :: '.' :: (List.replicate (-d.point).toNat '0' ++ figures)

def Decimal.scientific (d : Decimal) (signsExponent : Bool) : List Char :=
  let power := d.point - 1
  let mantissa :=
    match d.figures with
    | [] => []
    | first :: [] => [first]
    | first :: rest => first :: '.' :: rest
  mantissa ++ 'e' :: (if power < 0 then ['-'] else if signsExponent then ['+'] else [])
    ++ Nat.toDigits 10 power.natAbs

def Style.write (style : Style) (x : Binary64) : String :=
  if x.isNaN then style.nanText
  else
    let sign := if x.negative then ['-'] else []
    if x.isInfinite then String.ofList sign ++ style.infinityText
    else if x.isZero then
      String.ofList (sign ++ '0' :: (if style.keepsPoint then ['.', '0'] else []))
    else
      let d := x.shortest
      let body :=
        if style.lowPoint < d.point && d.point ≤ style.highPoint then d.positional style.keepsPoint
        else d.scientific style.signsExponent
      String.ofList (sign ++ body)

/-- Positional only, and without a point where none is needed. -/
def plainStyle : Style := ⟨-400, 400, false, false, "NaN", "inf"⟩

end Courier.Binary64
