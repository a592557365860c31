import Courier.Binary64.Basic

/-! Spans of time, in nanoseconds. -/

namespace Courier

structure Duration where
  nanos : Nat
deriving Repr, DecidableEq, Inhabited, Ord

namespace Duration

def zero : Duration := ⟨0⟩
def nanosPerSecond : Nat := 1000000000

def ofSeconds (s : Nat) : Duration := ⟨s * nanosPerSecond⟩
def ofMillis (ms : Nat) : Duration := ⟨ms * 1000000⟩

/-- The longest duration: 2^64 - 1 seconds and all nanoseconds of one more but the last. -/
def limit : Duration := ⟨18446744073709551615 * nanosPerSecond + 999999999⟩

def seconds (d : Duration) : Nat := d.nanos / nanosPerSecond
def subsecondNanos (d : Duration) : Nat := d.nanos % nanosPerSecond

instance : LT Duration := ⟨fun a b => a.nanos < b.nanos⟩
instance : LE Duration := ⟨fun a b => a.nanos ≤ b.nanos⟩
instance (a b : Duration) : Decidable (a < b) := inferInstanceAs (Decidable (a.nanos < b.nanos))
instance (a b : Duration) : Decidable (a ≤ b) := inferInstanceAs (Decidable (a.nanos ≤ b.nanos))
instance : Min Duration := ⟨fun a b => if a ≤ b then a else b⟩

theorem min_nanos (a b : Duration) : (min a b).nanos = min a.nanos b.nanos := by
  change (if a.nanos ≤ b.nanos then a else b).nanos = _
  split <;> omega

def isZero (d : Duration) : Bool := d.nanos = 0

def saturatingAdd (a b : Duration) : Duration := ⟨min (a.nanos + b.nanos) limit.nanos⟩

def doubled (d : Duration) : Duration := ⟨d.nanos * 2⟩

/-- Whole milliseconds, at most 2^64 - 1. -/
def millis (d : Duration) : Nat := min (d.nanos / 1000000) 18446744073709551615

/-- The duration in seconds, as the rounded sum of its whole seconds and the rest. -/
def toBinary64 (d : Duration) : Binary64 :=
  (Binary64.ofNat d.seconds).addAbs
    ((Binary64.ofNat d.subsecondNanos).div (Binary64.ofNat nanosPerSecond))

/-- The longest duration that scaling gives, in seconds. -/
def scaledLimit : Nat := 4294967295

/-- The duration times a factor, in double precision; the result is rounded to whole nanoseconds, ties
to the even one. Results that are negative or no finite number are zero. -/
def scale (d : Duration) (factor : Binary64) : Duration :=
  let seconds := d.toBinary64.mul factor
  if !seconds.isFinite || seconds.negative || seconds.isZero then zero
  else if (Binary64.ofNat scaledLimit).lt seconds then ofSeconds scaledLimit
  else
    let (num, den) := seconds.ratio
    ⟨Binary64.nearestEven (num * nanosPerSecond) den⟩

def fractionText (whole fraction places : Nat) : String :=
  let digits := (Nat.toDigits 10 fraction)
  let padded := List.replicate (places - digits.length) '0' ++ digits
  let kept := (padded.reverse.dropWhile (· = '0')).reverse
  toString whole ++ if kept.isEmpty then "" else "." ++ String.ofList kept

/-- The duration in the largest unit of which it holds at least one. -/
def describe (d : Duration) : String :=
  if nanosPerSecond ≤ d.nanos then fractionText d.seconds d.subsecondNanos 9 ++ "s"
  else if 1000000 ≤ d.nanos then fractionText (d.nanos / 1000000) (d.nanos % 1000000) 6 ++ "ms"
  else if 1000 ≤ d.nanos then fractionText (d.nanos / 1000) (d.nanos % 1000) 3 ++ "µs"
  else toString d.nanos ++ "ns"

end Duration
end Courier
