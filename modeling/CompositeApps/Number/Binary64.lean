/-!
Numbers in the IEEE-754 binary64 format, kept as their bits. Every operation is exact arithmetic
on whole numbers followed by one rounding to the nearest format value, ties to even.
-/

namespace CompositeApps

structure Binary64 where
  bits : UInt64
  deriving DecidableEq, Repr, Inhabited

namespace Binary64

/-- The bits of positive infinity; NaNs lie above it. -/
def infinityBits : Nat := 0x7FF0000000000000

def isNegative (x : Binary64) : Bool :=
  0x8000000000000000 ≤ x.bits.toNat

/-- The bits without the sign. They are ordered as the absolute values are. -/
def magnitude (x : Binary64) : Nat :=
  x.bits.toNat % 0x8000000000000000

def isNaN (x : Binary64) : Bool :=
  infinityBits < x.magnitude

def isFinite (x : Binary64) : Bool :=
  x.magnitude < infinityBits

def isZero (x : Binary64) : Bool :=
  x.magnitude = 0

def ofMagnitude (negative : Bool) (magnitude : Nat) : Binary64 :=
  ⟨UInt64.ofNat (if negative then 0x8000000000000000 + magnitude else magnitude)⟩

def zero : Binary64 := ofMagnitude false 0

def canonicalZero (x : Binary64) : Binary64 :=
  if x.isZero then zero else x

def orderKey (x : Binary64) : Int :=
  if x.isNegative then -(x.magnitude : Int) else x.magnitude

/-- The order of the numbers; a NaN is not comparable to anything. -/
def le (x y : Binary64) : Bool :=
  !x.isNaN && !y.isNaN && x.orderKey ≤ y.orderKey

/-- A finite number is `significand * 2 ^ exponent` up to its sign. -/
def significand (x : Binary64) : Nat :=
  if x.magnitude < 0x10000000000000 then x.magnitude
  else x.magnitude % 0x10000000000000 + 0x10000000000000

def exponent (x : Binary64) : Int :=
  if x.magnitude < 0x10000000000000 then -1074 else (x.magnitude / 0x10000000000000 : Nat) - 1075

def ratio (x : Binary64) : Nat × Nat :=
  if 0 ≤ x.exponent then (x.significand * Nat.pow 2 x.exponent.toNat, 1)
  else (x.significand, Nat.pow 2 (-x.exponent).toNat)

/-- The quotient rounded to the nearest whole number, a half to the even one. -/
def roundDiv (num den : Nat) : Nat :=
  let q := num / den
  let r := num % den
  if 2 * r < den || (2 * r = den && q % 2 = 0) then q else q + 1

/-- The format value nearest to `num / den`; infinity beyond the largest. -/
def ofRatio (negative : Bool) (num den : Nat) : Binary64 :=
  if num = 0 then ofMagnitude negative 0
  else
    let guess : Int := (num.log2 : Int) - den.log2
    let below : Bool :=
      if 0 ≤ guess then num < den * Nat.pow 2 guess.toNat else num * Nat.pow 2 (-guess).toNat < den
    let lead := if below then guess - 1 else guess
    let unit := max (lead - 52) (-1074)
    let q :=
      if 0 ≤ unit then roundDiv num (den * Nat.pow 2 unit.toNat)
      else roundDiv (num * Nat.pow 2 (-unit).toNat) den
    ofMagnitude negative (min ((unit + 1074).toNat * 0x10000000000000 + q) infinityBits)

def ofNat (n : Nat) : Binary64 :=
  ofRatio false n 1

def ofInt (i : Int) : Binary64 :=
  ofRatio (i < 0) i.natAbs 1

def powerOfTen (n : Nat) : Binary64 :=
  ofNat (Nat.pow 10 n)

def mul (x y : Binary64) : Binary64 :=
  ofRatio (x.isNegative != y.isNegative) (x.ratio.1 * y.ratio.1) (x.ratio.2 * y.ratio.2)

def div (x y : Binary64) : Binary64 :=
  ofRatio (x.isNegative != y.isNegative) (x.ratio.1 * y.ratio.2) (x.ratio.2 * y.ratio.1)

def addMagnitudes (x y : Binary64) : Binary64 :=
  ofRatio false (x.ratio.1 * y.ratio.2 + y.ratio.1 * x.ratio.2) (x.ratio.2 * y.ratio.2)

/-- Division by a power of ten in steps of at most `10 ^ 308`, each of them rounded. -/
def divPowerOfTen (x : Binary64) (n : Nat) : Binary64 :=
  if n ≤ 308 then x.div (powerOfTen n)
  else
    let y := x.div (powerOfTen 308)
    if y.isZero then y else y.divPowerOfTen (n - 308)
  termination_by n

/-- A decimal number is read by rounding its digits and then scaling by the power of ten, which
rounds once more. A number out of range has no value. -/
def ofDecimal? (negative : Bool) (digits : Nat) (exponent : Int) : Option Binary64 :=
  let start := ofRatio negative digits 1
  if exponent < 0 then some (start.divPowerOfTen (-exponent).toNat)
  else if digits = 0 then some start
  else if exponent ≤ 308 then
    let scaled := start.mul (powerOfTen exponent.toNat)
    if scaled.isFinite then some scaled else none
  else none

end Binary64

end CompositeApps
