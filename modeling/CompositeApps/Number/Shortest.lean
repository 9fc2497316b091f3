import CompositeApps.Number.Binary64

/-!
The shortest decimal that reads back as a given binary64 number. A number of `k` digits is sought
for growing `k` on the two sides of the value; the first grid with a point inside the interval of
numbers that round to the value decides, and of two such points the nearer one.
-/

namespace CompositeApps.Binary64

/-- The place of the leading digit of `num / den`: the value is at least `10 ^ (p - 1)` and below
`10 ^ p`. -/
def decimalPlace (num den : Nat) : Int :=
  if den ≤ num then ((Nat.toDigits 10 (num / den)).length : Int)
  else
    let c := (Nat.toDigits 10 (den / num)).length
    if num * Nat.pow 10 (c - 1) = den then 2 - (c : Int) else 1 - (c : Int)

structure Decimal where
  digits : Nat
  exponent : Int
  deriving DecidableEq, Repr

/-- A decimal as a quotient over `den * 10 ^ shift`, for exponents not below `-shift`. -/
def scaledTo (shift : Nat) (d : Decimal) : Nat :=
  d.digits * Nat.pow 10 (d.exponent + shift).toNat

/-- The interval of numbers that round to `x`, as bounds in quarters of its last binary place. -/
def roundingInterval (x : Binary64) : Nat × Nat :=
  let m := x.significand
  (if m = 0x10000000000000 && -1074 < x.exponent then 4 * m - 1 else 4 * m - 2, 4 * m + 2)

/-- Whether the decimal rounds to `x`, and its distance from `x` in a fixed unit. -/
def candidate (x : Binary64) (shift : Nat) (d : Decimal) : Option (Nat × Decimal) :=
  let (lo, hi) := x.roundingInterval
  let two : Nat := Nat.pow 2 x.exponent.natAbs
  let unit (quarters : Nat) : Nat :=
    if 0 ≤ x.exponent then quarters * two * Nat.pow 10 shift else quarters * Nat.pow 10 shift
  let at4 : Nat :=
    if 0 ≤ x.exponent then 4 * scaledTo shift d else 4 * scaledTo shift d * two
  let inside :=
    if x.significand % 2 = 0 then unit lo ≤ at4 && at4 ≤ unit hi
    else unit lo < at4 && at4 < unit hi
  let centre := unit (4 * x.significand)
  if inside then some (if at4 ≤ centre then centre - at4 else at4 - centre, d) else none

/-- The better of the two neighbours of `x` among the decimals with exponent `e`. -/
def onGrid (x : Binary64) (shift : Nat) (e : Int) : Option Decimal :=
  let (num, den) := x.ratio
  let floor := if 0 ≤ e then num / (den * Nat.pow 10 e.toNat) else num * Nat.pow 10 (-e).toNat / den
  match candidate x shift ⟨floor, e⟩, candidate x shift ⟨floor + 1, e⟩ with
  | some (a, p), some (b, q) => some (if a ≤ b then p else q)
  | some (_, p), none => some p
  | none, some (_, q) => some q
  | none, none => none

/-- The upper neighbour on the coarsest grid may be a power of ten. -/
def Decimal.dropZero (d : Decimal) : Decimal :=
  if d.digits = 10 then ⟨1, d.exponent + 1⟩ else d

def shortest (x : Binary64) : Decimal :=
  let (num, den) := x.ratio
  let p := decimalPlace num den
  let shift := (18 - p).toNat
  let found := (List.range 17).findSome? fun k : Nat => onGrid x shift (p - k - 1)
  (found.getD ⟨0, 0⟩).dropZero

def Decimal.plain (d : Decimal) : List Char :=
  let digits := Nat.toDigits 10 d.digits
  if 0 ≤ d.exponent then digits ++ List.replicate d.exponent.toNat '0'
  else
    let places := (-d.exponent).toNat
    if digits.length ≤ places then
      ['0', '.'] ++ List.replicate (places - digits.length) '0' ++ digits
    else digits.take (digits.length - places) ++ '.' :: digits.drop (digits.length - places)

def text (x : Binary64) : String :=
  if x.isNaN then "NaN"
  else
    let sign := if x.isNegative then "-" else ""
    if x.magnitude = infinityBits then sign ++ "inf"
    else if x.isZero then sign ++ "0"
    else sign ++ String.ofList x.shortest.plain

def textWithPoint (x : Binary64) : String :=
  let t := x.text
  if x.isFinite && !t.toList.contains '.' then t ++ ".0" else t

end CompositeApps.Binary64
