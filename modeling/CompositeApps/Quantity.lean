import CompositeApps.Json.Decoder
import CompositeApps.Text.Basic

/-!
Amounts of a resource, such as `250m` or `1.5Gi`. Two texts are the same amount when they denote
the same number of billionths, whatever their spelling.
-/

namespace CompositeApps.Quantity

/-- Every number along the way stays below this bound; beyond it an amount has no value. -/
def bound : Nat := 0x80000000000000000000000000000000

def fitting? (n : Nat) : Option Nat :=
  if n < bound then some n else none

def powerOfTen? (n : Nat) : Option Nat :=
  if n ≤ 38 then some (Nat.pow 10 n) else none

structure Scale where
  multiplier : Nat
  divisor : Nat
  deriving DecidableEq, Repr

namespace Scale

def decimal? (exponent : Int) : Option Scale := do
  let power ← powerOfTen? exponent.natAbs
  return if 0 ≤ exponent then ⟨power, 1⟩ else ⟨1, power⟩

def binary (power : Nat) : Scale := ⟨Nat.pow 2 power, 1⟩

def exponent? (cs : List Char) : Option Int :=
  let (negative, ds) := match cs with
    | '-' :: ds => (true, ds)
    | '+' :: ds => (false, ds)
    | ds => (false, ds)
  if ds ≠ [] && ds.all Char.isDigit then
    let n : Int := Nat.ofDigitChars 10 ds 0
    let i := if negative then -n else n
    if -0x80000000 ≤ i && i < 0x80000000 then some i else none
  else none

def ofSuffix? : List Char → Option Scale
  | [] => decimal? 0
  | ['n'] => decimal? (-9)
  | ['u'] => decimal? (-6)
  | ['m'] => decimal? (-3)
  | ['k'] => decimal? 3
  | ['M'] => decimal? 6
  | ['G'] => decimal? 9
  | ['T'] => decimal? 12
  | ['P'] => decimal? 15
  | ['E'] => decimal? 18
  | ['K', 'i'] => some (binary 10)
  | ['M', 'i'] => some (binary 20)
  | ['G', 'i'] => some (binary 30)
  | ['T', 'i'] => some (binary 40)
  | ['P', 'i'] => some (binary 50)
  | ['E', 'i'] => some (binary 60)
  | 'e' :: cs | 'E' :: cs => (exponent? cs).bind decimal?
  | _ => none

end Scale

def isNumberChar (c : Char) : Bool :=
  c.isDigit || c = '.' || c = '+' || c = '-'

/-- The number of an amount: whether it is negative, and its digits before and after the point. -/
structure Numeral where
  negative : Bool
  whole : List Char
  fraction : List Char
  deriving DecidableEq, Repr

def Numeral.ofChars (cs : List Char) : Numeral :=
  let (negative, cs) := match cs with
    | '-' :: rest => (true, rest)
    | '+' :: rest => (false, rest)
    | rest => (false, rest)
  ⟨negative, cs.takeWhile (· ≠ '.'), (cs.dropWhile (· ≠ '.')).drop 1⟩

def Numeral.nanoUnits? (n : Numeral) (scale : Scale) : Option Int := do
  let digits := n.whole ++ n.fraction
  if digits = [] || !digits.all Char.isDigit then none
  let mantissa ← fitting? (Nat.ofDigitChars 10 digits 0)
  let places ← powerOfTen? n.fraction.length
  let numerator ← fitting? (mantissa * 1000000000)
  let numerator ← fitting? (numerator * scale.multiplier)
  let denominator ← fitting? (places * scale.divisor)
  let value : Int := (numerator / denominator : Nat)
  return if n.negative then -value else value

def nanoUnitsOfChars? (cs : List Char) : Option Int := do
  let numeral := Numeral.ofChars (cs.takeWhile isNumberChar)
  numeral.nanoUnits? (← Scale.ofSuffix? (cs.dropWhile isNumberChar))

/-- The value of an amount in billionths of its unit; nothing if the text is no amount. -/
def nanoUnits? (text : String) : Option Int :=
  nanoUnitsOfChars? (Text.trimChars text.toList)

/-- Texts that are no amounts are compared as they stand. -/
def same (a b : String) : Bool :=
  match nanoUnits? a, nanoUnits? b with
  | some x, some y => x = y
  | _, _ => a = b

/-- The same resources with the same amounts. A missing list is an empty one. -/
def sameList (a b : Option (Dict String)) : Bool :=
  let a := a.getD ∅
  let b := b.getD ∅
  a.size = b.size && a.toList.all fun (name, x) =>
    match b[name]? with
    | some y => same x y
    | none => false

end CompositeApps.Quantity
