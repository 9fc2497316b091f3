import CompositeApps.Text.Basic

/-!
Points in time to the second, and their written form in universal time. Years follow the Gregorian
calendar in both directions.
-/

namespace CompositeApps

/-- Seconds since the start of 1970 in universal time. -/
structure Timestamp where
  epochSeconds : Int
  deriving DecidableEq, Repr, Inhabited

namespace Timestamp

inductive ParseError where
  | outOfRange
  | invalidCharacter
  | tooShort
  | trailing
  deriving DecidableEq, Repr

def ParseError.message : ParseError → String
  | .outOfRange => "input is out of range"
  | .invalidCharacter => "input contains invalid characters"
  | .tooShort => "premature end of input"
  | .trailing => "trailing input"

/-- Days from the start of 1970 to a date. Years are counted from March, so that a leap day is the
last day of its year. -/
def daysOfDate (year : Int) (month day : Nat) : Int :=
  let y := if month ≤ 2 then year - 1 else year
  let era := y / 400
  let yearOfEra := y % 400
  let dayOfYear : Int := (153 * (if 2 < month then month - 3 else month + 9) + 2) / 5 + day - 1
  let dayOfEra := yearOfEra * 365 + yearOfEra / 4 - yearOfEra / 100 + dayOfYear
  era * 146097 + dayOfEra - 719468

def dateOfDays (days : Int) : Int × Nat × Nat :=
  let z := days + 719468
  let era := z / 146097
  let doe := z % 146097
  let yoe := (doe - doe / 1460 + doe / 36524 - doe / 146096) / 365
  let doy := (doe - (365 * yoe + yoe / 4 - yoe / 100)).toNat
  let mp := (5 * doy + 2) / 153
  let day := doy - (153 * mp + 2) / 5 + 1
  let month := if mp < 10 then mp + 3 else mp - 9
  (yoe + era * 400 + (if month ≤ 2 then 1 else 0), month, day)

def isLeapYear (year : Int) : Bool :=
  year % 4 = 0 && (year % 100 ≠ 0 || year % 400 = 0)

def daysInMonth (year : Int) (month : Nat) : Nat :=
  if month = 2 then (if isLeapYear year then 29 else 28)
  else if month = 4 || month = 6 || month = 9 || month = 11 then 30
  else 31

namespace Reader

def digitsValue (cs : List Char) : Nat :=
  Nat.ofDigitChars 10 cs 0

def dropBlanks (cs : List Char) : List Char :=
  cs.dropWhile Text.isBlank

def digits (width : Nat) (cs : List Char) : Except ParseError (Nat × List Char) :=
  match (cs.take width).takeWhile Char.isDigit with
  | [] => if cs = [] then .error .tooShort else .error .invalidCharacter
  | ds => .ok (digitsValue ds, cs.drop ds.length)

def bounded (lo hi width : Nat) (cs : List Char) : Except ParseError (Nat × List Char) := do
  let (n, rest) ← digits width (dropBlanks cs)
  if lo ≤ n && n ≤ hi then return (n, rest) else throw .outOfRange

def literal (c : Char) (cs : List Char) : Except ParseError (List Char) :=
  match dropBlanks cs with
  | [] => .error .tooShort
  | d :: rest => if c = d then .ok rest else .error .invalidCharacter

def year (cs : List Char) : Except ParseError (Int × List Char) := do
  let limit := 262142
  let (y, rest) ← match dropBlanks cs with
    | '-' :: rest => (fun (n, r) => (-(n : Int), r)) <$> digits rest.length rest
    | '+' :: rest => (fun (n, r) => ((n : Int), r)) <$> digits rest.length rest
    | rest => (fun (n, r) => ((n : Int), r)) <$> digits 4 rest
  if -limit ≤ y && y ≤ limit then return (y, rest) else throw .outOfRange

def twoDigits : List Char → Except ParseError (Nat × Nat × List Char)
  | a :: b :: rest =>
    if a.isDigit && b.isDigit then .ok (digitsValue [a], digitsValue [b], rest)
    else .error .invalidCharacter
  | _ => .error .tooShort

/-- The offset from universal time in seconds: `Z`, or hours and minutes behind a sign. -/
def offset (cs : List Char) : Except ParseError (Int × List Char) := do
  let signed (negative : Bool) (cs : List Char) : Except ParseError (Int × List Char) := do
    let (h1, h2, rest) ← twoDigits cs
    let (m1, m2, rest) ← twoDigits (rest.dropWhile fun c => c = ':' || Text.isBlank c)
    if 6 ≤ m1 then throw .outOfRange
    let seconds : Int := (h1 * 10 + h2) * 3600 + (m1 * 10 + m2) * 60
    if 86400 ≤ seconds then throw .outOfRange
    return (if negative then -seconds else seconds, rest)
  match cs with
  | [] => throw .tooShort
  | 'Z' :: rest | 'z' :: rest => return (0, rest)
  | '+' :: rest => signed false rest
  | '-' :: rest | '\u2212' :: rest => signed true rest
  | a :: b :: c :: rest =>
    if [a, b, c].map Char.toLower = ['u', 't', 'c'] then return (0, rest)
    else throw .invalidCharacter
  | _ => throw .invalidCharacter

end Reader

open Reader in
/-- Reads a date, a `T` or a space, a time and an offset; a fraction of a second is dropped. -/
def parse (text : String) : Except ParseError Timestamp := do
  let (y, rest) ← year text.toList
  let (month, rest) ← bounded 1 12 2 (← literal '-' rest)
  let (day, rest) ← bounded 1 31 2 (← literal '-' rest)
  let rest ← match rest with
    | [] => throw .tooShort
    | 'T' :: rest | 't' :: rest | ' ' :: rest => pure rest
    | _ => throw .invalidCharacter
  let (hour, rest) ← bounded 0 23 2 rest
  let (minute, rest) ← bounded 0 59 2 (← literal ':' rest)
  let (second, rest) ← bounded 0 60 2 (← literal ':' rest)
  let rest ← match rest with
    | '.' :: rest => do
      let (_, rest) ← digits 9 rest
      pure (rest.dropWhile Char.isDigit)
    | rest => pure rest
  let (shift, rest) ← offset (dropBlanks rest)
  if dropBlanks rest ≠ [] then throw .trailing
  if daysInMonth y month < day then throw .outOfRange
  let clock : Int := hour * 3600 + minute * 60 + second
  return ⟨daysOfDate y month day * 86400 + clock - shift⟩

def padded (width n : Nat) : String :=
  String.ofList (Text.paddedDigits 10 width n)

/-- The written form: date, `T`, time to the second, `Z`. Years of other than four digits carry a
sign. -/
def text (t : Timestamp) : String :=
  let (year, month, day) := dateOfDays (t.epochSeconds / 86400)
  let clock := (t.epochSeconds % 86400).toNat
  let yearText :=
    if 0 ≤ year && year ≤ 9999 then padded 4 year.toNat
    else (if year < 0 then "-" else "+") ++ padded 4 year.natAbs
  yearText ++ "-" ++ padded 2 month ++ "-" ++ padded 2 day ++ "T" ++
    padded 2 (clock / 3600) ++ ":" ++ padded 2 (clock / 60 % 60) ++ ":" ++ padded 2 (clock % 60) ++
    "Z"

end Timestamp

end CompositeApps
