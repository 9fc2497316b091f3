import CompositeApps.Text.Basic
import CompositeApps.Time.Duration

/-!
Spans of time as people write them: numbers with units, one after the other, such as `1h 30min` or
`2.5s`. The text is read character by character. Offsets in errors count bytes.
-/

namespace CompositeApps.Duration

inductive ParseError where
  | empty
  | numberExpected (offset : Nat)
  | invalidCharacter (offset : Nat)
  | unitNeeded (value : Nat)
  | unknownUnit (unit : String)
  | tooLarge
  deriving DecidableEq, Repr

def ParseError.message : ParseError → String
  | empty => "value was empty"
  | numberExpected offset => "expected number at " ++ toString offset
  | invalidCharacter offset => "invalid character at " ++ toString offset
  | unitNeeded value =>
    "time unit needed, for example " ++ toString value ++ "sec or " ++ toString value ++ "ms"
  | unknownUnit unit =>
    "unknown time unit " ++ Text.quoted unit ++ ", supported units: ns, us/µs, ms, sec, min, " ++
      "hours, days, weeks, months, years (and few variations)"
  | tooLarge =>
    "number is too large or cannot be represented without a lack of precision " ++
      "(values below 1ns are not supported)"

/-- Why a text gives no span: it is malformed, or adding up its parts runs over the clock. -/
inductive Failure where
  | malformed (cause : ParseError)
  | aborted (cause : Abort)
  deriving DecidableEq, Repr

inductive TimeUnit where
  | nanosecond
  | microsecond
  | millisecond
  | second
  | minute
  | hour
  | day
  | week
  | month
  | year
  deriving DecidableEq, Repr

namespace TimeUnit

/-- The units by their spellings; upper and lower case differ. -/
def ofName? (name : String) : Option TimeUnit :=
  if name ∈ ["nanos", "nsec", "ns"] then some nanosecond
  else if name ∈ ["usec", "us", "µs"] then some microsecond
  else if name ∈ ["millis", "msec", "ms"] then some millisecond
  else if name ∈ ["seconds", "second", "secs", "sec", "s"] then some second
  else if name ∈ ["minutes", "minute", "min", "mins", "m"] then some minute
  else if name ∈ ["hours", "hour", "hrs", "hr", "h"] then some hour
  else if name ∈ ["days", "day", "d"] then some day
  else if name ∈ ["weeks", "week", "wks", "wk", "w"] then some week
  else if name ∈ ["months", "month", "M"] then some month
  else if name ∈ ["years", "year", "yrs", "yr", "y"] then some year
  else none

/-- The length of a unit: whole seconds, or nanoseconds for units below a second. -/
inductive Length where
  | seconds (n : Nat)
  | nanoseconds (n : Nat)

def length : TimeUnit → Length
  | nanosecond => .nanoseconds 1
  | microsecond => .nanoseconds 1000
  | millisecond => .nanoseconds 1000000
  | second => .seconds 1
  | minute => .seconds 60
  | hour => .seconds 3600
  | day => .seconds 86400
  | week => .seconds (86400 * 7)
  | month => .seconds 2630016
  | year => .seconds 31557600

/-- What a fraction of the unit is counted in; a nanosecond has no fractions. -/
def fractionLength : TimeUnit → Option Length
  | nanosecond => none
  | microsecond => some (.nanoseconds 1000)
  | millisecond => some (.nanoseconds 1000000)
  | second => some (.nanoseconds 1000000000)
  | minute => some (.nanoseconds 60000000000)
  | hour => some (.seconds 3600)
  | day => some (.seconds 86400)
  | week => some (.seconds (86400 * 7))
  | month => some (.seconds 2630016)
  | year => some (.seconds 31557600)

end TimeUnit

structure Fraction where
  numerator : Nat
  denominator : Nat
  deriving DecidableEq, Repr

def fitting (n : Nat) : Except Failure Nat :=
  if n < 0x10000000000000000 then .ok n else .error (.malformed .tooLarge)

/-- Adds seconds and nanoseconds to a span. More than a second of nanoseconds is carried over; of
exactly one second the new span takes care itself. -/
def add (total : Duration) (secs nanos : Nat) : Except Failure Duration := do
  let nanos ← fitting (total.nanos + nanos)
  let (secs, nanos) ←
    if 1000000000 < nanos then do
      pure (← fitting (secs + nanos / 1000000000), nanos % 1000000000)
    else pure (secs, nanos)
  let secs ← fitting (total.secs + secs)
  (ofParts secs nanos).mapError .aborted

def addLength (total : Duration) : TimeUnit.Length → Except Failure Duration
  | .seconds n => total.add n 0
  | .nanoseconds n => total.add 0 n

def wholeUnits (n : Nat) : TimeUnit.Length → Except Failure TimeUnit.Length
  | .seconds s => .seconds <$> fitting (n * s)
  | .nanoseconds s => .nanoseconds <$> fitting (n * s)

/-- A fraction of a unit, which has to come out even. -/
def partUnits (f : Fraction) : TimeUnit.Length → Except Failure TimeUnit.Length
  | .seconds s => .seconds <$> even s
  | .nanoseconds s => .nanoseconds <$> even s
where
  even (s : Nat) : Except Failure Nat := do
    let n ← fitting (f.numerator * s)
    if n % f.denominator = 0 then return n / f.denominator
    else throw (.malformed .tooLarge)

/-- Adds a number with its unit to a span: the whole part, then the fraction. -/
def addPart (total : Duration) (n : Nat) (fraction : Option Fraction) (unit : String) :
    Except Failure Duration := do
  match TimeUnit.ofName? unit with
  | none => throw (.malformed (if unit = "" then .unitNeeded n else .unknownUnit unit))
  | some u =>
    let total ← total.addLength (← wholeUnits n u.length)
    match fraction with
    | none => return total
    | some f =>
      match u.fractionLength with
      | none => throw (.malformed .tooLarge)
      | some length => total.addLength (← partUnits f length)

def isUnitLetter (c : Char) : Bool :=
  c.isAlpha || c = 'µ'

/-- Where the reader is: before a number, in its digits, in its fraction, or in its unit. The
letters of a unit are kept in reverse. `mark` is the offset that a bad fraction reports. -/
inductive Cursor where
  | gap (start : Nat)
  | digits (n : Nat)
  | fraction (n : Nat) (f : Fraction) (mark : Nat)
  | unit (n : Nat) (f : Option Fraction) (letters : List Char)
  deriving DecidableEq, Repr

structure Reader where
  total : Duration
  offset : Nat
  cursor : Cursor
  deriving DecidableEq, Repr

namespace Reader

def start : Reader := ⟨zero, 0, .gap 0⟩

def digitValue (c : Char) : Nat := c.toNat - '0'.toNat

def unitName (letters : List Char) : String :=
  String.ofList letters.reverse

def next (r : Reader) (c : Char) : Except Failure (Duration × Cursor) :=
  let after := r.offset + c.utf8Size
  let bad (offset : Nat) : Except Failure (Duration × Cursor) :=
    throw (.malformed (.invalidCharacter offset))
  match r.cursor with
  | .gap start =>
    if c.isDigit then return (r.total, .digits (digitValue c))
    else if Text.isBlank c then return (r.total, .gap start)
    else throw (.malformed (.numberExpected start))
  | .digits n =>
    if c.isDigit then do
      return (r.total, .digits (← fitting (n * 10 + digitValue c)))
    else if Text.isBlank c then return (r.total, .digits n)
    else if isUnitLetter c then return (r.total, .unit n none [c])
    else if c = '.' then return (r.total, .fraction n ⟨0, 1⟩ r.offset)
    else bad r.offset
  | .fraction n f mark =>
    if c.isDigit then do
      let denominator ← fitting (f.denominator * 10)
      let numerator ← fitting (f.numerator * 10 + digitValue c)
      return (r.total, .fraction n ⟨numerator, denominator⟩ after)
    else if Text.isBlank c then return (r.total, .fraction n f after)
    else if isUnitLetter c && f.denominator ≠ 1 then return (r.total, .unit n (some f) [c])
    else bad mark
  | .unit n f letters =>
    if isUnitLetter c then return (r.total, .unit n f (c :: letters))
    else if c.isDigit then do
      return (← r.total.addPart n f (unitName letters), .digits (digitValue c))
    else if Text.isBlank c then do
      return (← r.total.addPart n f (unitName letters), .gap after)
    else bad r.offset

def advance (r : Reader) (c : Char) : Except Failure Reader := do
  let (total, cursor) ← r.next c
  return ⟨total, r.offset + c.utf8Size, cursor⟩

def finish (r : Reader) : Except Failure Duration :=
  match r.cursor with
  | .gap 0 => throw (.malformed .empty)
  | .gap _ => return r.total
  | .digits n => r.total.addPart n none ""
  | .fraction n f mark =>
    if f.denominator = 1 then throw (.malformed (.invalidCharacter mark))
    else r.total.addPart n (some f) ""
  | .unit n f letters => r.total.addPart n f (unitName letters)

end Reader

def parseChars (cs : List Char) : Except Failure Duration :=
  if cs = ['0'] then .ok zero else do (← cs.foldlM Reader.advance Reader.start).finish

/-- Reads a span; blanks around the text do not count. -/
def parse (text : String) : Except Failure Duration :=
  parseChars (Text.trimChars text.toList)

/-- The span in the written form of protocol messages; nothing if the text is malformed. -/
def protoDuration (text : String) : Aborting (Option String) :=
  match parse text with
  | .ok d => .ok (some d.protoText)
  | .error (.malformed _) => .ok none
  | .error (.aborted a) => .error a

end CompositeApps.Duration
