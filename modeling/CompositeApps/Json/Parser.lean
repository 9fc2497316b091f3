import CompositeApps.Json.Basic
import CompositeApps.Text.Basic

/-!
JSON text to JSON values. Whole numbers that fit 64 bits, signed or unsigned, stay whole; every
other number becomes a binary64 number, the text `-0` included.
-/

namespace CompositeApps.Json

namespace Reader

def skipBlanks : List Char → List Char :=
  List.dropWhile fun c => c = ' ' || c = '\n' || c = '\t' || c = '\r'

def maxUnsigned : Nat := 0xFFFFFFFFFFFFFFFF

def digitsOf (cs : List Char) : List Char × List Char :=
  cs.span Char.isDigit

/-- The leading digits of a number and how many of them were dropped because they no longer fit 64
bits. Once a digit has been dropped all others are. -/
def significandOf (digits : List Char) : Nat × Nat :=
  digits.foldl
    (fun (value, dropped) c =>
      let next := value * 10 + (c.toNat - '0'.toNat)
      if dropped = 0 && next ≤ maxUnsigned then (next, 0) else (value, dropped + 1))
    (0, 0)

/-- The digits of a fraction continue the significand while it fits; the rest is dropped. -/
def extendSignificand (value : Nat) (digits : List Char) : Nat × Nat :=
  let (value, taken, _) := digits.foldl
    (fun (value, taken, full) c =>
      let next := value * 10 + (c.toNat - '0'.toNat)
      if !full && next ≤ maxUnsigned then (next, taken + 1, false) else (value, taken, true))
    (value, 0, false)
  (value, taken)

def exponentOf : List Char → Option (Int × List Char)
  | e :: rest =>
    if e = 'e' || e = 'E' then
      let (negative, rest) := match rest with
        | '-' :: rest => (true, rest)
        | '+' :: rest => (false, rest)
        | rest => (false, rest)
      match digitsOf rest with
      | ([], _) => none
      | (digits, rest) =>
        let n : Int := Nat.ofDigitChars 10 digits 0
        some (if negative then -n else n, rest)
    else some (0, e :: rest)
  | [] => some (0, [])

def number (negative : Bool) (cs : List Char) : Option (Json × List Char) := do
  let (digits, rest) := digitsOf cs
  if digits = [] || (digits.head? = some '0' && 1 < digits.length) then none
  let (value, dropped) := significandOf digits
  let (fraction, rest) := match rest with
    | '.' :: rest => let (f, rest) := digitsOf rest; (some f, rest)
    | rest => (none, rest)
  if fraction = some [] then none
  let (exponent, after) ← exponentOf rest
  let whole := fraction.isNone && after = rest && dropped = 0
  if whole && !negative then return (.int value, after)
  if whole && 0 < value && value ≤ 0x8000000000000000 then return (.int (-(value : Int)), after)
  let (value, taken) := extendSignificand value (fraction.getD [])
  let x ← Binary64.ofDecimal? negative value (dropped - taken + exponent)
  return (.float x, after)

def hex4 : List Char → Option (Nat × List Char)
  | a :: b :: c :: d :: rest => do
    let a ← Text.hexDigit? a
    let b ← Text.hexDigit? b
    let c ← Text.hexDigit? c
    let d ← Text.hexDigit? d
    return (((a * 16 + b) * 16 + c) * 16 + d, rest)
  | _ => none

/-- The character of a `\u` escape; the two halves of a surrogate pair make one character. -/
def unicodeEscape (cs : List Char) : Option (Char × List Char) := do
  let (n, rest) ← hex4 cs
  if 0xD800 ≤ n && n < 0xDC00 then
    match rest with
    | '\\' :: 'u' :: rest =>
      let (m, rest) ← hex4 rest
      if 0xDC00 ≤ m && m < 0xE000 then
        return (Char.ofNat (0x10000 + (n - 0xD800) * 0x400 + (m - 0xDC00)), rest)
      else none
    | _ => none
  else if 0xDC00 ≤ n && n < 0xE000 then none
  else return (Char.ofNat n, rest)

def escape (cs : List Char) : Option (Char × List Char) :=
  match cs with
  | '"' :: rest => some ('"', rest)
  | '\\' :: rest => some ('\\', rest)
  | '/' :: rest => some ('/', rest)
  | 'b' :: rest => some ('\x08', rest)
  | 'f' :: rest => some ('\x0c', rest)
  | 'n' :: rest => some ('\n', rest)
  | 'r' :: rest => some ('\r', rest)
  | 't' :: rest => some ('\t', rest)
  | 'u' :: rest => unicodeEscape rest
  | _ => none

/-- The characters up to the closing quote, in reverse on top of `acc`. -/
def stringBody : Nat → List Char → List Char → Option (String × List Char)
  | 0, _, _ => none
  | _ + 1, _, [] => none
  | fuel + 1, acc, c :: rest =>
    if c = '"' then some (String.ofList acc.reverse, rest)
    else if c = '\\' then
      match escape rest with
      | some (d, rest) => stringBody fuel (d :: acc) rest
      | none => none
    else if c.toNat < 0x20 then none
    else stringBody fuel (c :: acc) rest

mutual

def value : Nat → List Char → Option (Json × List Char)
  | 0, _ => none
  | fuel + 1, cs =>
    match skipBlanks cs with
    | 'n' :: 'u' :: 'l' :: 'l' :: rest => some (.null, rest)
    | 't' :: 'r' :: 'u' :: 'e' :: rest => some (.bool true, rest)
    | 'f' :: 'a' :: 'l' :: 's' :: 'e' :: rest => some (.bool false, rest)
    | '"' :: rest => (stringBody (rest.length + 1) [] rest).map fun (s, rest) => (.str s, rest)
    | '[' :: rest =>
      match skipBlanks rest with
      | ']' :: rest => some (.arr [], rest)
      | rest => items fuel [] rest
    | '{' :: rest =>
      match skipBlanks rest with
      | '}' :: rest => some (.obj [], rest)
      | rest => members fuel [] rest
    | '-' :: rest => number true rest
    | rest => number false rest

def items : Nat → List Json → List Char → Option (Json × List Char)
  | 0, _, _ => none
  | fuel + 1, acc, cs => do
    let (v, rest) ← value fuel cs
    match skipBlanks rest with
    | ',' :: rest => items fuel (v :: acc) rest
    | ']' :: rest => some (.arr (v :: acc).reverse, rest)
    | _ => none

def members : Nat → List (String × Json) → List Char → Option (Json × List Char)
  | 0, _, _ => none
  | fuel + 1, acc, cs => do
    match skipBlanks cs with
    | '"' :: rest =>
      let (name, rest) ← stringBody (rest.length + 1) [] rest
      match skipBlanks rest with
      | ':' :: rest =>
        let (v, rest) ← value fuel rest
        let acc := insertField name v acc
        match skipBlanks rest with
        | ',' :: rest => members fuel acc rest
        | '}' :: rest => some (.obj acc, rest)
        | _ => none
      | _ => none
    | _ => none

end

end Reader

/-- The value of a JSON text, with nothing but blanks around it. -/
def parse? (text : String) : Option Json := do
  let cs := text.toList
  let (v, rest) ← Reader.value (cs.length + 1) cs
  if Reader.skipBlanks rest = [] then some v else none

end CompositeApps.Json
