import CompositeApps.Json.Basic
import CompositeApps.Number.Shortest
import CompositeApps.Text.Basic

/-!
JSON values as text without blanks, fields in the order of their names.
-/

namespace CompositeApps.Json

def escapeChar (c : Char) : List Char :=
  if c = '"' then ['\\', '"']
  else if c = '\\' then ['\\', '\\']
  else if c = '\n' then ['\\', 'n']
  else if c = '\r' then ['\\', 'r']
  else if c = '\t' then ['\\', 't']
  else if c = '\x08' then ['\\', 'b']
  else if c = '\x0c' then ['\\', 'f']
  else if c.toNat < 0x20 then ['\\', 'u'] ++ Text.paddedDigits 16 4 c.toNat
  else [c]

def stringText (s : String) : String :=
  String.ofList ('"' :: s.toList.flatMap escapeChar ++ ['"'])

/-- A number with a point or an exponent: positional while the point is at most sixteen places
behind the first digit or four before it, with an exponent otherwise. -/
def numberText (x : Binary64) : String :=
  if !x.isFinite then "null"
  else
    let sign := if x.isNegative then "-" else ""
    if x.isZero then sign ++ "0.0"
    else
      let d := x.shortest
      let digits := Nat.toDigits 10 d.digits
      let place : Int := digits.length + d.exponent
      if -5 < place && place ≤ 16 then x.textWithPoint
      else
        let mantissa := match digits with
          | [c] => String.singleton c
          | c :: rest => String.ofList (c :: '.' :: rest)
          | [] => ""
        sign ++ mantissa ++ "e" ++ toString (place - 1)

mutual

def render : Json → String
  | .null => "null"
  | .bool true => "true"
  | .bool false => "false"
  | .int i => toString i
  | .float x => numberText x
  | .str s => stringText s
  | .arr items => "[" ++ renderItems items ++ "]"
  | .obj fields => "\x7b" ++ renderFields fields ++ "\x7d"

def renderItems : List Json → String
  | [] => ""
  | [v] => render v
  | v :: w :: rest => render v ++ "," ++ renderItems (w :: rest)

def renderFields : List (String × Json) → String
  | [] => ""
  | [(k, v)] => stringText k ++ ":" ++ render v
  | (k, v) :: w :: rest => stringText k ++ ":" ++ render v ++ "," ++ renderFields (w :: rest)

end

end CompositeApps.Json
