import CompositeApps.Text.Basic

/-!
Whole numbers as they are given in settings: decimal digits, with a plus sign or not, up to a bound.
The first character that is wrong decides how reading fails.
-/

namespace CompositeApps.Whole

inductive ParseError where
  | empty
  | invalidDigit
  | tooLarge
  deriving DecidableEq, Repr

def ParseError.message : ParseError → String
  | .empty => "cannot parse integer from empty string"
  | .invalidDigit => "invalid digit found in string"
  | .tooLarge => "number too large to fit in target type"

def append (max n : Nat) (c : Char) : Except ParseError Nat :=
  match Text.digit? 10 c with
  | none => .error .invalidDigit
  | some d => if n * 10 + d ≤ max then .ok (n * 10 + d) else .error .tooLarge

def parseDigits (max : Nat) (digits : List Char) : Except ParseError Nat :=
  if digits.isEmpty then .error .invalidDigit else digits.foldlM (append max) 0

/-- Reads a number of at most `max`. A sign alone is no number. -/
def parse (max : Nat) (text : String) : Except ParseError Nat :=
  match text.toList with
  | [] => .error .empty
  | '+' :: digits => parseDigits max digits
  | digits => parseDigits max digits

end CompositeApps.Whole
