import CompositeApps.Json.Printer
import CompositeApps.Text.Basic

/-!
How a text is written in YAML: plain where nothing else could be read from that, in single quotes
otherwise, and in double quotes if it holds control characters.
-/

namespace CompositeApps.Yaml

/-- The words that stand for values which are no texts. -/
def reservedWords : List String := [
  "~", "null", "Null", "NULL", "true", "True", "TRUE", "false", "False", "FALSE",
  ".inf", ".Inf", ".INF", "+.inf", "+.Inf", "+.INF", "-.inf", "-.Inf", "-.INF",
  ".nan", ".NaN", ".NAN"]

def unsigned : List Char → List Char
  | '+' :: rest | '-' :: rest => rest
  | cs => cs

def isBaseNumber : List Char → Bool
  | '0' :: letter :: first :: rest =>
    let allOf (base : Nat) : Bool := (first :: rest).all (Text.isDigitOf base)
    match letter with
    | 'x' => allOf 16
    | 'o' => allOf 8
    | 'b' => allOf 2
    | _ => false
  | _ => false

def isExponent : List Char → Bool
  | [] => true
  | c :: rest =>
    let digits := unsigned rest
    (c = 'e' || c = 'E') && !digits.isEmpty && digits.all Char.isDigit

def isDecimal (cs : List Char) : Bool :=
  let whole := cs.takeWhile Char.isDigit
  match cs.drop whole.length with
  | '.' :: rest =>
    let fraction := rest.takeWhile Char.isDigit
    !(whole ++ fraction).isEmpty && isExponent (rest.drop fraction.length)
  | rest => !whole.isEmpty && isExponent rest

def readsAsNumber (cs : List Char) : Bool :=
  isBaseNumber (unsigned cs) || isDecimal (unsigned cs)

/-- The characters with which no plain text begins. -/
def isIndicator (c : Char) : Bool :=
  ",[]\x7b\x7d#&*!|>'\"%@`".toList.contains c

def startsPlain : List Char → Bool
  | [] => false
  | [c] => !isIndicator c && c ≠ '-' && c ≠ '?' && c ≠ ':' && c ≠ ' '
  | c :: next :: _ =>
    !isIndicator c && c ≠ ' ' && !((c = '-' || c = '?' || c = ':') && next = ' ')

/-- Within a plain text no colon stands before a blank or the end, and no number sign behind a
blank. -/
def continuesPlain : List Char → Bool
  | [] => true
  | [c] => c ≠ ':' && c ≠ ' '
  | ':' :: ' ' :: _ => false
  | ' ' :: '#' :: _ => false
  | _ :: rest => continuesPlain rest

/-- Three dashes or points begin or end a document. -/
def marksDocument (cs : List Char) : Bool :=
  "---".toList.isPrefixOf cs || "...".toList.isPrefixOf cs

def isPlain (text : String) : Bool :=
  let cs := text.toList
  startsPlain cs && continuesPlain cs && !marksDocument cs && !readsAsNumber cs &&
    !reservedWords.contains text

/-- In single quotes a quote is written twice. -/
def singleQuoted (text : String) : String :=
  let inner := text.toList.flatMap fun c => if c = '\'' then ['\'', '\''] else [c]
  String.ofList ('\'' :: inner ++ ['\''])

def textScalar (text : String) : String :=
  if text.toList.any fun c => c.toNat < 0x20 || c.toNat = 0x7f then Json.stringText text
  else if isPlain text then text
  else singleQuoted text

def scalar? : Json → Option String
  | .str s => some (textScalar s)
  | .arr [] => some "[]"
  | .obj [] => some "\x7b\x7d"
  | .arr _ | .obj _ => none
  | v => some v.render

end CompositeApps.Yaml
