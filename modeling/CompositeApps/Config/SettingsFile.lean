import CompositeApps.Text.Basic

/-!
The text of a settings file: lines with a key, an equals sign and a value, which is a text or a
whole number; comments start with `#`. Everything else that the format knows would be no value of
any setting, so a file with such a thing is refused like one that is malformed.
-/

namespace CompositeApps.SettingsFile

inductive Value where
  | text (value : String)
  | int (value : Int)
  deriving DecidableEq, Repr, Inhabited

abbrev Entry := String × Value

/-- A reader takes what it recognizes from the front of a text. -/
abbrev Reader (α : Type) := List Char → Option (α × List Char)

def isSpace (c : Char) : Bool :=
  c = ' ' || c = '\t'

def skipSpace (cs : List Char) : List Char :=
  cs.dropWhile isSpace

def isAllowed (c : Char) : Bool :=
  c = '\t' || (0x20 ≤ c.toNat && c.toNat ≠ 0x7F)

/-- A line ends with a line feed, with or without a carriage return before it. -/
def lineEnd? : List Char → Option (List Char)
  | '\n' :: rest | '\r' :: '\n' :: rest => some rest
  | _ => none

def isKeyChar (c : Char) : Bool :=
  c.isAlphanum || c = '-' || c = '_'

def charOfCode? (n : Nat) : Option Char :=
  if n.isValidChar then some (Char.ofNat n) else none

def codePoint (width : Nat) : Reader Char := fun cs =>
  let digits := cs.take width
  if digits.length = width && digits.all (Text.isDigitOf 16) then
    (charOfCode? (Text.numberOf 16 digits)).map (·, cs.drop width)
  else none

def escape : Reader Char
  | 'b' :: rest => some ('\x08', rest)
  | 't' :: rest => some ('\t', rest)
  | 'n' :: rest => some ('\n', rest)
  | 'f' :: rest => some ('\x0c', rest)
  | 'r' :: rest => some ('\r', rest)
  | '"' :: rest => some ('"', rest)
  | '\\' :: rest => some ('\\', rest)
  | 'u' :: rest => codePoint 4 rest
  | 'U' :: rest => codePoint 8 rest
  | _ => none

def quoted : Nat → Reader (List Char)
  | 0, _ | _ + 1, [] => none
  | _ + 1, '"' :: rest => some ([], rest)
  | fuel + 1, '\\' :: rest => do
    let (c, rest) ← escape rest
    let (cs, rest) ← quoted fuel rest
    return (c :: cs, rest)
  | fuel + 1, c :: rest => do
    if !isAllowed c then none
    let (cs, rest) ← quoted fuel rest
    return (c :: cs, rest)

def literal : Reader (List Char)
  | [] => none
  | '\'' :: rest => some ([], rest)
  | c :: rest => do
    if !isAllowed c then none
    let (cs, rest) ← literal rest
    return (c :: cs, rest)

/-- What follows a backslash at the end of a line: all blanks and line ends up to the text. -/
def skipFolded : List Char → List Char
  | [] => []
  | '\r' :: '\n' :: rest => skipFolded rest
  | c :: rest => if isSpace c || c = '\n' then skipFolded rest else c :: rest

def endsLine (cs : List Char) : Bool :=
  (lineEnd? (skipSpace cs)).isSome

/-- A text of several lines in three double quotes, behind the first three. Up to two quotes may
stand right before the last three. -/
def quotedLines : Nat → Reader (List Char)
  | 0, _ | _ + 1, [] => none
  | _ + 1, '"' :: '"' :: '"' :: '"' :: '"' :: rest => some (['"', '"'], rest)
  | _ + 1, '"' :: '"' :: '"' :: '"' :: rest => some (['"'], rest)
  | _ + 1, '"' :: '"' :: '"' :: rest => some ([], rest)
  | fuel + 1, '\\' :: rest =>
    if endsLine rest then quotedLines fuel (skipFolded rest)
    else do
      let (c, rest) ← escape rest
      let (cs, rest) ← quotedLines fuel rest
      return (c :: cs, rest)
  | fuel + 1, c :: rest => do
    let (c, rest) ← match lineEnd? (c :: rest) with
      | some rest => some ('\n', rest)
      | none => if isAllowed c then some (c, rest) else none
    let (cs, rest) ← quotedLines fuel rest
    return (c :: cs, rest)

def literalLines : Nat → Reader (List Char)
  | 0, _ | _ + 1, [] => none
  | _ + 1, '\'' :: '\'' :: '\'' :: '\'' :: '\'' :: rest => some (['\'', '\''], rest)
  | _ + 1, '\'' :: '\'' :: '\'' :: '\'' :: rest => some (['\''], rest)
  | _ + 1, '\'' :: '\'' :: '\'' :: rest => some ([], rest)
  | fuel + 1, c :: rest => do
    let (c, rest) ← match lineEnd? (c :: rest) with
      | some rest => some ('\n', rest)
      | none => if isAllowed c then some (c, rest) else none
    let (cs, rest) ← literalLines fuel rest
    return (c :: cs, rest)

/-- A line end right behind the first quotes is no part of the text. -/
def skipLineEnd (cs : List Char) : List Char :=
  (lineEnd? cs).getD cs

def digits? (base : Nat) : List Char → Option (List Char)
  | [] => none
  | [c] => if Text.isDigitOf base c then some [c] else none
  | c :: '_' :: rest => if Text.isDigitOf base c then (c :: ·) <$> digits? base rest else none
  | c :: rest => if Text.isDigitOf base c then (c :: ·) <$> digits? base rest else none

def decimal? (cs : List Char) : Option Int := do
  let ds ← digits? 10 cs
  if ds.head? = some '0' && 1 < ds.length then none
  return Text.numberOf 10 ds

def based? (base : Nat) (cs : List Char) : Option Int := do
  return Text.numberOf base (← digits? base cs)

/-- A whole number: decimal with or without a sign, or with a mark for another base. -/
def int? : List Char → Option Int
  | '0' :: 'x' :: cs => based? 16 cs
  | '0' :: 'o' :: cs => based? 8 cs
  | '0' :: 'b' :: cs => based? 2 cs
  | '+' :: cs => decimal? cs
  | '-' :: cs => (- ·) <$> decimal? cs
  | cs => decimal? cs

def endsToken (c : Char) : Bool :=
  isSpace c || c = '\n' || c = '\r' || c = '#'

def value (cs : List Char) : Option (Value × List Char) :=
  let text (found : Option (List Char × List Char)) : Option (Value × List Char) :=
    found.map fun (cs, rest) => (.text (String.ofList cs), rest)
  match cs with
  | '"' :: '"' :: '"' :: rest => text (quotedLines (rest.length + 1) (skipLineEnd rest))
  | '"' :: rest => text (quoted (rest.length + 1) rest)
  | '\'' :: '\'' :: '\'' :: rest => text (literalLines (rest.length + 1) (skipLineEnd rest))
  | '\'' :: rest => text (literal rest)
  | _ =>
    let (token, rest) := cs.span (!endsToken ·)
    (int? token).map fun i => (.int i, rest)

def key (cs : List Char) : Option (String × List Char) :=
  let name (found : Option (List Char × List Char)) : Option (String × List Char) :=
    found.map fun (cs, rest) => (String.ofList cs, rest)
  match cs with
  | '"' :: rest => name (quoted (rest.length + 1) rest)
  | '\'' :: rest => name (literal rest)
  | _ =>
    let (k, rest) := cs.span isKeyChar
    if k.isEmpty then none else some (String.ofList k, rest)

def lineRest? (cs : List Char) : Option (List Char) :=
  let cs := match skipSpace cs with
    | '#' :: comment => comment.dropWhile isAllowed
    | cs => cs
  if cs.isEmpty then some [] else lineEnd? cs

def entry (cs : List Char) : Option (Entry × List Char) := do
  let (k, rest) ← key cs
  match skipSpace rest with
  | '=' :: rest =>
    let (v, rest) ← value (skipSpace rest)
    return ((k, v), ← lineRest? rest)
  | _ => none

/-- The entries of the lines of a text; each line is at least one character long. -/
def entries : Nat → List Char → Option (List Entry)
  | 0, _ => none
  | _ + 1, [] => some []
  | fuel + 1, cs =>
    match lineRest? cs with
    | some rest => entries fuel rest
    | none => do
      let (e, rest) ← entry (skipSpace cs)
      return e :: (← entries fuel rest)

/-- A mark of the byte order may stand before everything else. -/
def skipMark : List Char → List Char
  | '\ufeff' :: rest => rest
  | cs => cs

/-- The entries of a file in their order, no key twice. -/
def parse? (text : String) : Option (List Entry) := do
  let cs := skipMark text.toList
  let found ← entries (cs.length + 1) cs
  if (found.map (·.1)).Nodup then return found else none

end CompositeApps.SettingsFile
