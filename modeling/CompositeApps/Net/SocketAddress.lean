import CompositeApps.Text.Basic

/-!
Addresses to listen on: an address of version 4 or 6 of the internet protocol and a port. Addresses
of version 6 are written in their shortest form.
-/

namespace CompositeApps

inductive SocketAddress where
  | v4 (octets : List Nat) (port : Nat)
  /-- Eight groups of 16 bits; the scope is written unless it is zero. -/
  | v6 (groups : List Nat) (scope port : Nat)
  deriving DecidableEq, Repr, Inhabited

namespace SocketAddress

/-- A reader takes what it recognizes from the front of a text. -/
abbrev Reader (α : Type) := List Char → Option (α × List Char)

def char (c : Char) : Reader Unit
  | d :: rest => if d = c then some ((), rest) else none
  | [] => none

/-- A number of at most `max` in a base. Too many digits or a leading zero, where that is not
allowed, make it none. -/
def number (base max : Nat) (maxDigits : Option Nat) (leadingZero : Bool) : Reader Nat := fun cs =>
  let (digits, rest) := cs.span (Text.isDigitOf base)
  let n := Text.numberOf base digits
  let tooLong := maxDigits.any (· < digits.length)
  let padded := !leadingZero && digits.head? = some '0' && 1 < digits.length
  if digits.isEmpty || tooLong || padded || max < n then none else some (n, rest)

def separated {α : Type} (separator : Char) (first : Bool) (item : Reader α) : Reader α := fun cs =>
  if first then item cs else (char separator cs).bind fun (_, rest) => item rest

def octet : Reader Nat := number 10 255 (some 3) false

def octets : Nat → Bool → Reader (List Nat)
  | 0, _ => fun cs => some ([], cs)
  | n + 1, first => fun cs => do
    let (o, rest) ← separated '.' first octet cs
    let (os, rest) ← octets n false rest
    return (o :: os, rest)

def ipv4 : Reader (List Nat) := octets 4 true

def group : Reader Nat := number 16 0xFFFF (some 4) true

def groupsOfOctets : List Nat → List Nat
  | a :: b :: rest => (a * 256 + b) :: groupsOfOctets rest
  | _ => []

/-- Reads up to `n` groups; the last two may be written as an address of version 4, which the flag
tells. -/
def groups : Nat → Bool → List Char → List Nat × Bool × List Char
  | 0, _, cs => ([], false, cs)
  | n + 1, first, cs =>
    match if n = 0 then none else separated ':' first ipv4 cs with
    | some (os, rest) => (groupsOfOctets os, true, rest)
    | none =>
      match separated ':' first group cs with
      | some (g, rest) =>
        let (gs, embedded, rest) := groups n false rest
        (g :: gs, embedded, rest)
      | none => ([], false, cs)

def ipv6 : Reader (List Nat) := fun cs => do
  let (head, embedded, rest) := groups 8 true cs
  if head.length = 8 then return (head, rest)
  if embedded then none
  let (_, rest) ← char ':' rest
  let (_, rest) ← char ':' rest
  let (tail, _, rest) := groups (7 - head.length) true rest
  return (head ++ List.replicate (8 - head.length - tail.length) 0 ++ tail, rest)

def port : Reader Nat := fun cs => do
  let (_, rest) ← char ':' cs
  number 10 0xFFFF none true rest

def readV4 : Reader SocketAddress := fun cs => do
  let (os, rest) ← ipv4 cs
  let (p, rest) ← port rest
  return (v4 os p, rest)

def scope : Reader Nat := fun cs => do
  let (_, rest) ← char '%' cs
  number 10 0xFFFFFFFF none true rest

def readV6 : Reader SocketAddress := fun cs => do
  let (_, rest) ← char '[' cs
  let (gs, rest) ← ipv6 rest
  let (s, rest) := (scope rest).getD (0, rest)
  let (_, rest) ← char ']' rest
  let (p, rest) ← port rest
  return (v6 gs s p, rest)

def parse? (text : String) : Option SocketAddress :=
  match (readV4 text.toList).or (readV6 text.toList) with
  | some (a, []) => some a
  | _ => none

def ipv4Text (os : List Nat) : String :=
  ".".intercalate (os.map toString)

def groupText (g : Nat) : String :=
  String.ofList (Nat.toDigits 16 g)

def groupsText (gs : List Nat) : String :=
  ":".intercalate (gs.map groupText)

def leadingZeros (gs : List Nat) : Nat :=
  (gs.takeWhile (· = 0)).length

/-- Start and length of the longest run of zeros, the first of several. -/
def longestZeros : Nat → List Nat → Nat × Nat
  | _, [] => (0, 0)
  | i, g :: gs =>
    let here := leadingZeros (g :: gs)
    let later := longestZeros (i + 1) gs
    if later.2 ≤ here then (i, here) else later

def octetsOfGroup (g : Nat) : List Nat :=
  [g / 256, g % 256]

/-- An embedded address of version 4 is written as one; otherwise the longest run of at least two
zeros is left out. -/
def ipv6Text (gs : List Nat) : String :=
  match gs with
  | [0, 0, 0, 0, 0, 0xFFFF, a, b] => "::ffff:" ++ ipv4Text (octetsOfGroup a ++ octetsOfGroup b)
  | _ =>
    let (start, length) := longestZeros 0 gs
    if 1 < length then
      groupsText (gs.take start) ++ "::" ++ groupsText (gs.drop (start + length))
    else groupsText gs

def text : SocketAddress → String
  | v4 os p => ipv4Text os ++ ":" ++ toString p
  | v6 gs s p =>
    let zone := if s = 0 then "" else "%" ++ toString s
    "[" ++ ipv6Text gs ++ zone ++ "]:" ++ toString p

end SocketAddress

end CompositeApps
