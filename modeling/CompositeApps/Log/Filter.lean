import CompositeApps.Log.Record
import CompositeApps.Number.Whole
import CompositeApps.Text.Basic

/-!
Which records are written. A filter is a list of directives, such as `info`, `target=debug` or
`target[span{field=value}]=trace`; of those that a record falls under the most specific one
decides. The records here are written outside of all spans, so that a directive for a span, or for
one that has a field with a certain value, never allows one. Whether such a value is a well-formed
pattern is not looked at.
-/

namespace CompositeApps

structure FieldMatch where
  name : String
  value : Option String := none
  deriving DecidableEq, Repr, Inhabited

/-- Records up to a verbosity are written for all targets that start with the given one. -/
structure LogDirective where
  target : Option String := none
  span : Option String := none
  fields : List FieldMatch := []
  verbosity : Nat
  deriving DecidableEq, Repr, Inhabited

inductive FilterError where
  | invalidDirective
  | invalidLevel
  deriving DecidableEq, Repr

def FilterError.message : FilterError → String
  | invalidDirective => "invalid filter directive"
  | invalidLevel =>
    "error parsing level filter: expected one of \"off\", \"error\", \"warn\", " ++
      "\"info\", \"debug\", \"trace\", or a number 0-5"

namespace LogDirective

def levelNames : List (String × Nat) :=
  [("off", 0), ("error", 1), ("warn", 2), ("info", 3), ("debug", 4), ("trace", 5)]

/-- A level is a word in any case or its number. -/
def level? (text : String) : Option Nat :=
  match Whole.parse 5 text with
  | .ok n => some n
  | .error _ => (levelNames.find? (·.1 = text.toLower)).map (·.2)

def startsTarget (c : Char) : Bool :=
  c.isAlphanum || 0x80 ≤ c.toNat || c = '-' || c = ':' || c = '_'

def parseField (cs : List Char) : Except FilterError FieldMatch :=
  if cs = [] then .error .invalidDirective
  else
    match (cs.splitOn '=').map String.ofList with
    | name :: value :: _ => .ok { name, value := some value }
    | parts => .ok { name := parts.headD "" }

/-- What stands behind a target or a span: nothing, or a level. No level allows everything. -/
def parseLevel (d : LogDirective) : List Char → Except FilterError LogDirective
  | [] | ['='] => .ok d
  | '=' :: level =>
    match level? (String.ofList level) with
    | some verbosity => .ok { d with verbosity }
    | none => .error .invalidLevel
  | _ => .error .invalidDirective

/-- What stands behind an opening bracket: a span, fields in braces, and the closing bracket. -/
def parseSpan (d : LogDirective) (cs : List Char) : Except FilterError LogDirective :=
  let (name, rest) := cs.span fun c => c ≠ ']' && c ≠ '\x7b'
  match rest with
  | ']' :: rest => parseLevel { d with span := some (String.ofList name) } rest
  | _ :: rest =>
    let (field, rest) := rest.span (· ≠ '\x7d')
    match rest with
    | _ :: ']' :: rest => do
      let span := if name = [] then none else some (String.ofList name)
      parseLevel { d with span, fields := [← parseField field] } rest
    | _ => .error .invalidDirective
  | [] => .error .invalidDirective

/-- A level alone, or a target, a span or both with a level for them. There are no commas in a
directive, so that it asks for one field at most. -/
def parse (text : String) : Except FilterError LogDirective :=
  let everything : LogDirective := { verbosity := 5 }
  let (name, rest) := (Text.trimChars text.toList).span fun c => c ≠ '=' && c ≠ '['
  let target := String.ofList name
  match name, rest with
  | [], '[' :: rest => parseSpan everything rest
  | [], _ => .error .invalidDirective
  | first :: _, rest =>
    if !startsTarget first then .error .invalidDirective
    else
      match rest with
      | [] =>
        match level? target with
        | some verbosity => .ok { verbosity }
        | none => .ok { everything with target }
      | '[' :: rest => parseSpan { everything with target } rest
      | rest => parseLevel { everything with target } rest

def isStatic (d : LogDirective) : Bool :=
  d.span.isNone && d.fields.all (·.value.isNone)

def concerns (d : LogDirective) (r : LogRecord) : Bool :=
  d.target.all (·.toList.isPrefixOf r.target.toList) && d.fields.all fun f => f.name ∈ r.fieldNames

/-- A directive is the more specific the longer its target is, and then the more fields it has. -/
def compareSpecific (a b : LogDirective) : Ordering :=
  let weight (d : LogDirective) : Nat := d.target.elim 0 (·.utf8ByteSize + 1)
  (compare (weight a) (weight b)).then <|
    (compare a.fields.length b.fields.length).then <|
      compare (a.fields.map (·.name)) (b.fields.map (·.name))

end LogDirective

abbrev LogFilter := List LogDirective

namespace LogFilter

def parts (cs : List Char) : List (List Char) :=
  ((cs.splitOn ',').filter (!·.isEmpty))

def parse (text : String) : Except FilterError LogFilter := do
  let directives ← (parts text.toList).mapM fun cs => LogDirective.parse (String.ofList cs)
  return if directives.isEmpty then [{ verbosity := 1 }] else directives

def directiveFor? (f : LogFilter) (r : LogRecord) : Option LogDirective :=
  (f.filter fun d => d.isStatic && d.concerns r).foldl (fun best d => match best with
    | some b => if (b.compareSpecific d).isLE then some d else some b
    | none => some d) none

def allows (f : LogFilter) (r : LogRecord) : Bool :=
  match f.directiveFor? r with
  | some d => r.level.verbosity ≤ d.verbosity
  | none => false

/-- The filter of the environment, if it has a well-formed one, or else the given one. -/
def select (fromEnvironment : Option String) (given : String) : Except FilterError LogFilter :=
  match fromEnvironment.map parse with
  | some (.ok f) => .ok f
  | _ => parse given

end LogFilter

end CompositeApps
