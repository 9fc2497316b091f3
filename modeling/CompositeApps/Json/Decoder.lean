import CompositeApps.Json.Basic
import CompositeApps.Number.Shortest
import CompositeApps.Text.Basic
import CompositeApps.Time.Timestamp
import Std.Data.ExtTreeMap

/-!
Reading JSON values as typed ones. The fields of an object are read in the order of their names:
the first that fails gives the error, and only if none fails is a missing field reported, the first
in the order in which the record declares its fields.
-/

namespace CompositeApps

abbrev Dict (α : Type) := Std.ExtTreeMap String α compare

inductive DecodeError where
  | missingField (name : String)
  | wrongType (found : Json) (wanted : String)
  | wrongValue (found : Json) (wanted : String)
  | wrongLength (length : Nat) (wanted : String)
  | unknownVariant (text : String) (known : List String)
  | missingPayload
  | malformedTimestamp (cause : Timestamp.ParseError)
  deriving DecidableEq, Repr

namespace DecodeError

def shown : Json → String
  | .null => "null"
  | .bool b => "boolean `" ++ (if b then "true" else "false") ++ "`"
  | .int i => "integer `" ++ toString i ++ "`"
  | .float x => "floating point `" ++ x.textWithPoint ++ "`"
  | .str s => "string " ++ Text.quoted s
  | .arr _ => "sequence"
  | .obj _ => "map"

def alternatives (known : List String) : String :=
  match known with
  | [] => "there are no variants"
  | [a] => "expected `" ++ a ++ "`"
  | [a, b] => "expected `" ++ a ++ "` or `" ++ b ++ "`"
  | names => "expected one of " ++ ", ".intercalate (names.map fun n => "`" ++ n ++ "`")

def message : DecodeError → String
  | .missingField name => "missing field `" ++ name ++ "`"
  | .wrongType found wanted => "invalid type: " ++ shown found ++ ", expected " ++ wanted
  | .wrongValue found wanted => "invalid value: " ++ shown found ++ ", expected " ++ wanted
  | .wrongLength length wanted => "invalid length " ++ toString length ++ ", expected " ++ wanted
  | .unknownVariant text known => "unknown variant `" ++ text ++ "`, " ++ alternatives known
  | .missingPayload => "invalid type: unit variant, expected newtype variant"
  | .malformedTimestamp cause => cause.message

end DecodeError

abbrev Decoder (α : Type) := Json → Except DecodeError α

namespace Decoder

def text : Decoder String
  | .str s => .ok s
  | v => .error (.wrongType v "a string")

def boolean : Decoder Bool
  | .bool b => .ok b
  | v => .error (.wrongType v "a boolean")

/-- A whole number between two bounds; `name` says which numbers these are. -/
def integer (name : String) (lo hi : Int) : Decoder Int
  | .int i => if lo ≤ i && i ≤ hi then .ok i else .error (.wrongValue (.int i) name)
  | v => .error (.wrongType v name)

def int32 : Decoder Int := integer "i32" (-0x80000000) 0x7FFFFFFF

def int64 : Decoder Int := integer "i64" (-0x8000000000000000) 0x7FFFFFFFFFFFFFFF

def natural (name : String) (most : Nat) : Decoder Nat :=
  fun v => Int.toNat <$> integer name 0 most v

def uint16 : Decoder Nat := natural "u16" 0xFFFF

def uint32 : Decoder Nat := natural "u32" 0xFFFFFFFF

def uint64 : Decoder Nat := natural "u64" 0xFFFFFFFFFFFFFFFF

def finite (found : Json) (x : Binary64) : Except DecodeError Binary64 :=
  if x.isFinite then .ok x else .error (.wrongValue found "f64")

def binary64 : Decoder Binary64
  | .int i => finite (.int i) (.ofInt i)
  | .float x => finite (.float x) x
  | v => .error (.wrongType v "f64")

def timestamp : Decoder Timestamp
  | .str s => (Timestamp.parse s).mapError .malformedTimestamp
  | v => .error (.wrongType v "an RFC 3339 formatted date and time string")

def anything : Decoder Json := .ok

/-- Null stands for nothing. -/
def nullable {α : Type} (inner : Decoder α) : Decoder (Option α)
  | .null => .ok none
  | v => some <$> inner v

def list {α : Type} (item : Decoder α) : Decoder (List α)
  | .arr items => items.mapM item
  | v => .error (.wrongType v "a sequence")

def dict {α : Type} (value : Decoder α) : Decoder (Dict α)
  | .obj fields => fields.foldlM (fun d (k, v) => d.insert k <$> value v) ∅
  | v => .error (.wrongType v "a map")

/-- A choice among names, written as a text or as an object with the name as its only field. -/
def variant {α β : Type} (known : List (String × α))
    (payload : α → Option Json → Except DecodeError β) : Decoder β
  | .str s => pick s none
  | .obj [(name, v)] => pick name (some v)
  | .obj fields => .error (.wrongValue (.obj fields) "map with a single key")
  | v => .error (.wrongType v "string or map")
where
  pick (name : String) (v : Option Json) : Except DecodeError β :=
    match known.find? (·.1 = name) with
    | some (_, a) => payload a v
    | none => .error (.unknownVariant name (known.map (·.1)))

def enumeration {α : Type} (known : List (String × α)) : Decoder α :=
  variant known fun a v =>
    match v with
    | none | some .null => .ok a
    | some v => .error (.wrongType v "unit")

def tagged {α β : Type} (known : List (String × (α → β))) (value : Decoder α) : Decoder β :=
  variant known fun wrap v =>
    match v with
    | some v => wrap <$> value v
    | none => .error .missingPayload

end Decoder

/-- A record is written as an object, or as an array of its fields in declaration order. -/
inductive Layout where
  | named (fields : List (String × Json))
  | positional (items : List Json)

def Layout.get? (l : Layout) (name : String) (index : Nat) : Option Json :=
  match l with
  | .named fields => Json.lookup name fields
  | .positional items => items[index]?

/-- Why a record could not be read: a field that fails, or one that is missing. -/
structure FieldFault where
  index : Nat
  name : String
  cause : Option DecodeError

/-- Which of two faults is reported. In an object a field that fails comes before one that is
missing, and of two that fail the one with the smaller name; in an array the first one comes
first. -/
def FieldFault.first (l : Layout) (a b : FieldFault) : FieldFault :=
  match l, a.cause, b.cause with
  | .positional _, _, _ => a
  | .named _, some _, some _ => if b.name < a.name then b else a
  | .named _, none, some _ => b
  | .named _, _, none => a

/-- A reader for the fields of a record in declaration order; `read` is given the number of the
first of them. -/
structure Fields (α : Type) where
  size : Nat
  read : Layout → Nat → Except FieldFault α

namespace Fields

variable {α β : Type}

def seq (f : Fields (α → β)) (x : Unit → Fields α) : Fields β where
  size := f.size + (x ()).size
  read l i :=
    match f.read l i, (x ()).read l (i + f.size) with
    | .ok g, .ok a => .ok (g a)
    | .error e, .ok _ => .error e
    | .ok _, .error e => .error e
    | .error a, .error b => .error (a.first l b)

instance : Applicative Fields where
  pure a := ⟨0, fun _ _ => .ok a⟩
  seq := seq

def field (name : String) (absent : Option α) (value : Decoder α) : Fields α where
  size := 1
  read l i :=
    match l.get? name i with
    | some v => (value v).mapError fun e => ⟨i, name, some e⟩
    | none => match absent with
      | some a => .ok a
      | none => .error ⟨i, name, none⟩

def required (name : String) (value : Decoder α) : Fields α :=
  field name none value

def withDefault (name : String) (default : α) (value : Decoder α) : Fields α :=
  field name (some default) value

def optional (name : String) (value : Decoder α) : Fields (Option α) :=
  field name (some none) (Decoder.nullable value)

/-- A field that is as good as there when it is missing or null. -/
def orDefault (name : String) (default : α) (value : Decoder α) : Fields α :=
  (·.getD default) <$> optional name value

/-- A field that has one possible value and may be missing. -/
def literal (name wanted : String) : Fields Unit :=
  field name (some ()) fun v => do
    let s ← Decoder.text v
    if s = wanted then return () else throw (.wrongValue v wanted)

def elements (n : Nat) : String :=
  if n = 1 then "1 element" else toString n ++ " elements"

/-- Reads an object or an array as the record called `name`. -/
def record (name : String) (fields : Fields α) : Decoder α
  | .obj entries => (fields.read (.named entries) 0).mapError fun f =>
      f.cause.getD (.missingField f.name)
  | .arr items => do
    let a ← (fields.read (.positional items) 0).mapError fun f =>
      f.cause.getD (.wrongLength f.index ("struct " ++ name ++ " with " ++ elements fields.size))
    if fields.size < items.length then
      throw (.wrongLength items.length "fewer elements in array")
    return a
  | v => .error (.wrongType v ("struct " ++ name))

def object (name : String) (fields : Fields α) : Decoder α
  | .obj entries => (fields.read (.named entries) 0).mapError fun f =>
      f.cause.getD (.missingField f.name)
  | v => .error (.wrongType v name)

end Fields

abbrev Entries := List (String × Option Json)

namespace Json

def ofDict {α : Type} (value : α → Json) (d : Dict α) : Json :=
  .obj (d.toList.map fun (k, v) => (k, value v))

def ofTexts (d : Dict String) : Json :=
  ofDict .str d

def ofList {α : Type} (item : α → Json) (items : List α) : Json :=
  .arr (items.map item)

end Json

end CompositeApps
