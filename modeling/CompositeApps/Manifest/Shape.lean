import CompositeApps.Json.Decoder

/-!
Shapes of the parts of a manifest that are only passed on. Reading by a shape keeps the known
fields, drops the others, and writes out the required fields that are missing.
-/

namespace CompositeApps

inductive Shape where
  | text
  | int32
  | int64
  | boolean
  | intOrText
  | timestamp
  | anything
  | list (item : Shape)
  | dict (value : Shape)
  | object (name : String) (fields : List (String × Bool × Shape))

namespace Shape

/-- The fields of an object are given as name, whether it is required, and shape. -/
abbrev Table := List (String × Bool × Shape)

mutual

/-- What a required field that is missing is written as. -/
def blank : Shape → Json
  | text => .str ""
  | int32 | int64 | intOrText => .int 0
  | boolean => .bool false
  | timestamp => .str (Timestamp.mk 0).text
  | anything => .null
  | list _ => .arr []
  | dict _ => .obj []
  | object _ fields => .obj (blankFields fields)

def blankFields : Table → List (String × Json)
  | [] => []
  | (name, needed, shape) :: rest =>
    if needed then Json.insertField name (blank shape) (blankFields rest) else blankFields rest

end

def readIntOrText : Decoder Json
  | .str s => .ok (.str s)
  | .int i =>
    if -0x80000000 ≤ i && i < 0x80000000 then .ok (.int i)
    else .error (.wrongValue (.int i) "a 32-bit integer")
  | v => .error (.wrongType v "IntOrString")

mutual

def read : Shape → Decoder Json
  | text => fun v => .str <$> Decoder.text v
  | int32 => fun v => .int <$> Decoder.int32 v
  | int64 => fun v => .int <$> Decoder.int64 v
  | boolean => fun v => .bool <$> Decoder.boolean v
  | intOrText => readIntOrText
  | timestamp => fun v => (fun t => .str t.text) <$> Decoder.timestamp v
  | anything => Decoder.anything
  | list item => fun v => .arr <$> Decoder.list (read item) v
  | dict value => fun v => Json.ofDict id <$> Decoder.dict (read value) v
  | object name fields => fun v => .obj <$> Fields.object name (known fields) v

def known : Table → Fields (List (String × Json))
  | [] => pure []
  | (name, needed, shape) :: rest =>
    let one : Fields (Option Json) :=
      (fun v => if needed then some (v.getD (blank shape)) else v) <$>
        Fields.optional name (read shape)
    (fun v others => match v with
      | some v => Json.insertField name v others
      | none => others) <$> one <*> known rest

end

def opt (name : String) (shape : Shape) : String × Bool × Shape := (name, false, shape)

def req (name : String) (shape : Shape) : String × Bool × Shape := (name, true, shape)

def texts : Shape := list text

def textDict : Shape := dict text

end Shape

/-- Fields of an object that are kept as they were read. -/
abbrev Extra := List (String × Json)

namespace Json

/-- The object with those of the given fields that have a value, and the extra ones. -/
def ofEntries (entries : Entries) (extra : Extra) : Json :=
  ofFields (entries.filterMap (fun (k, v) => v.map (k, ·)) ++ extra)

end Json

/-- A number of 32 bits or a text, such as a port by its name or a share in percent. -/
inductive IntOrText where
  | int (value : Int)
  | text (value : String)
  deriving DecidableEq, Repr, Inhabited

namespace IntOrText

def decode : Decoder IntOrText := fun v => do
  match ← Shape.readIntOrText v with
  | .str s => return .text s
  | .int i => return .int i
  | v => throw (.wrongType v "IntOrString")

def toJson : IntOrText → Json
  | int i => .int i
  | text s => .str s

end IntOrText

end CompositeApps
