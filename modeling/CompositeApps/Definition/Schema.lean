import CompositeApps.Json.Basic

/-!
Schemas in the words in which an API server is told what the objects of a kind look like.
-/

namespace CompositeApps

structure Schema where
  /-- The rules of the schema by their names. -/
  rules : List (String × Json)
  deriving DecidableEq, Inhabited

namespace Schema

def toJson (s : Schema) : Json :=
  Json.ofFields s.rules

def withRule (s : Schema) (name : String) (value : Json) : Schema :=
  ⟨s.rules ++ [(name, value)]⟩

def ofType (type : String) : Schema :=
  ⟨[("type", .str type)]⟩

def boolean : Schema := ofType "boolean"

def text : Schema := ofType "string"

def int32 : Schema := (ofType "integer").withRule "format" (.str "int32")

def int64 : Schema := (ofType "integer").withRule "format" (.str "int64")

/-- A bound is a number with a fraction, even one on whole numbers. -/
def uint32 : Schema :=
  ((ofType "integer").withRule "format" (.str "uint32")).withRule "minimum" (.float (.ofInt 0))

def binary64 : Schema := (ofType "number").withRule "format" (.str "double")

def choice (names : List String) : Schema :=
  text.withRule "enum" (.arr (names.map .str))

def list (item : Schema) : Schema :=
  (ofType "array").withRule "items" item.toJson

def dict (value : Schema) : Schema :=
  (ofType "object").withRule "additionalProperties" value.toJson

def anyObject : Schema :=
  (ofType "object").withRule "x-kubernetes-preserve-unknown-fields" (.bool true)

def nullable (s : Schema) : Schema :=
  s.withRule "nullable" (.bool true)

def described (s : Schema) (description : String) : Schema :=
  s.withRule "description" (.str description)

def defaulting (s : Schema) (value : Json) : Schema :=
  s.withRule "default" value

end Schema

structure SchemaField where
  name : String
  schema : Schema
  required : Bool := false
  deriving DecidableEq, Inhabited

namespace SchemaField

def mandatory (name : String) (schema : Schema) : SchemaField :=
  ⟨name, schema, true⟩

def optional (name : String) (schema : Schema) : SchemaField :=
  ⟨name, schema.nullable, false⟩

def withDefault (name : String) (schema : Schema) (value : Json) : SchemaField :=
  ⟨name, schema.defaulting value, false⟩

def orEmpty (name : String) (schema : Schema) : SchemaField :=
  ⟨name, schema, false⟩

end SchemaField

def Schema.record (fields : List SchemaField) : Schema :=
  let properties := (Schema.ofType "object").withRule "properties"
    (Json.ofFields (fields.map fun f => (f.name, f.schema.toJson)))
  let required := ((fields.filter (·.required)).map (·.name)).mergeSort
  if required.isEmpty then properties
  else properties.withRule "required" (.arr (required.map .str))

end CompositeApps
