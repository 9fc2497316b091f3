import CompositeApps.Yaml.Scalar

/-!
JSON values as YAML blocks. Each level is indented by two blanks; the items of a list stand at the
level of its name, behind a dash.
-/

namespace CompositeApps.Yaml

def indent (lines : List String) : List String :=
  lines.map ("  " ++ ·)

/-- The lines of a list item: the first one behind a dash, the others below its text. -/
def dashed : List String → List String
  | [] => []
  | first :: rest => ("- " ++ first) :: indent rest

/-- The lines of a named value: a value in one line stands behind its name. A list is not indented
against its name. -/
def named (name : String) (value : Json) (lines : List String) : List String :=
  match scalar? value, value with
  | some text, _ => [textScalar name ++ ": " ++ text]
  | none, .arr _ => (textScalar name ++ ":") :: lines
  | none, _ => (textScalar name ++ ":") :: indent lines

mutual

def lines : Json → List String
  | .arr [] => ["[]"]
  | .arr (v :: rest) => itemLines (v :: rest)
  | .obj [] => ["\x7b\x7d"]
  | .obj (f :: rest) => fieldLines (f :: rest)
  | v => (scalar? v).toList

def itemLines : List Json → List String
  | [] => []
  | v :: rest => dashed (lines v) ++ itemLines rest

def fieldLines : List (String × Json) → List String
  | [] => []
  | (name, v) :: rest => named name v (lines v) ++ fieldLines rest

end

def document (v : Json) : String :=
  String.join ((lines v).map (· ++ "\n"))

end CompositeApps.Yaml
