import CompositeApps.Json.Printer
import CompositeApps.Text.Basic

/-!
The records that the operator writes about its own start, and their two written forms.
-/

namespace CompositeApps

inductive LogLevel where
  | error
  | warn
  | info
  | debug
  | trace
  deriving DecidableEq, Repr, Inhabited

namespace LogLevel

def name : LogLevel → String
  | error => "ERROR"
  | warn => "WARN"
  | info => "INFO"
  | debug => "DEBUG"
  | trace => "TRACE"

def verbosity : LogLevel → Nat
  | error => 1
  | warn => 2
  | info => 3
  | debug => 4
  | trace => 5

end LogLevel

inductive LogValue where
  | text (value : String)
  | number (value : Nat)
  deriving DecidableEq, Repr, Inhabited

namespace LogValue

def plain : LogValue → String
  | text s => s
  | number n => toString n

def toJson : LogValue → Json
  | text s => .str s
  | number n => .int n

end LogValue

structure LogRecord where
  level : LogLevel
  target : String
  message : String
  fields : List (String × LogValue)
  deriving DecidableEq, Repr, Inhabited

namespace LogRecord

/-- The message is a field of its own. -/
def fieldNames (r : LogRecord) : List String :=
  "message" :: r.fields.map (·.1)

def text (r : LogRecord) : String :=
  " ".intercalate
    (r.level.name :: r.message :: r.fields.map fun (name, value) => name ++ "=" ++ value.plain)

def toJson (r : LogRecord) : Json :=
  Json.ofFields [
    ("level", .str r.level.name),
    ("fields", Json.ofFields
      (("message", .str r.message) :: r.fields.map fun (name, value) => (name, value.toJson)))]

def configLoad (path : String) : LogRecord :=
  ⟨.debug, "composite_operator::config", "config.load.attempt", [("path", .text path)]⟩

def probesListening (address : String) : LogRecord :=
  ⟨.info, "composite_operator", "probes.listening", [("addr", .text address)]⟩

def operatorStarting (namespaceName : Option String) (concurrency : Nat) : LogRecord :=
  let shown := match namespaceName with
    | some s => "Some(" ++ Text.quoted s ++ ")"
    | none => "None"
  ⟨.info, "composite_operator", "operator.starting",
    [("namespace", .text shown), ("concurrency", .number concurrency)]⟩

end LogRecord

end CompositeApps
