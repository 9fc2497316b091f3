import CompositeApps.Text.Similarity

/-!
The arguments of the operator. They are read from left to right, and the first that asks for help or
for the version, or that is wrong, ends the reading. An option's value is looked at only once it is
clear that nothing more belongs to the option; if the next argument is an unknown one, that is what
is reported.
-/

namespace CompositeApps.CommandLine

inductive OptionName where
  | logLevel
  | logFormat
  | config
  | watchedNamespace
  deriving DecidableEq, Repr, Inhabited

namespace OptionName

def all : List OptionName :=
  [logLevel, logFormat, config, watchedNamespace]

def name : OptionName → String
  | logLevel => "log-level"
  | logFormat => "log-format"
  | config => "config"
  | watchedNamespace => "namespace"

def valueName : OptionName → String
  | logLevel => "LOG_LEVEL"
  | logFormat => "LOG_FORMAT"
  | config => "CONFIG"
  | watchedNamespace => "NAMESPACE"

def shown (o : OptionName) : String :=
  "--" ++ o.name ++ " <" ++ o.valueName ++ ">"

end OptionName

inductive Flag where
  | help
  | version
  deriving DecidableEq, Repr, Inhabited

namespace Flag

def name : Flag → String
  | help => "help"
  | version => "version"

def letter : Flag → Char
  | help => 'h'
  | version => 'V'

end Flag

inductive Name where
  | option (o : OptionName)
  | flag (f : Flag)
  deriving DecidableEq, Repr, Inhabited

namespace Name

def all : List Name :=
  OptionName.all.map option ++ [flag .help, flag .version]

def name : Name → String
  | option o => o.name
  | flag f => f.name

def ofName? (name : String) : Option Name :=
  all.find? (·.name = name)

def shown : Name → String
  | option o => o.shown
  | flag f => "--" ++ f.name

end Name

inductive LogFormat where
  /-- Structured records, unless somebody watches. -/
  | auto
  | text
  | json
  deriving DecidableEq, Repr, Inhabited

namespace LogFormat

def all : List LogFormat :=
  [auto, text, json]

def name : LogFormat → String
  | auto => "auto"
  | text => "text"
  | json => "json"

def ofName? (name : String) : Option LogFormat :=
  all.find? (·.name = name)

end LogFormat

inductive UsageError where
  /-- An unknown argument; `used` are the arguments that the usage line shows. -/
  | unexpected (argument : String) (similar : Option Name) (used : List Name)
  | missingValue (o : OptionName)
  | invalidFormat (value : String) (similar : Option LogFormat)
  | repeated (o : OptionName)
  | unneededValue (f : Flag) (value : String) (used : List Name)
  deriving DecidableEq, Repr

inductive Stop where
  | usage (error : UsageError)
  | help (long : Bool)
  | version
  deriving DecidableEq, Repr

structure Options where
  logLevel : String := "info"
  logFormat : LogFormat := .auto
  config : Option String := none
  watchedNamespace : Option String := none
  deriving DecidableEq, Repr, Inhabited

structure Reading where
  /-- The options that were given with their values, in order. -/
  given : List (OptionName × String) := []
  /-- The option that was met last, if it is not settled, and its value, if it has one. -/
  pending : Option (OptionName × Option String) := none
  /-- Behind a lone `--` there are no options any more. -/
  onlyOperands : Bool := false
  deriving DecidableEq, Repr, Inhabited

namespace Reading

def names (r : Reading) : List OptionName :=
  r.given.map (·.1)

def checkValue (o : OptionName) (value : String) : Except Stop Unit :=
  match o with
  | .logLevel | .watchedNamespace => .ok ()
  | .config => if value = "" then .error (.usage (.missingValue o)) else .ok ()
  | .logFormat =>
    if value = "" then .error (.usage (.missingValue o))
    else
      match LogFormat.ofName? value with
      | some _ => .ok ()
      | none =>
        let similar := Text.Similarity.closest? value (LogFormat.all.map LogFormat.name)
        .error (.usage (.invalidFormat value (similar.bind LogFormat.ofName?)))

def accept (r : Reading) (o : OptionName) (value : String) : Except Stop Reading := do
  if o ∈ r.names then .error (.usage (.repeated o))
  else
    checkValue o value
    return { r with given := r.given ++ [(o, value)] }

def settle (r : Reading) : Except Stop Reading :=
  let settled := { r with pending := none }
  match r.pending with
  | none => .ok settled
  | some (o, none) => .error (.usage (.missingValue o))
  | some (o, some value) => settled.accept o value

/-- The options that count as used where an unknown argument follows: what is wrong with the last
one is not reported then. -/
def used (r : Reading) : List Name :=
  let options := match r.pending with
    | some (o, some _) => if o ∈ r.names then r.names.filter (· ≠ o) else r.names ++ [o]
    | _ => r.names
  options.map .option

def unexpected {α : Type} (argument : String) : Except Stop α :=
  .error (.usage (.unexpected argument none []))

def unknownName {α : Type} (r : Reading) (name : String) : Except Stop α :=
  let similar := (Text.Similarity.closest? name (Name.all.map Name.name)).bind Name.ofName?
  let used := match similar with
    | some n => if n ∈ r.used then r.used else r.used ++ [n]
    | none => r.used
  .error (.usage (.unexpected ("--" ++ name) similar used))

def stopAt {α : Type} (r : Reading) (f : Flag) (long : Bool) : Except Stop α := do
  let _ ← r.settle
  match f with
  | .help => throw (.help long)
  | .version => throw .version

def readLong (r : Reading) (cs : List Char) : Except Stop Reading :=
  let (name, rest) := cs.span (· ≠ '=')
  let value : Option String := match rest with
    | [] => none
    | _ :: value => some (String.ofList value)
  match Name.ofName? (String.ofList name), value with
  | none, _ => r.unknownName (String.ofList name)
  | some (.flag f), some value =>
    .error (.usage (.unneededValue f value (r.names.map .option ++ [.flag f])))
  | some (.flag f), none => r.stopAt f true
  | some (.option o), some value => do (← r.settle).accept o value
  | some (.option o), none => do return { ← r.settle with pending := some (o, none) }

/-- An argument that starts with one hyphen, behind it: each letter is a flag, and the first one
already ends the reading. -/
def readShort (r : Reading) (c : Char) : Except Stop Reading :=
  match [Flag.help, Flag.version].find? (·.letter = c) with
  | some f => r.stopAt f false
  | none => unexpected ("-" ++ String.singleton c)

/-- An argument that does not start like an option: the value of the one before, or nothing that is
known. -/
def readOperand (r : Reading) (argument : String) : Except Stop Reading :=
  match r.onlyOperands, r.pending with
  | false, some (o, none) => .ok { r with pending := some (o, some argument) }
  | _, _ => unexpected argument

def read (r : Reading) (argument : String) : Except Stop Reading :=
  if r.onlyOperands then r.readOperand argument
  else
    match argument.toList with
    | ['-', '-'] => .ok { r with onlyOperands := true }
    | '-' :: '-' :: cs => r.readLong cs
    | '-' :: c :: _ => r.readShort c
    | _ => r.readOperand argument

def value? (r : Reading) (o : OptionName) : Option String :=
  (r.given.find? (·.1 = o)).map (·.2)

def options (r : Reading) : Options where
  logLevel := (r.value? .logLevel).getD "info"
  logFormat := ((r.value? .logFormat).bind LogFormat.ofName?).getD .auto
  config := r.value? .config
  watchedNamespace := r.value? .watchedNamespace

end Reading

/-- Reads the arguments. The settings file may also be named by the environment. -/
def parse (arguments : List String) (configVariable : Option String) : Except Stop Options := do
  let r ← arguments.foldlM Reading.read {}
  let r ← r.settle
  match r.value? .config, configVariable with
  | none, some path => return (← r.accept .config path).options
  | _, _ => return r.options

end CompositeApps.CommandLine
