import CompositeApps.CommandLine.Options

/-!
What is printed about the arguments: help, version, and what is wrong with them.
-/

namespace CompositeApps.CommandLine

def programName : String := "composite-operator"

def versionText : String := programName ++ " 0.1.0\n"

/-- The environment may name the settings file; what it says is shown. -/
def environmentNote (configVariable : Option String) : String :=
  "[env: COMPOSITE_OPERATOR_CONFIG=" ++ configVariable.getD "" ++ "]"

def unlines (lines : List String) : String :=
  String.join (lines.map (· ++ "\n"))

def shortHelp (configVariable : Option String) : String :=
  unlines [
    "Reconciles CompositeApp resources",
    "",
    "Usage: composite-operator [OPTIONS]",
    "",
    "Options:",
    "      --log-level <LOG_LEVEL>    Log level used when RUST_LOG is unset [default: info]",
    "      --log-format <LOG_FORMAT>  [default: auto] [possible values: auto, text, json]",
    "      --config <CONFIG>          TOML config file " ++ environmentNote configVariable,
    "      --namespace <NAMESPACE>    Only watch this namespace (overrides config)",
    "  -h, --help                     Print help (see more with '--help')",
    "  -V, --version                  Print version"]

def longHelp (configVariable : Option String) : String :=
  unlines [
    "Reconciles CompositeApp resources",
    "",
    "Usage: composite-operator [OPTIONS]",
    "",
    "Options:",
    "      --log-level <LOG_LEVEL>",
    "          Log level used when RUST_LOG is unset",
    "          ",
    "          [default: info]",
    "",
    "      --log-format <LOG_FORMAT>",
    "          Possible values:",
    "          - auto: JSON when stderr is not a terminal (in-cluster), text otherwise",
    "          - text",
    "          - json",
    "          ",
    "          [default: auto]",
    "",
    "      --config <CONFIG>",
    "          TOML config file",
    "          ",
    "          " ++ environmentNote configVariable,
    "",
    "      --namespace <NAMESPACE>",
    "          Only watch this namespace (overrides config)",
    "",
    "  -h, --help",
    "          Print help (see a summary with '-h')",
    "",
    "  -V, --version",
    "          Print version"]

def possibleValues : OptionName → List String
  | .logFormat => ["  [possible values: auto, text, json]"]
  | .logLevel | .config | .watchedNamespace => []

def usageLine (used : List Name) : String :=
  "Usage: " ++ " ".intercalate
    (programName :: if used.isEmpty then ["[OPTIONS]"] else used.map Name.shown)

namespace UsageError

def headline : UsageError → String
  | unexpected argument _ _ => "unexpected argument '" ++ argument ++ "' found"
  | missingValue o => "a value is required for '" ++ o.shown ++ "' but none was supplied"
  | invalidFormat value _ =>
    "invalid value '" ++ value ++ "' for '" ++ OptionName.logFormat.shown ++ "'"
  | repeated o => "the argument '" ++ o.shown ++ "' cannot be used multiple times"
  | unneededValue f value _ =>
    "unexpected value '" ++ value ++ "' for '--" ++ f.name ++ "' found; no more were expected"

def values : UsageError → List String
  | missingValue o => possibleValues o
  | invalidFormat _ _ => possibleValues .logFormat
  | unexpected _ _ _ | repeated _ | unneededValue _ _ _ => []

def tip : UsageError → List String
  | unexpected _ (some n) _ =>
    ["", "  tip: a similar argument exists: '--" ++ n.name ++ "'"]
  | invalidFormat _ (some f) => ["", "  tip: a similar value exists: '" ++ f.name ++ "'"]
  | _ => []

def usage : UsageError → List String
  | unexpected _ _ used | unneededValue _ _ used => ["", usageLine used]
  | repeated _ => ["", usageLine []]
  | missingValue _ | invalidFormat _ _ => []

def message (e : UsageError) : String :=
  unlines (["error: " ++ e.headline] ++ e.values ++ e.tip ++ e.usage ++
    ["", "For more information, try '--help'."])

end UsageError

end CompositeApps.CommandLine
