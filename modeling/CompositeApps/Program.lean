import CompositeApps.CommandLine.Help
import CompositeApps.Config.Operator
import CompositeApps.Log.Filter

/-!
The operator as a program: what it reads, prints and logs from its start until it has to do with a
cluster. It is taken for granted that the address for metrics can be bound. A cluster that serves
apps is not among those that the program finds here, so that no run comes to `Controller.run`:
what follows from there on, with the settings that hold, is described on its own.
-/

namespace CompositeApps.Program

inductive Access where
  /-- Nothing says where a cluster is. -/
  | unconfigured
  /-- The server of the cluster does not answer. -/
  | refused
  deriving DecidableEq, Repr, Inhabited

structure Surroundings where
  environment : Environment
  /-- The contents of a file that can be read. -/
  fileText : String → Option String
  access : Access

inductive Ending where
  /-- The arguments were wrong. -/
  | usage (message : String)
  | printed (text : String)
  /-- The program failed; the records are those that it wrote before. -/
  | failed (format : CommandLine.LogFormat) (records : List LogRecord) (error : String)
  /-- A computation aborted, and the program with it. -/
  | aborted (format : CommandLine.LogFormat) (records : List LogRecord) (cause : Abort)
  deriving DecidableEq, Repr

namespace Ending

def code : Ending → Nat
  | usage _ => 2
  | printed _ => 0
  | failed _ _ _ => 1
  | aborted _ _ _ => 101

end Ending

def filterVariable : String := "RUST_LOG"

/-- The settings with the namespace of the arguments, which goes before all others. -/
def withNamespace (config : OperatorConfig) (watched : Option String) : OperatorConfig :=
  { config with namespaceName := watched.or config.namespaceName }

def loadRecords (options : CommandLine.Options) (env : Environment) : List LogRecord :=
  match OperatorConfig.pathOf? options.config env with
  | some path => [.configLoad path]
  | none => []

def start (access : Access) (config : OperatorConfig) : List LogRecord × String :=
  let listening := LogRecord.probesListening config.metricsAddress.text
  match access with
  | .unconfigured => ([listening], "Failed to infer configuration")
  | .refused =>
    ([listening, .operatorStarting config.namespaceName config.maxConcurrentReconciles],
      "CompositeApp CRD is not served; install it with crd-gen")

def operate (s : Surroundings) (options : CommandLine.Options) :
    List LogRecord × Aborting String :=
  let tried := loadRecords options s.environment
  match OperatorConfig.load options.config s.fileText s.environment with
  | .error cause => (tried, .error cause)
  | .ok (.error e) => (tried, .ok e.message)
  | .ok (.ok config) =>
    let (records, error) := start s.access (withNamespace config options.watchedNamespace)
    (tried ++ records, .ok error)

def run (s : Surroundings) (arguments : List String) : Ending :=
  let configVariable := s.environment OperatorConfig.configVariable
  match CommandLine.parse arguments configVariable with
  | .error (.usage e) => .usage e.message
  | .error (.help true) => .printed (CommandLine.longHelp configVariable)
  | .error (.help false) => .printed (CommandLine.shortHelp configVariable)
  | .error .version => .printed CommandLine.versionText
  | .ok options =>
    match LogFilter.select (s.environment filterVariable) options.logLevel with
    | .error e => .failed options.logFormat [] e.message
    | .ok filter =>
      let (records, ended) := operate s options
      let written := records.filter filter.allows
      match ended with
      | .ok error => .failed options.logFormat written error
      | .error cause => .aborted options.logFormat written cause

end CompositeApps.Program
