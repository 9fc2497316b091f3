import CompositeApps.Program

/-!
The operator on the command line. This build speaks to no cluster: where one is configured, it is
as if its server refused to answer.
-/

namespace CompositeApps

def watchedVariables : List String := [
  OperatorConfig.configVariable, OperatorConfig.namespaceVariable,
  OperatorConfig.concurrencyVariable, OperatorConfig.metricsAddressVariable,
  Program.filterVariable]

def readEnvironment : IO Environment := do
  let pairs ← watchedVariables.mapM fun name => return (name, ← IO.getEnv name)
  return fun name => (pairs.find? (·.1 = name)).bind (·.2)

def fileContents (path : String) : IO (Option String) := do
  try
    return some (← IO.FS.readFile path)
  catch _ =>
    return none

def settingsPath (arguments : List String) (env : Environment) : Option String :=
  match CommandLine.parse arguments (env OperatorConfig.configVariable) with
  | .ok options => OperatorConfig.pathOf? options.config env
  | .error _ => none

def findAccess : IO Program.Access := do
  let configured ← IO.getEnv "KUBECONFIG"
  let inCluster ← IO.getEnv "KUBERNETES_SERVICE_HOST"
  return if configured.isSome || inCluster.isSome then .refused else .unconfigured

def readSurroundings (arguments : List String) : IO Program.Surroundings := do
  let environment ← readEnvironment
  let path := settingsPath arguments environment
  let contents ← match path with
    | some p => fileContents p
    | none => pure none
  return {
    environment
    fileText := fun p => if some p = path then contents else none
    access := ← findAccess }

def logLine (format : CommandLine.LogFormat) (r : LogRecord) : String :=
  match format with
  | .text => r.text
  | .auto | .json => r.toJson.render

def printRecords (format : CommandLine.LogFormat) (records : List LogRecord) : IO Unit :=
  records.forM fun r => IO.eprintln (logLine format r)

def printEnding (ending : Program.Ending) : IO Unit := do
  match ending with
  | .usage message => IO.eprint message
  | .printed text => IO.print text
  | .failed format records error =>
    printRecords format records
    IO.eprintln ("Error: " ++ error)
  | .aborted format records cause =>
    printRecords format records
    IO.eprintln ("panicked: " ++ cause.message)

end CompositeApps

def main (arguments : List String) : IO UInt32 := do
  let surroundings ← CompositeApps.readSurroundings arguments
  let ending := CompositeApps.Program.run surroundings arguments
  CompositeApps.printEnding ending
  return UInt32.ofNat ending.code
