import CompositeApps.Config.SettingsFile
import CompositeApps.Net.SocketAddress
import CompositeApps.Number.Whole
import CompositeApps.Text.Basic
import CompositeApps.Time.DurationParser

/-!
The settings of the operator. What the environment says goes before what the file says, and that
before the defaults; a value that cannot be read is an error, wherever it comes from.
-/

namespace CompositeApps

structure FileConfig where
  namespaceName : Option String := none
  maxConcurrentReconciles : Option Nat := none
  metricsAddress : Option String := none
  resyncInterval : Option String := none
  retryInterval : Option String := none
  errorBackoff : Option String := none
  reporter : Option String := none
  deriving DecidableEq, Repr, Inhabited

namespace FileConfig

/-- Takes over one entry; there is none for an unknown key or a value of the wrong type. -/
def withEntry? (c : FileConfig) : SettingsFile.Entry → Option FileConfig
  | ("namespace", .text s) => some { c with namespaceName := some s }
  | ("max_concurrent_reconciles", .int i) =>
    if 0 ≤ i && i < 0x10000 then some { c with maxConcurrentReconciles := some i.toNat } else none
  | ("metrics_addr", .text s) => some { c with metricsAddress := some s }
  | ("resync_interval", .text s) => some { c with resyncInterval := some s }
  | ("retry_interval", .text s) => some { c with retryInterval := some s }
  | ("error_backoff", .text s) => some { c with errorBackoff := some s }
  | ("reporter", .text s) => some { c with reporter := some s }
  | _ => none

def parse? (text : String) : Option FileConfig := do
  (← SettingsFile.parse? text).foldlM withEntry? {}

end FileConfig

structure OperatorConfig where
  /-- The only namespace to look after; all of them where it is not set. -/
  namespaceName : Option String := none
  maxConcurrentReconciles : Nat := 10
  metricsAddress : SocketAddress := .v4 [0, 0, 0, 0] 8080
  /-- The time until an app that is in order is looked at again. -/
  resyncInterval : Duration := .ofSeconds 300
  /-- The time until a pass that lost a race is repeated. -/
  retryInterval : Duration := .ofSeconds 5
  /-- The time until a pass that failed is repeated. -/
  errorBackoff : Duration := .ofSeconds 30
  /-- The name under which events are published. -/
  reporter : String := "composite-operator"
  deriving DecidableEq, Repr, Inhabited

inductive ConfigError where
  | unreadable (path : String)
  | malformed (path : String)
  | invalid (field reason : String)
  deriving DecidableEq, Repr

def ConfigError.message : ConfigError → String
  | unreadable path => "failed to read " ++ path
  | malformed path => "failed to parse " ++ path
  | invalid field reason => "invalid " ++ field ++ ": " ++ reason

abbrev Environment := String → Option String

namespace OperatorConfig

def configVariable : String := "COMPOSITE_OPERATOR_CONFIG"

def namespaceVariable : String := "COMPOSITE_OPERATOR_NAMESPACE"

def concurrencyVariable : String := "COMPOSITE_OPERATOR_MAX_CONCURRENCY"

def metricsAddressVariable : String := "COMPOSITE_OPERATOR_METRICS_ADDR"

/-- Settings in the making. They may be wrong, and to read a span of time may abort. -/
abbrev Resolving := ExceptT ConfigError Aborting

def abort {α : Type} (cause : Abort) : Resolving α :=
  .mk (.error cause)

def unreadableValue (field raw reason : String) : ConfigError :=
  .invalid field (Text.quoted raw ++ ": " ++ reason)

def nonEmpty (s : Option String) : Option String :=
  s.filter (· ≠ "")

def resolveConcurrency (file : FileConfig) (env : Environment) : Except ConfigError Nat := do
  let field := "max_concurrent_reconciles"
  let n ← match env concurrencyVariable with
    | some raw => (Whole.parse 0xFFFF (Text.trim raw)).mapError fun e =>
        unreadableValue field raw e.message
    | none => .ok (file.maxConcurrentReconciles.getD ({} : OperatorConfig).maxConcurrentReconciles)
  if n = 0 then .error (.invalid field "must be at least 1") else return n

def resolveMetricsAddress (file : FileConfig) (env : Environment) :
    Except ConfigError SocketAddress :=
  match (env metricsAddressVariable).or file.metricsAddress with
  | some raw =>
    match SocketAddress.parse? (Text.trim raw) with
    | some address => .ok address
    | none => .error (unreadableValue "metrics_addr" raw "invalid socket address syntax")
  | none => .ok ({} : OperatorConfig).metricsAddress

def resolveDuration (field : String) (raw : Option String) (default : Duration) :
    Resolving Duration :=
  match raw with
  | none => return default
  | some raw =>
    match Duration.parse raw with
    | .ok d => return d
    | .error (.malformed e) => throw (unreadableValue field raw e.message)
    | .error (.aborted cause) => abort cause

/-- The settings that hold. Of several that cannot be read the first one here is reported. -/
def resolve (file : FileConfig) (env : Environment) : Resolving OperatorConfig := do
  let defaults : OperatorConfig := {}
  let maxConcurrentReconciles ← resolveConcurrency file env
  let metricsAddress ← resolveMetricsAddress file env
  let resyncInterval ←
    resolveDuration "resync_interval" file.resyncInterval defaults.resyncInterval
  let retryInterval ← resolveDuration "retry_interval" file.retryInterval defaults.retryInterval
  let errorBackoff ← resolveDuration "error_backoff" file.errorBackoff defaults.errorBackoff
  return {
    namespaceName := nonEmpty ((env namespaceVariable).or file.namespaceName)
    maxConcurrentReconciles, metricsAddress, resyncInterval, retryInterval, errorBackoff
    reporter := (nonEmpty file.reporter).getD defaults.reporter }

def pathOf? (path : Option String) (env : Environment) : Option String :=
  path.or (env configVariable)

def fileSettings (path : String) (contents : Option String) : Except ConfigError FileConfig :=
  match contents with
  | none => .error (.unreadable path)
  | some text =>
    match FileConfig.parse? text with
    | some file => .ok file
    | none => .error (.malformed path)

/-- Loads the settings; `read` gives the contents of a file that can be read. -/
def load (path : Option String) (read : String → Option String) (env : Environment) :
    Resolving OperatorConfig := do
  let file ← match pathOf? path env with
    | some path => liftM (fileSettings path (read path))
    | none => pure {}
  resolve file env

end OperatorConfig

end CompositeApps
