import CompositeApps.App.Basic
import CompositeApps.Time.DurationParser

/-!
The checks that a spec passes before anything is made from it. They run in a fixed order: the name,
the policy, the gateway, then the versions one after the other; the first violation is reported.
-/

namespace CompositeApps

structure ValidationError where
  path : String
  text : String
  deriving DecidableEq, Repr, Inhabited

def ValidationError.message (e : ValidationError) : String :=
  e.path ++ ": " ++ e.text

/-- Why a spec does not pass: a rule is broken, or the check itself aborted. -/
inductive Refusal where
  | invalid (cause : ValidationError)
  | aborted (cause : Abort)
  deriving DecidableEq, Repr

abbrev Check := Except Refusal Unit

namespace Check

def pass : Check := .ok ()

def reject (path text : String) : Check :=
  .error (.invalid ⟨path, text⟩)

def require (condition : Bool) (path text : String) : Check :=
  if condition then pass else reject path text

def whenSome {α : Type} (a : Option α) (check : α → Check) : Check :=
  match a with
  | some a => check a
  | none => pass

end Check

open Check

def isLabelChar (c : Char) : Bool :=
  c.isLower || c.isDigit || c = '-'

/-- A label as host names are made of: 1 to 63 lower-case letters, digits and inner hyphens. -/
def isDnsLabel (s : String) : Bool :=
  s ≠ "" && s.utf8ByteSize ≤ 63 && s.toList.all isLabelChar &&
    s.toList.head? ≠ some '-' && s.toList.getLast? ≠ some '-'

def checkDnsLabel (path value : String) : Check :=
  require (isDnsLabel value) path (Text.quoted value ++ " is not a valid DNS-1123 label")

def checkDuration (path value : String) : Check :=
  match Duration.parse value with
  | .ok _ => pass
  | .error (.malformed e) =>
    reject path ("invalid duration " ++ Text.quoted value ++ ": " ++ e.message)
  | .error (.aborted a) => .error (.aborted a)

def isPercent (x : Binary64) : Bool :=
  Binary64.zero.le x && x.le (.ofNat 100)

def checkPercent (path : String) (x : Binary64) : Check :=
  require (isPercent x) path ("percent " ++ x.text ++ " outside 0..=100")

namespace VersionEntry

def validateReplicas (path : String) (e : VersionEntry) : Check :=
  if e.isRemoved then pass
  else if e.minReplicas ≤ 0 then
    reject (path ++ ".minReplicas")
      ("must be positive or " ++ toString removedMark ++ ", got " ++ toString e.minReplicas)
  else
    require (e.minReplicas ≤ e.maxReplicas) (path ++ ".maxReplicas")
      (toString e.maxReplicas ++ " is less than minReplicas " ++ toString e.minReplicas)

def validate (path : String) (e : VersionEntry) : Check := do
  require (e.version ≠ "") (path ++ ".version") "version must not be empty"
  checkDnsLabel (path ++ ".version") e.version
  require (!Text.isAllBlank e.image) (path ++ ".image") "image must not be empty"
  e.validateReplicas path
  require (1 ≤ e.port && e.port ≤ 65535) (path ++ ".port")
    (toString e.port ++ " is not a valid port")

end VersionEntry

namespace GatewaySpec

def weightPath (version : String) : String :=
  "spec.gateway.weights." ++ version

def validateWeight (app : CompositeApp) (version : String) (weight : Int) : Check := do
  require (app.declares version) (weightPath version) "names no declared version"
  require (0 ≤ weight) (weightPath version) ("negative weight " ++ toString weight)

def validate (g : GatewaySpec) (app : CompositeApp) : Check := do
  require (!g.hosts.isEmpty && !g.hosts.any Text.isAllBlank) "spec.gateway.hosts"
    "at least one non-empty host is required"
  require (!g.weights.isEmpty) "spec.gateway.weights" "weights must not be empty"
  g.weights.toList.forM fun (version, weight) => validateWeight app version weight
  let total := (g.weights.toList.map (·.2)).foldr (· + ·) 0
  require (total = 100) "spec.gateway.weights"
    ("weights sum to " ++ toString total ++ ", expected 100")
  g.routes.keys.forM fun version =>
    require (app.declares version) ("spec.gateway.routes." ++ version) "names no declared version"

end GatewaySpec

namespace TrafficPolicySpec

def validateRetries (r : RetrySpec) : Check := do
  require (0 < r.attempts) "spec.policy.retries.attempts"
    ("must be positive, got " ++ toString r.attempts)
  whenSome r.perTryTimeout (checkDuration "spec.policy.retries.perTryTimeout")

def validateDelay (d : DelaySpec) : Check := do
  checkDuration "spec.policy.fault.delay.delay" d.delay
  checkPercent "spec.policy.fault.delay.percent" d.percent

def validateAbort (a : AbortSpec) : Check := do
  checkPercent "spec.policy.fault.abort.percent" a.percent
  require (100 ≤ a.httpStatus && a.httpStatus ≤ 599) "spec.policy.fault.abort.httpStatus"
    (toString a.httpStatus ++ " is not an HTTP status")

def validateFault (f : FaultSpec) : Check := do
  whenSome f.delay validateDelay
  whenSome f.abort validateAbort

def validateOutlier (o : OutlierSpec) : Check := do
  require (o.consecutiveErrors ≠ 0) "spec.policy.outlierDetection.consecutiveErrors"
    "must be positive"
  whenSome o.interval (checkDuration "spec.policy.outlierDetection.interval")
  whenSome o.ejectionTime (checkDuration "spec.policy.outlierDetection.ejectionTime")

def validate (p : TrafficPolicySpec) : Check := do
  whenSome p.timeout (checkDuration "spec.policy.timeout")
  whenSome p.maxRequests fun n =>
    require (0 < n) "spec.policy.maxRequests" ("must be positive, got " ++ toString n)
  whenSome p.retries validateRetries
  whenSome p.fault validateFault
  whenSome p.outlierDetection validateOutlier

end TrafficPolicySpec

namespace CompositeApp

def entryPath (i : Nat) : String :=
  "spec.apps[" ++ toString i ++ "]"

/-- Checks the entries from the `i`-th on; `seen` are the versions of those before. -/
def validateEntries : Nat → List String → List VersionEntry → Check
  | _, _, [] => pass
  | i, seen, e :: rest => do
    e.validate (entryPath i)
    require (!seen.contains e.version) (entryPath i ++ ".version")
      ("duplicate version " ++ Text.quoted e.version)
    validateEntries (i + 1) (e.version :: seen) rest

def validate (app : CompositeApp) : Check := do
  checkDnsLabel "metadata.name" app.name
  whenSome app.spec.policy TrafficPolicySpec.validate
  whenSome app.spec.gateway (·.validate app)
  validateEntries 0 [] app.spec.apps

end CompositeApp

end CompositeApps
