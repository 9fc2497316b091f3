import CompositeApps.Desired.Basic
import CompositeApps.Desired.Deployment
import CompositeApps.Time.DurationParser

/-!
The routing of requests to the versions of an app. Within the mesh a caller reaches the version it
belongs to itself; through a gateway a request is pinned by its headers or goes by the weights.
-/

namespace CompositeApps.Desired

def versionHeader : String := "VERSION"

def meshGateway : String := "mesh"

def meshDuration (text : Option String) : Aborting (Option String) :=
  match text with
  | some t => Duration.protoDuration t
  | none => .ok none

def retries (r : RetrySpec) : Aborting HttpRetry := do
  return { attempts := r.attempts
           perTryTimeout := ← meshDuration r.perTryTimeout
           retryOn := nonEmptyText? r.retryOn }

/-- A delay whose length is not readable is left out. -/
def faultDelay (d : DelaySpec) : Aborting (Option FaultDelay) := do
  return (← Duration.protoDuration d.delay).map fun text =>
    { fixedDelay := text, percentage := some ⟨d.percent⟩ }

def faultAbort (a : AbortSpec) : FaultAbort :=
  { httpStatus := a.httpStatus, percentage := some ⟨a.percent⟩ }

def fault (f : FaultSpec) : Aborting (Option HttpFault) := do
  let delay ← match f.delay with
    | some d => faultDelay d
    | none => pure none
  let abort := f.abort.map faultAbort
  return if delay.isSome || abort.isSome then some ⟨abort, delay⟩ else none

structure RuleSettings where
  timeout : Option String := none
  retries : Option HttpRetry := none
  fault : Option HttpFault := none
  deriving DecidableEq, Repr

def RuleSettings.ofPolicy (policy : Option TrafficPolicySpec) : Aborting RuleSettings :=
  match policy with
  | none => .ok {}
  | some p => do
    let timeout ← meshDuration p.timeout
    let retries ← match p.retries with
      | some r => some <$> Desired.retries r
      | none => pure none
    let fault ← match p.fault with
      | some f => Desired.fault f
      | none => pure none
    return ⟨timeout, retries, fault⟩

def orDefaults (given defaults : List String) : List String :=
  if given.isEmpty then defaults else given

def corsPolicy (c : CorsSpec) : CorsPolicy :=
  { allowOrigins := c.allowOrigins.map .exact
    allowMethods := orDefaults c.allowMethods ["POST", "GET", "OPTIONS", "DELETE", "PUT"]
    allowHeaders := orDefaults c.allowHeaders ["Origin", "x-token"]
    exposeHeaders := c.exposeHeaders
    maxAge := some "86400s"
    allowCredentials := some true }

def destination (app : CompositeApp) (e : VersionEntry) (weight : Int) : WeightedDestination :=
  { destination := {
      host := app.serviceHost
      subset := some (app.versionName e)
      port := if 0 ≤ e.port then some e.port.toNat else none }
    weight := weight }

def rule (settings : RuleSettings) (blocks : List HttpMatch) (rewrite : Option HttpRewrite)
    (route : List WeightedDestination) (cors : Option CorsPolicy) : HttpRoute :=
  { blocks := blocks
    rewrite := rewrite
    route := route
    timeout := settings.timeout
    retries := settings.retries
    fault := settings.fault
    corsPolicy := cors }

/-- The rule by which callers of a version reach the same version. -/
def meshRule (app : CompositeApp) (settings : RuleSettings) (e : VersionEntry) : HttpRoute :=
  let callers : HttpMatch :=
    { sourceLabels := (∅ : Labels).insert CompositeApp.versionLabel e.version
      sourceNamespace := some app.namespaceName }
  rule settings [callers] none [destination app e 100] none

def meshRoutes (app : CompositeApp) (settings : RuleSettings) : VirtualServiceSpec :=
  { hosts := [app.serviceHost]
    gateways := [meshGateway]
    http := app.spec.apps.map (meshRule app settings) }

/-- Match blocks for a path and everything below it, with the same headers in each. -/
def pathBlocks (path : String) (headers : Dict TextMatch) : List HttpMatch :=
  let below : HttpMatch := { uri := some (.leading (path ++ "/")), headers := headers }
  if path = "" then [below]
  else [below, { uri := some (.leading path), headers := headers }]

def exactHeaders (headers : Dict String) : Dict TextMatch :=
  headers.map fun _ v => .exact v

/-- The sets of headers that pin a request to a version: those of its route, then its name. -/
def pinningHeaders (gateway : GatewaySpec) (e : VersionEntry) : List (Dict TextMatch) :=
  let routed := match gateway.routes[e.version]? with
    | some route => route.headersMatch.map exactHeaders
    | none => []
  routed ++ [(∅ : Dict TextMatch).insert versionHeader (.exact e.version)]

def pinnedRule (app : CompositeApp) (gateway : GatewaySpec) (settings : RuleSettings)
    (e : VersionEntry) : HttpRoute :=
  rule settings ((pinningHeaders gateway e).flatMap (pathBlocks app.prefixPath)) (some ⟨"/"⟩)
    [destination app e 100] (gateway.cors.map corsPolicy)

def weightOf (gateway : GatewaySpec) (e : VersionEntry) : Int :=
  gateway.weights[e.version]?.getD 0

def weightedRule (app : CompositeApp) (gateway : GatewaySpec) (settings : RuleSettings) :
    HttpRoute :=
  rule settings (pathBlocks app.prefixPath ∅) (some ⟨"/"⟩)
    (app.spec.apps.map fun e => destination app e (weightOf gateway e))
    (gateway.cors.map corsPolicy)

def gatewayRoutes (app : CompositeApp) (gateway : GatewaySpec) (settings : RuleSettings) :
    VirtualServiceSpec :=
  { hosts := gateway.hosts
    gateways := [gateway.ingressGateway]
    http := app.spec.apps.map (pinnedRule app gateway settings) ++
      [weightedRule app gateway settings] }

def routes (app : CompositeApp) (settings : RuleSettings) : VirtualServiceSpec :=
  match app.spec.gateway with
  | none => meshRoutes app settings
  | some gateway => gatewayRoutes app gateway settings

def virtualService (app : CompositeApp) : Aborting (Desired VirtualService) :=
  if app.spec.apps.isEmpty then .ok .absent
  else do
    let settings ← RuleSettings.ofPolicy app.spec.policy
    return .present { metadata := app.childMetadata, spec := routes app settings }

end CompositeApps.Desired
