import CompositeApps.Desired.VirtualService

/-!
The subsets of an app's pods, one for each version, and the limits on connections to them.
-/

namespace CompositeApps.Desired

def positive? (n : Int) : Option Int :=
  if 0 < n then some n else none

def outlierDetection (o : OutlierSpec) : Aborting OutlierDetection := do
  return { consecutive5xxErrors := some o.consecutiveErrors
           interval := ← meshDuration o.interval
           baseEjectionTime := ← meshDuration o.ejectionTime
           maxEjectionPercent := positive? o.maxEjectionPercent
           minHealthPercent := positive? o.minHealthPercent }

def connectionPool (limit : Int) : ConnectionPool :=
  { http := some { http1MaxPendingRequests := some limit, http2MaxRequests := some limit } }

def trafficPolicy (policy : Option TrafficPolicySpec) : Aborting TrafficPolicy := do
  let outliers ← match policy.bind (·.outlierDetection) with
    | some o => some <$> outlierDetection o
    | none => pure none
  return { loadBalancer := some { simple := some "ROUND_ROBIN" }
           connectionPool := (policy.bind (·.maxRequests)).map Desired.connectionPool
           outlierDetection := outliers }

def subset (app : CompositeApp) (e : VersionEntry) : Subset :=
  { name := app.versionName e, labels := app.versionLabels e }

def destinationRule (app : CompositeApp) : Aborting (Desired DestinationRule) :=
  if app.spec.apps.isEmpty then .ok .absent
  else do
    let policy ← trafficPolicy app.spec.policy
    return .present
      { metadata := app.childMetadata
        spec := {
          host := app.serviceHost
          trafficPolicy := some policy
          subsets := app.spec.apps.map (subset app) } }

end CompositeApps.Desired
