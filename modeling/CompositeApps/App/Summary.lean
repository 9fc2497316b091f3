import CompositeApps.Desired.Basic

/-!
The status of an app: what its children report, and the summary that listings show.
-/

namespace CompositeApps

namespace CompositeApp

def replicasWord (status : AppStatus) (e : VersionEntry) : String :=
  e.version ++ ":" ++ toString e.minReplicas ++ "-" ++ toString e.maxReplicas ++ "(" ++
    toString (status.availableReplicas[e.version]?.getD 0) ++ ")"

def imageWord (e : VersionEntry) : String :=
  e.version ++ ":" ++ e.imageTag

def weightWord? (gateway : GatewaySpec) (e : VersionEntry) : Option String :=
  gateway.weights[e.version]?.map fun w => e.version ++ ":" ++ toString w

def summary (app : CompositeApp) (status : AppStatus) : StatusSummary :=
  let words (ws : List String) : String := " ".intercalate ws
  { replicas := words (app.spec.apps.map (replicasWord status))
    images := words (app.spec.apps.map imageWord)
    weights := match app.spec.gateway with
      | some gateway => words (app.spec.apps.filterMap (weightWord? gateway))
      | none => ""
    prefixPath := app.prefixPath }

end CompositeApp

namespace AppStatus

def finished (status : AppStatus) (app : CompositeApp) : AppStatus :=
  { status with
    summary := app.summary status
    observedGeneration := app.metadata.generation }

/-- Notes how many pods of a version are available; a deployment that does not say has none. -/
def observe (status : AppStatus) (entry : Option VersionEntry) (observed : Option Child) :
    AppStatus :=
  match entry, observed with
  | some e, some (.deployment d) =>
    let available := (d.status.bind (·.availableReplicas)).getD 0
    { status with availableReplicas := status.availableReplicas.insert e.version available }
  | _, _ => status

end AppStatus

end CompositeApps
