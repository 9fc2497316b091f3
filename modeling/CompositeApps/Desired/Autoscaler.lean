import CompositeApps.Desired.Basic

/-!
The autoscaler of a version, which keeps its deployment within the bounds.
-/

namespace CompositeApps.Desired

def targetCpuPercent : Int := 80

def autoscaler (app : CompositeApp) (e : VersionEntry) : Desired Autoscaler :=
  if e.scalingEngine = .external then .unmanaged
  else if e.isRemoved then .absent
  else .present
    { metadata := app.versionMetadata e
      spec := some {
        minReplicas := some e.minReplicas
        maxReplicas := e.maxReplicas
        scaleTargetRef := {
          apiVersion := some "apps/v1", kind := "Deployment", name := app.versionName e }
        targetCpuPercent := some targetCpuPercent } }

end CompositeApps.Desired
