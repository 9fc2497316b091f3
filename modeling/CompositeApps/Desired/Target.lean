import CompositeApps.Desired.Deployment
import CompositeApps.Desired.Service
import CompositeApps.Desired.VirtualService
import CompositeApps.Desired.Autoscaler
import CompositeApps.Desired.DestinationRule

/-!
The objects that an app needs of each kind, and what it wants of each of them.
-/

namespace CompositeApps

structure Target where
  name : String
  entry : Option VersionEntry
  deriving DecidableEq, Inhabited

def CompositeApp.targets (app : CompositeApp) : Scope → List Target
  | .app => [⟨app.name, none⟩]
  | .version => app.spec.apps.map fun e => ⟨app.versionName e, some e⟩

/-- What an app wants of an object, given the one that is there. An object for a version needs the
version. -/
def ChildKind.desired (kind : ChildKind) (app : CompositeApp) (entry : Option VersionEntry)
    (observed : Option Child) : Aborting (Desired Child) :=
  match kind with
  | .deployment => .ok <| match entry with
    | some e => (Desired.deployment app e (observed.bind (·.deployment?))).map .deployment
    | none => .unmanaged
  | .service => .ok ((Desired.service app).map .service)
  | .virtualService => (·.map .virtualService) <$> Desired.virtualService app
  | .autoscaler => .ok <| match entry with
    | some e => (Desired.autoscaler app e).map .autoscaler
    | none => .unmanaged
  | .destinationRule => (·.map .destinationRule) <$> Desired.destinationRule app

end CompositeApps
