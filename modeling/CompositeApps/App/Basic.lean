import CompositeApps.App.Version
import CompositeApps.App.Gateway
import CompositeApps.App.Policy

/-!
Composite apps: one logical service that runs as several versions. The names and labels here tie an
app to the objects that are made for it.
-/

namespace CompositeApps

structure AppSpec where
  role : Option AppRole := none
  apps : List VersionEntry := []
  gateway : Option GatewaySpec := none
  policy : Option TrafficPolicySpec := none
  deriving DecidableEq, Inhabited

namespace AppSpec

def decode : Decoder AppSpec :=
  Fields.record "CompositeAppSpec" (
    AppSpec.mk
      <$> Fields.optional "role" AppRole.decode
      <*> Fields.withDefault "apps" [] (Decoder.list VersionEntry.decode)
      <*> Fields.optional "gateway" GatewaySpec.decode
      <*> Fields.optional "policy" TrafficPolicySpec.decode)

def toJson (s : AppSpec) : Json :=
  Json.ofOptionalFields [
    ("apps", some (Json.ofList VersionEntry.toJson s.apps)),
    ("gateway", s.gateway.map GatewaySpec.toJson),
    ("policy", s.policy.map TrafficPolicySpec.toJson),
    ("role", s.role.map fun r => .str r.name)]

def isFinite (s : AppSpec) : Bool :=
  s.policy.all (·.isFinite)

end AppSpec

structure StatusSummary where
  replicas : String := ""
  images : String := ""
  weights : String := ""
  prefixPath : String := ""
  deriving DecidableEq, Repr, Inhabited

namespace StatusSummary

def decode : Decoder StatusSummary :=
  Fields.record "StatusDesc" (
    StatusSummary.mk
      <$> Fields.withDefault "replicas" "" Decoder.text
      <*> Fields.withDefault "images" "" Decoder.text
      <*> Fields.withDefault "weights" "" Decoder.text
      <*> Fields.withDefault "prefixPath" "" Decoder.text)

def toJson (d : StatusSummary) : Json :=
  .obj [
    ("images", .str d.images), ("prefixPath", .str d.prefixPath), ("replicas", .str d.replicas),
    ("weights", .str d.weights)]

end StatusSummary

structure AppStatus where
  availableReplicas : Dict Int := ∅
  success : Bool := false
  summary : StatusSummary := {}
  message : Option String := none
  observedGeneration : Option Int := none
  deriving DecidableEq, Inhabited

namespace AppStatus

def decode : Decoder AppStatus :=
  Fields.record "CompositeAppStatus" (
    AppStatus.mk
      <$> Fields.withDefault "availableReplicas" ∅ (Decoder.dict Decoder.int32)
      <*> Fields.withDefault "success" false Decoder.boolean
      <*> Fields.withDefault "desc" {} StatusSummary.decode
      <*> Fields.optional "message" Decoder.text
      <*> Fields.optional "observedGeneration" Decoder.int64)

def toJson (s : AppStatus) : Json :=
  Json.ofOptionalFields [
    ("availableReplicas", unlessEmpty (·.isEmpty) (Json.ofDict .int) s.availableReplicas),
    ("desc", some s.summary.toJson),
    ("message", s.message.map .str),
    ("observedGeneration", s.observedGeneration.map .int),
    ("success", some (.bool s.success))]

end AppStatus

structure CompositeApp where
  metadata : ObjectMeta
  spec : AppSpec
  status : Option AppStatus := none
  deriving DecidableEq, Inhabited

namespace CompositeApp

def apiVersion : String := "apps.composite.dev/v1"

def decode : Decoder CompositeApp :=
  Fields.record "CompositeApp" (
    CompositeApp.mk
      <$> Fields.required "metadata" ObjectMeta.decode
      <*> Fields.required "spec" AppSpec.decode
      <*> Fields.optional "status" AppStatus.decode)

def toJson (a : CompositeApp) : Json :=
  Json.ofOptionalFields [
    ("apiVersion", some (.str apiVersion)), ("kind", some (.str "CompositeApp")),
    ("metadata", some a.metadata.toJson), ("spec", some a.spec.toJson),
    ("status", a.status.map AppStatus.toJson)]

def appLabel : String := "apps.composite.dev/app"

def versionLabel : String := "version"

def name (a : CompositeApp) : String :=
  a.metadata.displayName

def namespaceName (a : CompositeApp) : String :=
  a.metadata.namespaceOrDefault

def key (a : CompositeApp) : String :=
  a.namespaceName ++ "/" ++ a.name

def versionName (a : CompositeApp) (e : VersionEntry) : String :=
  a.name ++ "-" ++ e.version

def findVersion? (a : CompositeApp) (version : String) : Option VersionEntry :=
  a.spec.apps.find? (·.version = version)

def declares (a : CompositeApp) (version : String) : Bool :=
  (a.findVersion? version).isSome

def selector (a : CompositeApp) : Labels :=
  (∅ : Labels).insert appLabel a.name

def versionSelector (a : CompositeApp) (e : VersionEntry) : Labels :=
  a.selector.insert versionLabel e.version

def childLabels (a : CompositeApp) : Labels :=
  Labels.merge a.metadata.labelsOrEmpty a.selector

def versionLabels (a : CompositeApp) (e : VersionEntry) : Labels :=
  Labels.merge a.metadata.labelsOrEmpty (a.versionSelector e)

def serviceHost (a : CompositeApp) : String :=
  a.name ++ "." ++ a.namespaceName ++ ".svc.cluster.local"

/-- The path under which the app is reached from outside: none without a gateway or where it is
set empty, the name of the app where it is not set, with a leading slash in any case. -/
def prefixPath (a : CompositeApp) : String :=
  match a.spec.gateway with
  | none => ""
  | some gateway =>
    match gateway.pathPrefix with
    | none => "/" ++ a.name
    | some path =>
      if path = "" then "" else if path.toList.head? = some '/' then path else "/" ++ path

end CompositeApp

end CompositeApps
