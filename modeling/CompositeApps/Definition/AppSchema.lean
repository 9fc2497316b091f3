import CompositeApps.App.Basic
import CompositeApps.Definition.Schema

/-!
What apps look like. The types that the cluster itself defines are not repeated: of their objects
nothing more is said.
-/

namespace CompositeApps

open Schema SchemaField

namespace AppRole

def schema : Schema :=
  (choice ([gateway, service, worker].map name)).described
    "Kind of service the app is; gateways and services expose a diagnostics port."

end AppRole

namespace Protocol

def schema : Schema :=
  choice ([http, grpc, plain].map name)

end Protocol

namespace ScalingEngine

def schema : Schema :=
  (choice ([hpa, external].map name)).described
    "Who owns the replica count: our autoscaler or something outside the operator."

end ScalingEngine

namespace Rollout

def schema : Schema :=
  choice ([rollingUpdate, recreate].map name)

end Rollout

namespace ProbeSpec

def schema : Schema :=
  record [
    orEmpty "execCommand" (list text), optional "httpPath" text,
    withDefault "timeoutSeconds" int32 (.int 0), withDefault "initialDelaySeconds" int32 (.int 0)]

end ProbeSpec

namespace VersionEntry

def schema : Schema :=
  (record [
    mandatory "version" text,
    mandatory "image" text,
    withDefault "resources" anyObject (.obj []),
    mandatory "minReplicas" int32,
    mandatory "maxReplicas" int32,
    mandatory "port" int32,
    withDefault "protocol" Protocol.schema (.str Protocol.http.name),
    orEmpty "restartMark"
      (text.described "Changing this value rolls the pods without any other spec change."),
    optional "readinessProbe" ProbeSpec.schema,
    optional "livenessProbe" ProbeSpec.schema,
    withDefault "scalingEngine" ScalingEngine.schema (.str ScalingEngine.hpa.name),
    withDefault "rollingUpdateType" Rollout.schema (.str Rollout.rollingUpdate.name),
    orEmpty "env" (list anyObject),
    orEmpty "templateLabels" (dict text),
    orEmpty "templateAnnotations" (dict text),
    optional "imagePullSecret" text,
    optional "logPath" text,
    optional "terminationGracePeriodSeconds" int64,
    orEmpty "nodeSelector" (dict text),
    orEmpty "hostAliases" (list anyObject),
    optional "affinity" anyObject,
    orEmpty "tolerations" (list anyObject),
    optional "proxyResources" (anyObject.described
      "Istio sidecar requests and limits, rendered as pod template annotations.")]).described
    "One concurrently running version of the app."

end VersionEntry

namespace CorsSpec

def schema : Schema :=
  record (["allowOrigins", "allowMethods", "allowHeaders", "exposeHeaders"].map fun name =>
    withDefault name (list text) (.arr []))

end CorsSpec

namespace VersionRoute

def schema : Schema :=
  (record [withDefault "headersMatch" (list (dict text)) (.arr [])]).described
    "Extra header matches that pin a request to one version."

end VersionRoute

namespace GatewaySpec

def schema : Schema :=
  (record [
    mandatory "hosts" (list text),
    optional "pathPrefix" (text.described "Unset means `/<app name>`; empty means no prefix."),
    withDefault "weights"
      ((dict int32).described "Version name to traffic share; shares sum to 100.") (.obj []),
    optional "cors" CorsSpec.schema,
    orEmpty "routes" (dict VersionRoute.schema),
    optional "gateway" text]).described
    "External exposure through the mesh ingress gateway."

end GatewaySpec

namespace RetrySpec

def schema : Schema :=
  record [mandatory "attempts" int32, optional "perTryTimeout" text, optional "retryOn" text]

end RetrySpec

namespace DelaySpec

def schema : Schema :=
  record [mandatory "percent" binary64, mandatory "delay" text]

end DelaySpec

namespace AbortSpec

def schema : Schema :=
  record [mandatory "percent" binary64, mandatory "httpStatus" int32]

end AbortSpec

namespace FaultSpec

def schema : Schema :=
  record [optional "delay" DelaySpec.schema, optional "abort" AbortSpec.schema]

end FaultSpec

namespace OutlierSpec

def schema : Schema :=
  record [
    mandatory "consecutiveErrors" uint32, optional "interval" text, optional "ejectionTime" text,
    withDefault "maxEjectionPercent" int32 (.int 0), withDefault "minHealthPercent" int32 (.int 0)]

end OutlierSpec

namespace TrafficPolicySpec

def schema : Schema :=
  (record [
    optional "maxRequests" int32,
    optional "timeout" text,
    optional "retries" RetrySpec.schema,
    optional "fault" FaultSpec.schema,
    optional "outlierDetection" OutlierSpec.schema]).described
    ("Resilience settings applied to every route and to the destination rule. " ++
      "Durations use humantime syntax (`5s`, `250ms`, `1m`).")

end TrafficPolicySpec

namespace AppSpec

def schema : Schema :=
  record [
    optional "role" AppRole.schema,
    withDefault "apps" (list VersionEntry.schema) (.arr []),
    optional "gateway" GatewaySpec.schema,
    optional "policy" TrafficPolicySpec.schema]

end AppSpec

namespace StatusSummary

def schema : Schema :=
  (record (["replicas", "images", "weights", "prefixPath"].map fun name =>
    withDefault name text (.str ""))).described
    "Human-readable summary rendered in the printer columns."

end StatusSummary

namespace AppStatus

def schema : Schema :=
  record [
    orEmpty "availableReplicas" (dict int32),
    withDefault "success" boolean (.bool false),
    withDefault "desc" StatusSummary.schema (StatusSummary.toJson {}),
    optional "message" text,
    optional "observedGeneration" int64]

end AppStatus

namespace CompositeApp

def schema : Schema :=
  ((record [mandatory "spec" AppSpec.schema, optional "status" AppStatus.schema]).described
    "Auto-generated derived type for CompositeAppSpec via `CustomResource`").withRule
    "title" (.str "CompositeApp")

end CompositeApp

end CompositeApps
