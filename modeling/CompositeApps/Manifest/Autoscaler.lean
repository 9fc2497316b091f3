import CompositeApps.Manifest.Metadata

/-!
Autoscalers: how many pods a deployment may be scaled to, and at what load.
-/

namespace CompositeApps

structure ScaleTarget where
  apiVersion : Option String := none
  kind : String := ""
  name : String := ""
  deriving DecidableEq, Inhabited

namespace ScaleTarget

def decode : Decoder ScaleTarget :=
  Fields.object "CrossVersionObjectReference" (
    ScaleTarget.mk
      <$> Fields.optional "apiVersion" Decoder.text
      <*> Fields.orDefault "kind" "" Decoder.text
      <*> Fields.orDefault "name" "" Decoder.text)

def toJson (t : ScaleTarget) : Json :=
  Json.ofOptionalFields [
    ("apiVersion", t.apiVersion.map .str), ("kind", some (.str t.kind)),
    ("name", some (.str t.name))]

end ScaleTarget

structure AutoscalerSpec where
  maxReplicas : Int
  minReplicas : Option Int
  scaleTargetRef : ScaleTarget
  targetCpuPercent : Option Int
  deriving DecidableEq, Inhabited

namespace AutoscalerSpec

def decode : Decoder AutoscalerSpec :=
  Fields.object "HorizontalPodAutoscalerSpec" (
    AutoscalerSpec.mk
      <$> Fields.orDefault "maxReplicas" 0 Decoder.int32
      <*> Fields.optional "minReplicas" Decoder.int32
      <*> Fields.orDefault "scaleTargetRef" {} ScaleTarget.decode
      <*> Fields.optional "targetCPUUtilizationPercentage" Decoder.int32)

def toJson (s : AutoscalerSpec) : Json :=
  Json.ofOptionalFields [
    ("maxReplicas", some (.int s.maxReplicas)),
    ("minReplicas", s.minReplicas.map .int),
    ("scaleTargetRef", some s.scaleTargetRef.toJson),
    ("targetCPUUtilizationPercentage", s.targetCpuPercent.map .int)]

end AutoscalerSpec

structure Autoscaler where
  metadata : ObjectMeta := {}
  spec : Option AutoscalerSpec := none
  status : Option Json := none
  deriving DecidableEq, Inhabited

namespace Autoscaler

open Shape in
def statusShape : Shape :=
  object "HorizontalPodAutoscalerStatus" [
    opt "currentCPUUtilizationPercentage" int32, req "currentReplicas" int32,
    req "desiredReplicas" int32, opt "lastScaleTime" timestamp, opt "observedGeneration" int64]

def decode : Decoder Autoscaler :=
  Fields.object "HorizontalPodAutoscaler" (
    (fun _ _ metadata spec status => Autoscaler.mk metadata spec status)
      <$> Fields.literal "apiVersion" "autoscaling/v1"
      <*> Fields.literal "kind" "HorizontalPodAutoscaler"
      <*> Fields.orDefault "metadata" {} ObjectMeta.decode
      <*> Fields.optional "spec" AutoscalerSpec.decode
      <*> Fields.optional "status" statusShape.read)

def toJson (a : Autoscaler) : Json :=
  Json.ofOptionalFields [
    ("apiVersion", some (.str "autoscaling/v1")), ("kind", some (.str "HorizontalPodAutoscaler")),
    ("metadata", some a.metadata.toJson), ("spec", a.spec.map AutoscalerSpec.toJson),
    ("status", a.status)]

end Autoscaler

end CompositeApps
