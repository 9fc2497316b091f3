import CompositeApps.Manifest.Pod

/-!
Deployments: how many pods of which template should run, and how they are replaced.
-/

namespace CompositeApps

structure LabelSelector where
  matchExpressions : Option Json := none
  matchLabels : Option Labels := none
  deriving DecidableEq, Inhabited

namespace LabelSelector

def expressions : Shape :=
  .list (.object "LabelSelectorRequirement" [
    Shape.req "key" .text, Shape.req "operator" .text, Shape.opt "values" Shape.texts])

def decode : Decoder LabelSelector :=
  Fields.object "LabelSelector" (
    LabelSelector.mk
      <$> Fields.optional "matchExpressions" expressions.read
      <*> Fields.optional "matchLabels" (Decoder.dict Decoder.text))

def toJson (s : LabelSelector) : Json :=
  Json.ofOptionalFields [
    ("matchExpressions", s.matchExpressions), ("matchLabels", s.matchLabels.map Json.ofTexts)]

end LabelSelector

structure RollingUpdate where
  maxSurge : Option IntOrText
  maxUnavailable : Option IntOrText
  deriving DecidableEq, Inhabited

namespace RollingUpdate

def decode : Decoder RollingUpdate :=
  Fields.object "RollingUpdateDeployment" (
    RollingUpdate.mk
      <$> Fields.optional "maxSurge" IntOrText.decode
      <*> Fields.optional "maxUnavailable" IntOrText.decode)

def toJson (u : RollingUpdate) : Json :=
  Json.ofOptionalFields [
    ("maxSurge", u.maxSurge.map IntOrText.toJson),
    ("maxUnavailable", u.maxUnavailable.map IntOrText.toJson)]

end RollingUpdate

structure DeploymentStrategy where
  rollingUpdate : Option RollingUpdate
  type : Option String
  deriving DecidableEq, Inhabited

namespace DeploymentStrategy

def decode : Decoder DeploymentStrategy :=
  Fields.object "DeploymentStrategy" (
    DeploymentStrategy.mk
      <$> Fields.optional "rollingUpdate" RollingUpdate.decode
      <*> Fields.optional "type" Decoder.text)

def toJson (s : DeploymentStrategy) : Json :=
  Json.ofOptionalFields [
    ("rollingUpdate", s.rollingUpdate.map RollingUpdate.toJson), ("type", s.type.map .str)]

end DeploymentStrategy

structure DeploymentSpec where
  minReadySeconds : Option Int := none
  paused : Option Bool := none
  progressDeadlineSeconds : Option Int := none
  replicas : Option Int := none
  revisionHistoryLimit : Option Int := none
  selector : LabelSelector := {}
  strategy : Option DeploymentStrategy := none
  template : PodTemplate := {}
  deriving DecidableEq, Inhabited

namespace DeploymentSpec

def decode : Decoder DeploymentSpec :=
  Fields.object "DeploymentSpec" (
    DeploymentSpec.mk
      <$> Fields.optional "minReadySeconds" Decoder.int32
      <*> Fields.optional "paused" Decoder.boolean
      <*> Fields.optional "progressDeadlineSeconds" Decoder.int32
      <*> Fields.optional "replicas" Decoder.int32
      <*> Fields.optional "revisionHistoryLimit" Decoder.int32
      <*> Fields.orDefault "selector" {} LabelSelector.decode
      <*> Fields.optional "strategy" DeploymentStrategy.decode
      <*> Fields.orDefault "template" {} PodTemplate.decode)

def toJson (s : DeploymentSpec) : Json :=
  Json.ofOptionalFields [
    ("minReadySeconds", s.minReadySeconds.map .int),
    ("paused", s.paused.map .bool),
    ("progressDeadlineSeconds", s.progressDeadlineSeconds.map .int),
    ("replicas", s.replicas.map .int),
    ("revisionHistoryLimit", s.revisionHistoryLimit.map .int),
    ("selector", some s.selector.toJson),
    ("strategy", s.strategy.map DeploymentStrategy.toJson),
    ("template", some s.template.toJson)]

end DeploymentSpec

structure DeploymentStatus where
  availableReplicas : Option Int := none
  extra : Extra := []
  deriving DecidableEq, Inhabited

namespace DeploymentStatus

open Shape in
def extraFields : Table := [
  opt "collisionCount" int32,
  opt "conditions" (list (object "DeploymentCondition" [
    opt "lastTransitionTime" timestamp, opt "lastUpdateTime" timestamp, opt "message" text,
    opt "reason" text, req "status" text, req "type" text])),
  opt "observedGeneration" int64, opt "readyReplicas" int32, opt "replicas" int32,
  opt "unavailableReplicas" int32, opt "updatedReplicas" int32]

def decode : Decoder DeploymentStatus :=
  Fields.object "DeploymentStatus" (
    DeploymentStatus.mk
      <$> Fields.optional "availableReplicas" Decoder.int32
      <*> Shape.known extraFields)

def toJson (s : DeploymentStatus) : Json :=
  Json.ofEntries [("availableReplicas", s.availableReplicas.map .int)] s.extra

end DeploymentStatus

structure Deployment where
  metadata : ObjectMeta := {}
  spec : Option DeploymentSpec := none
  status : Option DeploymentStatus := none
  deriving DecidableEq, Inhabited

namespace Deployment

def decode : Decoder Deployment :=
  Fields.object "Deployment" (
    (fun _ _ metadata spec status => Deployment.mk metadata spec status)
      <$> Fields.literal "apiVersion" "apps/v1"
      <*> Fields.literal "kind" "Deployment"
      <*> Fields.orDefault "metadata" {} ObjectMeta.decode
      <*> Fields.optional "spec" DeploymentSpec.decode
      <*> Fields.optional "status" DeploymentStatus.decode)

def toJson (d : Deployment) : Json :=
  Json.ofOptionalFields [
    ("apiVersion", some (.str "apps/v1")), ("kind", some (.str "Deployment")),
    ("metadata", some d.metadata.toJson), ("spec", d.spec.map DeploymentSpec.toJson),
    ("status", d.status.map DeploymentStatus.toJson)]

end Deployment

end CompositeApps
