import CompositeApps.App.Image
import CompositeApps.Manifest.Container
import CompositeApps.Manifest.VirtualService

/-!
The versions of an app that run side by side.
-/

namespace CompositeApps

inductive AppRole where
  | gateway
  | service
  | worker
  deriving DecidableEq, Repr, Inhabited

namespace AppRole

def decode : Decoder AppRole :=
  Decoder.enumeration [("gateway", gateway), ("service", service), ("worker", worker)]

def name : AppRole → String
  | gateway => "gateway"
  | service => "service"
  | worker => "worker"

end AppRole

inductive Protocol where
  | http
  | grpc
  | plain
  deriving DecidableEq, Repr, Inhabited

namespace Protocol

def decode : Decoder Protocol :=
  Decoder.enumeration [("http", http), ("grpc", grpc), ("none", plain)]

def name : Protocol → String
  | http => "http"
  | grpc => "grpc"
  | plain => "none"

/-- How the name of the port begins; the mesh tells the protocol by it. -/
def portScheme : Protocol → String
  | http => "http"
  | grpc => "grpc"
  | plain => "tcp"

end Protocol

inductive ScalingEngine where
  | hpa
  | external
  deriving DecidableEq, Repr, Inhabited

namespace ScalingEngine

def decode : Decoder ScalingEngine :=
  Decoder.enumeration [("hpa", hpa), ("external", external)]

def name : ScalingEngine → String
  | hpa => "hpa"
  | external => "external"

end ScalingEngine

inductive Rollout where
  | rollingUpdate
  | recreate
  deriving DecidableEq, Repr, Inhabited

namespace Rollout

def decode : Decoder Rollout :=
  Decoder.enumeration [
    ("RollingUpdate", rollingUpdate), ("rollingUpdate", rollingUpdate),
    ("rollingupdate", rollingUpdate), ("Recreate", recreate), ("recreate", recreate)]

def name : Rollout → String
  | rollingUpdate => "RollingUpdate"
  | recreate => "Recreate"

end Rollout

/-- How the health of a pod is checked: by an HTTP path, else by a command, else by its port. -/
structure ProbeSpec where
  execCommand : List String := []
  httpPath : Option String := none
  timeoutSeconds : Int := 0
  initialDelaySeconds : Int := 0
  deriving DecidableEq, Repr, Inhabited

namespace ProbeSpec

def decode : Decoder ProbeSpec :=
  Fields.record "ProbeSpec" (
    ProbeSpec.mk
      <$> Fields.withDefault "execCommand" [] (Decoder.list Decoder.text)
      <*> Fields.optional "httpPath" Decoder.text
      <*> Fields.withDefault "timeoutSeconds" 0 Decoder.int32
      <*> Fields.withDefault "initialDelaySeconds" 0 Decoder.int32)

def toJson (p : ProbeSpec) : Json :=
  Json.ofOptionalFields [
    ("execCommand", unlessEmpty (·.isEmpty) (Json.ofList .str) p.execCommand),
    ("httpPath", p.httpPath.map .str),
    ("initialDelaySeconds", some (.int p.initialDelaySeconds)),
    ("timeoutSeconds", some (.int p.timeoutSeconds))]

end ProbeSpec

structure VersionEntry where
  version : String
  image : String
  resources : ResourceRequirements := {}
  minReplicas : Int
  maxReplicas : Int
  port : Int
  protocol : Protocol := .http
  restartMark : String := ""
  readinessProbe : Option ProbeSpec := none
  livenessProbe : Option ProbeSpec := none
  scalingEngine : ScalingEngine := .hpa
  rollout : Rollout := .rollingUpdate
  env : List EnvVar := []
  templateLabels : Labels := ∅
  templateAnnotations : Labels := ∅
  imagePullSecret : Option String := none
  logPath : Option String := none
  terminationGracePeriodSeconds : Option Int := none
  nodeSelector : Labels := ∅
  hostAliases : List Json := []
  affinity : Option Json := none
  tolerations : List Json := []
  proxyResources : Option ResourceRequirements := none
  deriving DecidableEq, Inhabited

namespace VersionEntry

def decode : Decoder VersionEntry :=
  Fields.record "VersionEntry" (
    VersionEntry.mk
      <$> Fields.required "version" Decoder.text
      <*> Fields.required "image" Decoder.text
      <*> Fields.withDefault "resources" {} ResourceRequirements.decode
      <*> Fields.required "minReplicas" Decoder.int32
      <*> Fields.required "maxReplicas" Decoder.int32
      <*> Fields.required "port" Decoder.int32
      <*> Fields.withDefault "protocol" .http Protocol.decode
      <*> Fields.withDefault "restartMark" "" Decoder.text
      <*> Fields.optional "readinessProbe" ProbeSpec.decode
      <*> Fields.optional "livenessProbe" ProbeSpec.decode
      <*> Fields.withDefault "scalingEngine" .hpa ScalingEngine.decode
      <*> Fields.withDefault "rollingUpdateType" .rollingUpdate Rollout.decode
      <*> Fields.withDefault "env" [] (Decoder.list EnvVar.decode)
      <*> Fields.withDefault "templateLabels" ∅ (Decoder.dict Decoder.text)
      <*> Fields.withDefault "templateAnnotations" ∅ (Decoder.dict Decoder.text)
      <*> Fields.optional "imagePullSecret" Decoder.text
      <*> Fields.optional "logPath" Decoder.text
      <*> Fields.optional "terminationGracePeriodSeconds" Decoder.int64
      <*> Fields.withDefault "nodeSelector" ∅ (Decoder.dict Decoder.text)
      <*> Fields.withDefault "hostAliases" [] (Decoder.list Shape.hostAlias.read)
      <*> Fields.optional "affinity" Shape.affinity.read
      <*> Fields.withDefault "tolerations" [] (Decoder.list Shape.toleration.read)
      <*> Fields.optional "proxyResources" ResourceRequirements.decode)

def toJson (e : VersionEntry) : Json :=
  Json.ofOptionalFields [
    ("affinity", e.affinity),
    ("env", unlessEmpty (·.isEmpty) (Json.ofList EnvVar.toJson) e.env),
    ("hostAliases", unlessEmpty (·.isEmpty) .arr e.hostAliases),
    ("image", some (.str e.image)),
    ("imagePullSecret", e.imagePullSecret.map .str),
    ("livenessProbe", e.livenessProbe.map ProbeSpec.toJson),
    ("logPath", e.logPath.map .str),
    ("maxReplicas", some (.int e.maxReplicas)),
    ("minReplicas", some (.int e.minReplicas)),
    ("nodeSelector", unlessEmpty (·.isEmpty) Json.ofTexts e.nodeSelector),
    ("port", some (.int e.port)),
    ("protocol", some (.str e.protocol.name)),
    ("proxyResources", e.proxyResources.map ResourceRequirements.toJson),
    ("readinessProbe", e.readinessProbe.map ProbeSpec.toJson),
    ("resources", some e.resources.toJson),
    ("restartMark", unlessEmpty (·.isEmpty) .str e.restartMark),
    ("rollingUpdateType", some (.str e.rollout.name)),
    ("scalingEngine", some (.str e.scalingEngine.name)),
    ("templateAnnotations", unlessEmpty (·.isEmpty) Json.ofTexts e.templateAnnotations),
    ("templateLabels", unlessEmpty (·.isEmpty) Json.ofTexts e.templateLabels),
    ("terminationGracePeriodSeconds", e.terminationGracePeriodSeconds.map .int),
    ("tolerations", unlessEmpty (·.isEmpty) .arr e.tolerations),
    ("version", some (.str e.version))]

/-- The `minReplicas` of a version whose deployment and autoscaler must go. -/
def removedMark : Int := -1

def isRemoved (e : VersionEntry) : Bool :=
  e.minReplicas = removedMark

def imageReference (e : VersionEntry) : String :=
  Image.reference e.image e.version

def imageTag (e : VersionEntry) : String :=
  Image.tag e.image

end VersionEntry

end CompositeApps
